import StructMatch.Proofs.Provenance

/-!
# Which texts have a provenance

What is read from a text is told here without the reader.  The lines of a text are those of
`HasLines`, and the comments that it begins with are a run of them that nothing prolongs,
`BeginsWith`.  The last line of each of the two forms in this run gives the provenance:
`read?_eq_some_iff_lastOfForm`.

So only the run counts.  It ends with the first line that is no comment, whatever comes after it,
and comments of neither form may come and go anywhere in it.
-/

namespace StructMatch

open Text

/-! ## The lines of a text -/

/-- The lines that a text is made of.  A line ends at a line feed, and so does one with a carriage
return before the line feed.  What is left after the last line feed is a line as it stands, unless
nothing is left. -/
inductive HasLines : List Char → List (List Char) → Prop
  | nil : HasLines [] []
  | last {line : List Char} (hne : line ≠ []) (hfeed : '\n' ∉ line) : HasLines line [line]
  | feed {line rest : List Char} {lines : List (List Char)} (hfeed : '\n' ∉ line)
      (hreturn : line.getLast? ≠ some '\r') (hrest : HasLines rest lines) :
      HasLines (line ++ '\n' :: rest) (line :: lines)
  | returnFeed {line rest : List Char} {lines : List (List Char)} (hfeed : '\n' ∉ line)
      (hrest : HasLines rest lines) : HasLines (line ++ '\r' :: '\n' :: rest) (line :: lines)

theorem lines_of_notMem {line : List Char} (hne : line ≠ []) (hfeed : '\n' ∉ line) :
    lines line = [line] := by
  have hgo (start : List Char) : lines.go start line = [start.reverse ++ line] := by
    clear hne
    induction line generalizing start with
    | nil => simp [lines.go]
    | cons c line ih =>
        rw [List.mem_cons, not_or] at hfeed
        rw [linesGo_of_ne (Ne.symm hfeed.1), ih hfeed.2, List.reverse_cons, List.append_assoc,
          List.singleton_append]
  rw [lines_eq_go hne, hgo]
  rfl

theorem HasLines.lines_eq {cs : List Char} {ls : List (List Char)} (h : HasLines cs ls) :
    lines cs = ls := by
  induction h with
  | nil => rfl
  | last hne hfeed => exact lines_of_notMem hne hfeed
  | feed hfeed hreturn _ ih => rw [lines_append_of_notMem hfeed, ih, dropReturn, if_neg hreturn]
  | @returnFeed line rest _ hfeed _ ih =>
      have hfeed' : '\n' ∉ line ++ ['\r'] := by simp [hfeed]
      have hend : line ++ '\r' :: '\n' :: rest = (line ++ ['\r']) ++ '\n' :: rest := by simp
      rw [hend, lines_append_of_notMem hfeed', ih]
      simp [dropReturn]

/-- Every text has lines. -/
theorem hasLines_lines (cs : List Char) : HasLines cs (lines cs) := by
  by_cases hfeed : '\n' ∈ cs
  · -- the text goes on after its first line feed
    obtain ⟨line, rest, rfl, hline⟩ := List.eq_append_cons_of_mem hfeed
    have hrest := hasLines_lines rest
    rw [lines_append_of_notMem hline]
    by_cases hreturn : line.getLast? = some '\r'
    · obtain ⟨front, rfl⟩ := List.getLast?_eq_some_iff.1 hreturn
      rw [dropReturn, if_pos hreturn, List.dropLast_concat, List.append_assoc]
      exact .returnFeed (fun hmem => hline (List.mem_append_left _ hmem)) hrest
    · rw [dropReturn, if_neg hreturn]
      exact .feed hline hreturn hrest
  · by_cases hne : cs = []
    · subst hne
      exact .nil
    · rw [lines_of_notMem hne hfeed]
      exact .last hne hfeed
termination_by cs.length

/-! ## The comments that a text begins with -/

/-- Whether a line begins with two slashes. -/
def StartsComment (line : List Char) : Prop := ['/', '/'] <+: line

theorem isComment_iff {line : List Char} :
    Provenance.isComment line = true ↔ StartsComment line := by
  rw [Provenance.isComment, Option.isSome_iff_exists]
  exact exists_congr fun rest => afterStart?_eq_some_iff.trans eq_comm

/-- Whether a text begins with exactly the given comments: they are its first lines, and the line
after them, if there is one, is no comment. -/
def BeginsWith (text : String) (comments : List (List Char)) : Prop :=
  ∃ rest, HasLines text.toList (comments ++ rest) ∧ (∀ line ∈ comments, StartsComment line) ∧
    ∀ line ∈ rest.head?, ¬StartsComment line

theorem beginsWith_iff {text : String} {comments : List (List Char)} :
    BeginsWith text comments ↔ leadingComments text = comments := by
  have hcomments : leadingComments text = (lines text.toList).takeWhile Provenance.isComment := rfl
  rw [hcomments]
  constructor
  · rintro ⟨rest, hlines, hall, hnext⟩
    have hrest : rest.takeWhile Provenance.isComment = [] := by
      cases rest with
      | nil => rfl
      | cons line rest =>
          have hline : ¬Provenance.isComment line = true :=
            fun h => hnext line (by simp) (isComment_iff.1 h)
          rw [List.takeWhile_cons_of_neg hline]
    rw [hlines.lines_eq, List.takeWhile_append_of_pos fun line hline =>
      isComment_iff.2 (hall line hline), hrest, List.append_nil]
  · rintro rfl
    refine ⟨(lines text.toList).dropWhile Provenance.isComment, ?_, fun line hline => ?_,
      fun line hline => ?_⟩
    · rw [List.takeWhile_append_dropWhile]
      exact hasLines_lines _
    · exact isComment_iff.1 (List.all_eq_true.1 List.all_takeWhile line hline)
    · have hhead := List.head?_dropWhile_not Provenance.isComment (lines text.toList)
      rw [Option.mem_def.1 hline] at hhead
      intro hstarts
      simp [isComment_iff.2 hstarts] at hhead

theorem HasLines.first_isPrefix {cs line : List Char} {ls : List (List Char)}
    (h : HasLines cs (line :: ls)) : line <+: cs := by
  cases h with
  | last => exact List.prefix_rfl
  | feed => exact List.prefix_append _ _
  | returnFeed => exact List.prefix_append _ _

/-- A text that does not begin with two slashes begins with no comments. -/
theorem leadingComments_eq_nil {text : String} (h : ¬StartsComment text.toList) :
    leadingComments text = [] := by
  have hlines := hasLines_lines text.toList
  refine beginsWith_iff.1 ⟨_, hlines, by simp, fun line hline hstarts => ?_⟩
  obtain ⟨rest, hrest⟩ : ∃ rest, lines text.toList = line :: rest := List.head?_eq_some_iff.1 hline
  rw [hrest] at hlines
  exact h (hstarts.trans hlines.first_isPrefix)

/-- Where whole lines are followed by a text that does not begin with two slashes, this text does
not count. -/
theorem leadingComments_append {start rest : String}
    (hstart : start = "" ∨ start.toList.getLast? = some '\n') (hrest : ¬StartsComment rest.toList) :
    leadingComments (start ++ rest) = leadingComments start := by
  have hnone : (lines rest.toList).takeWhile Provenance.isComment = [] :=
    leadingComments_eq_nil hrest
  rcases hstart with rfl | hlast
  · rw [String.empty_append]
    exact hnone
  · obtain ⟨front, hfront⟩ := List.getLast?_eq_some_iff.1 hlast
    unfold leadingComments
    rw [String.toList_append, hfront, List.append_assoc, List.singleton_append, lines_append]
    generalize lines (front ++ ['\n']) = before
    induction before with
    | nil => exact hnone
    | cons line before ih => rw [List.cons_append, List.takeWhile_cons, ih, List.takeWhile_cons]

/-! ## The last line of a form -/

/-- Whether a name is that of the last line of a form.  Lines of the form that have no proper name
in them do not count. -/
def IsLastName (form : List Char → List Char) (IsProper : String → Prop)
    (comments : List (List Char)) (name : String) : Prop :=
  IsProper name ∧ ∃ before after, comments = before ++ form name.toList :: after ∧
    ∀ other, IsProper other → form other.toList ∉ after

section LastOfForm

variable {reader : List Char → Option String} {form : List Char → List Char}
  {IsProper : String → Prop}

/-- A reader takes none of some lines exactly if no line of its form is among them. -/
theorem forall_eq_none_iff {lines : List (List Char)}
    (hreader : ∀ line name, reader line = some name ↔ line = form name.toList ∧ IsProper name) :
    (∀ line ∈ lines, reader line = none) ↔ ∀ name, IsProper name → form name.toList ∉ lines := by
  constructor
  · intro hnone name hproper hmem
    have hsome : reader (form name.toList) = some name := (hreader _ _).2 ⟨rfl, hproper⟩
    exact Option.some_ne_none name (hsome.symm.trans (hnone _ hmem))
  · intro hform line hline
    rw [Option.eq_none_iff_forall_ne_some]
    intro name hname
    obtain ⟨rfl, hproper⟩ := (hreader line name).1 hname
    exact hform name hproper hline

/-- The last line that a reader takes is the last one of its form. -/
theorem findSome?_reverse_eq_some_iff
    (hreader : ∀ line name, reader line = some name ↔ line = form name.toList ∧ IsProper name)
    {comments : List (List Char)} {name : String} :
    comments.reverse.findSome? reader = some name ↔ IsLastName form IsProper comments name := by
  rw [List.findSome?_eq_some_iff]
  constructor
  · rintro ⟨after, line, before, hsplit, hline, hafter⟩
    obtain ⟨rfl, hproper⟩ := (hreader line name).1 hline
    refine ⟨hproper, before.reverse, after.reverse, ?_, (forall_eq_none_iff hreader).1 ?_⟩
    · rw [← List.reverse_reverse comments, hsplit]
      simp
    · exact fun line hmem => hafter line (List.mem_reverse.1 hmem)
  · rintro ⟨hproper, before, after, rfl, hafter⟩
    refine ⟨after.reverse, form name.toList, before.reverse, by simp,
      (hreader _ _).2 ⟨rfl, hproper⟩, fun line hmem => ?_⟩
    exact (forall_eq_none_iff hreader).2 hafter line (List.mem_reverse.1 hmem)

/-- Lines that are not of the form may come and go. -/
theorem findSome?_reverse_insert
    (hreader : ∀ line name, reader line = some name ↔ line = form name.toList ∧ IsProper name)
    {inserted : List (List Char)} (h : ∀ name, IsProper name → form name.toList ∉ inserted)
    (before after : List (List Char)) :
    (before ++ inserted ++ after).reverse.findSome? reader =
      (before ++ after).reverse.findSome? reader := by
  have hnone : inserted.reverse.findSome? reader = none :=
    List.findSome?_eq_none_iff.2 fun line hline =>
      (forall_eq_none_iff hreader).2 h line (List.mem_reverse.1 hline)
  simp only [List.reverse_append, List.findSome?_append, hnone, Option.none_or]

end LastOfForm

/-! ## What is read from a text -/

namespace Provenance

/-- The names that a line about the generator can have in it. -/
def IsGenerator (name : String) : Prop := name ≠ ""

/-- The names that a line about the origin can have in it. -/
def IsOrigin (path : String) : Prop := path ≠ "" ∧ path.toList.any isBlank = false

/-- A provenance is read from a text exactly if its names are those of the last line about a
generator and of the last line about an origin among the comments that the text begins with.  What
follows on whole lines and is no comment does not count, and neither do comments that are about none
of the two, wherever they stand. -/
theorem read?_eq_some_iff_lastOfForm (text : String) :
    (∀ p, read? text = some p ↔ ∃ comments, BeginsWith text comments ∧
      IsLastName generatorLine IsGenerator comments p.generatedBy ∧
      IsLastName originLine IsOrigin comments p.basedOn) ∧
    (text = "" ∨ text.toList.getLast? = some '\n' →
      ∀ rest : String, ¬StartsComment rest.toList → read? (text ++ rest) = read? text) ∧
    ∀ before inserted after other, BeginsWith text (before ++ after) →
      BeginsWith other (before ++ inserted ++ after) →
      (∀ name, IsGenerator name → generatorLine name.toList ∉ inserted) →
      (∀ path, IsOrigin path → originLine path.toList ∉ inserted) → read? other = read? text := by
  have hlast {comments : List (List Char)} {p : Provenance} :
      (comments.reverse.findSome? generatorIn? = some p.generatedBy ∧
        comments.reverse.findSome? originIn? = some p.basedOn) ↔
      IsLastName generatorLine IsGenerator comments p.generatedBy ∧
        IsLastName originLine IsOrigin comments p.basedOn :=
    and_congr (findSome?_reverse_eq_some_iff fun _ _ => generatorIn?_eq_some_iff)
      (findSome?_reverse_eq_some_iff fun _ _ => originIn?_eq_some_iff)
  refine ⟨fun p => ?_, fun htext rest hrest => ?_, ?_⟩
  · simp only [beginsWith_iff, exists_eq_left', read?_eq_some_iff_findSome?, hlast]
  · rw [read?, read?, leadingComments_append htext hrest]
  · intro before inserted after other htext hother hgenerator horigin
    rw [read?, read?, beginsWith_iff.1 htext, beginsWith_iff.1 hother,
      findSome?_reverse_insert (fun _ _ => generatorIn?_eq_some_iff) hgenerator,
      findSome?_reverse_insert (fun _ _ => originIn?_eq_some_iff) horigin]

/-- A text that begins with two comments, in the other order than in a header. -/
def remarkedText : String :=
  "// based-on: crate::User\r\n// @generated by beanmatch. Do not edit by hand.\n"

/-- The same text with two more comments, from which nothing is read. -/
def furtherRemarkedText : String :=
  "// based-on: crate::User\r\n// based-on: crate::My User\n" ++
    "// @generated by . Do not edit by hand.\n// @generated by beanmatch. Do not edit by hand.\n"

/-- The provenance is that of the two comments, whatever stands after a line of code or between
them. -/
theorem read?_remarkedText :
    read? remarkedText = some ⟨"beanmatch", "crate::User"⟩ ∧
      ¬StartsComment "use std::fmt;\n// based-on: crate::Other\n".toList ∧
      read? (remarkedText ++ "use std::fmt;\n// based-on: crate::Other\n") =
        some ⟨"beanmatch", "crate::User"⟩ ∧
      read? furtherRemarkedText = some ⟨"beanmatch", "crate::User"⟩ := by
  have h := read?_eq_some_iff_lastOfForm remarkedText
  have hread : read? remarkedText = some ⟨"beanmatch", "crate::User"⟩ := by decide +kernel
  have hcode : ¬StartsComment "use std::fmt;\n// based-on: crate::Other\n".toList := by
    rw [← isComment_iff]
    decide +kernel
  refine ⟨hread, hcode, (h.2.1 (by decide +kernel) _ hcode).trans hread, ?_⟩
  refine Eq.trans (h.2.2 ["// based-on: crate::User".toList]
    ["// based-on: crate::My User".toList, "// @generated by . Do not edit by hand.".toList]
    ["// @generated by beanmatch. Do not edit by hand.".toList] furtherRemarkedText
    (beginsWith_iff.2 (by decide +kernel)) (beginsWith_iff.2 (by decide +kernel)) ?_ ?_) hread
  · exact (forall_eq_none_iff fun _ _ => generatorIn?_eq_some_iff).1 (by decide +kernel)
  · exact (forall_eq_none_iff fun _ _ => originIn?_eq_some_iff).1 (by decide +kernel)

end Provenance

end StructMatch
