import StructMatch.Proofs.Text.Line
import StructMatch.Provenance

/-!
# Reading a provenance back

The header of a generated file ends in an empty line, so that nothing after it counts when it is
read back: `read?_header_append`.  Whether it can be read back at all depends on the names in it,
which are written as they are.  It takes a generator with a name and an origin without blanks,
`legible_iff`, and a line feed in the origin hides what stands after it.

Whatever a text says, what is read from it is a generator's name on one line and an origin without
blanks, `names_of_read?`.  So these are also the names that a header gives back,
`read?_header_append_iff`.
-/

namespace StructMatch

open Text

/-- The first line of a name, as it is read back. -/
def firstLine (name : String) : List Char := dropReturn (name.toList.takeWhile (· ≠ '\n'))

namespace Provenance

/-! ## The comment lines of a header -/

/-- The line that says who generated a file. -/
def generatorLine (name : List Char) : List Char :=
  "// @generated by ".toList ++ name ++ ". Do not edit by hand.".toList

/-- The line that says which type a file is based on. -/
def originLine (path : List Char) : List Char := "// based-on: ".toList ++ path

/-- Whether a line is a comment. -/
def isComment (line : List Char) : Bool := (afterStart? ['/', '/'] line).isSome

theorem toList_header (p : Provenance) : p.header.toList =
    generatorLine p.generatedBy.toList ++
      '\n' :: (originLine p.basedOn.toList ++ '\n' :: ['\n']) := by
  have hmiddle : ". Do not edit by hand.\n// based-on: ".toList =
      ". Do not edit by hand.".toList ++ '\n' :: "// based-on: ".toList := by
    decide
  have hend : "\n\n".toList = '\n' :: ['\n'] := by
    decide
  unfold header generatorLine originLine
  simp only [String.toList_append, hmiddle, hend, List.append_assoc, List.cons_append]

/-- A text that begins with lines and an empty line has no comments but those among the lines. -/
theorem takeWhile_isComment_append (start rest : List Char) :
    (lines (start ++ '\n' :: '\n' :: rest)).takeWhile isComment =
      (lines (start ++ ['\n'])).takeWhile isComment := by
  have hempty : lines ('\n' :: rest) = [] :: lines rest :=
    lines_append_of_notMem List.not_mem_nil rest
  -- the empty line ends the comments, if none of the lines before it does
  rw [lines_append, hempty]
  generalize lines (start ++ ['\n']) = before
  induction before with
  | nil => simp [isComment, afterStart?]
  | cons line before ih =>
      rw [List.cons_append]
      cases hline : isComment line with
      | false => simp [hline]
      | true => simp [hline, ih]

/-- Nothing after the header counts. -/
theorem leadingComments_header_append (p : Provenance) (body : String) :
    leadingComments (p.header ++ body) = leadingComments p.header := by
  have htext (rest : List Char) : p.header.toList ++ rest =
      (generatorLine p.generatedBy.toList ++ '\n' :: originLine p.basedOn.toList) ++
        '\n' :: '\n' :: rest := by
    simp only [toList_header, List.append_assoc, List.cons_append, List.nil_append]
  have hbody := takeWhile_isComment_append
    (generatorLine p.generatedBy.toList ++ '\n' :: originLine p.basedOn.toList) body.toList
  have hnone := takeWhile_isComment_append
    (generatorLine p.generatedBy.toList ++ '\n' :: originLine p.basedOn.toList) []
  rw [← htext] at hbody hnone
  rw [List.append_nil] at hnone
  unfold leadingComments
  rw [String.toList_append]
  exact hbody.trans hnone.symm

/-- What is read back depends on the header only. -/
theorem read?_header_append (p : Provenance) (body : String) :
    read? (p.header ++ body) = read? p.header := by
  rw [read?, read?, leadingComments_header_append]

/-! ## Names that can be read back -/

/-- Whether the header can be read back: among the comments that it begins with, one names a
generator and one names an origin. -/
structure Legible (p : Provenance) : Prop where
  generator : ∃ line ∈ leadingComments p.header, (generatorIn? line).isSome = true
  origin : ∃ line ∈ leadingComments p.header, (originIn? line).isSome = true

theorem isSome_findSome?_reverse {α β : Type} (f : α → Option β) (as : List α) :
    (as.reverse.findSome? f).isSome = true ↔ ∃ a ∈ as, (f a).isSome = true := by
  simp [List.findSome?_isSome_iff]

/-- What is read are the names that are found from the last comment on. -/
theorem read?_eq_some_iff_findSome? {text : String} {p : Provenance} : read? text = some p ↔
    (leadingComments text).reverse.findSome? generatorIn? = some p.generatedBy ∧
      (leadingComments text).reverse.findSome? originIn? = some p.basedOn := by
  obtain ⟨generator, origin⟩ := p
  unfold read?
  dsimp only
  cases (leadingComments text).reverse.findSome? generatorIn? with
  | none => simp
  | some other => cases (leadingComments text).reverse.findSome? originIn? <;> simp

/-- A generated file is recognized if its header is legible, whatever its body. -/
theorem isSome_read?_iff (p : Provenance) (body : String) :
    (read? (p.header ++ body)).isSome = true ↔ p.Legible := by
  rw [read?_header_append]
  have hgenerator := isSome_findSome?_reverse generatorIn? (leadingComments p.header)
  have horigin := isSome_findSome?_reverse originIn? (leadingComments p.header)
  have hread : (read? p.header).isSome = true ↔
      ((leadingComments p.header).reverse.findSome? generatorIn?).isSome = true ∧
        ((leadingComments p.header).reverse.findSome? originIn?).isSome = true := by
    simp only [Option.isSome_iff_exists, read?_eq_some_iff_findSome?]
    constructor
    · rintro ⟨q, hname, hpath⟩
      exact ⟨⟨_, hname⟩, _, hpath⟩
    · rintro ⟨⟨name, hname⟩, path, hpath⟩
      exact ⟨⟨name, path⟩, hname, hpath⟩
  rw [hread, hgenerator, horigin]
  exact ⟨fun h => ⟨h.1, h.2⟩, fun h => ⟨h.generator, h.origin⟩⟩

theorem generatorIn?_generatorLine (name : List Char) :
    generatorIn? (generatorLine name) =
      if name.isEmpty then none else some (String.ofList name) := by
  unfold generatorIn? generatorLine
  simp only [List.append_assoc, afterStart?_append, Option.bind_eq_bind, Option.bind_some,
    beforeEnd?_append]

theorem originIn?_originLine (path : List Char) :
    originIn? (originLine path) =
      if path.isEmpty || path.any isBlank then none else some (String.ofList path) := by
  unfold originIn? originLine
  simp only [afterStart?_append, Option.bind_eq_bind, Option.bind_some]

theorem generatorIn?_originLine (path : List Char) : generatorIn? (originLine path) = none := rfl

theorem originIn?_generatorLine (name : List Char) : originIn? (generatorLine name) = none := rfl

theorem dropReturn_generatorLine (name : List Char) :
    dropReturn (generatorLine name) = generatorLine name := by
  have hfinish : ". Do not edit by hand.".toList ≠ [] := by decide
  have hdrop : dropReturn ". Do not edit by hand.".toList = ". Do not edit by hand.".toList := by
    decide
  unfold generatorLine
  rw [dropReturn_append _ hfinish, hdrop]

theorem dropReturn_originLine (path : List Char) :
    dropReturn (originLine path) = originLine (dropReturn path) := by
  unfold originLine
  by_cases hpath : path = []
  · subst hpath
    decide
  · rw [dropReturn_append _ hpath]

theorem isComment_generatorLine (name : List Char) : isComment (generatorLine name) = true := rfl

theorem isComment_originLine (path : List Char) : isComment (originLine path) = true := rfl

/-- Lines without a slash are no comments. -/
theorem takeWhile_isComment_of_notMem {cs : List Char} (h : '/' ∉ cs) :
    (lines cs).takeWhile isComment = [] := by
  have hnone : ∀ line ∈ lines cs, isComment line = false := by
    intro line hline
    have hslash : '/' ∉ line := fun hmem => h (subset_of_mem_lines hline hmem)
    rw [isComment, Option.isSome_eq_false_iff, Option.isNone_iff_eq_none]
    cases line with
    | nil => rfl
    | cons c line =>
        rw [List.mem_cons, not_or] at hslash
        rw [afterStart?, if_neg hslash.1]
  cases hlines : lines cs with
  | nil => rfl
  | cons line rest =>
      have hfirst := hnone line (by rw [hlines]; exact List.mem_cons_self)
      rw [List.takeWhile_cons, hfirst]
      rfl

/-- What stands before the first line feed of an origin and what stands after it. -/
theorem exists_first_line {path : List Char} (h : '/' ∉ path) :
    ∃ rest, '/' ∉ rest ∧ originLine path ++ '\n' :: ['\n'] =
      originLine (path.takeWhile (· ≠ '\n')) ++ '\n' :: rest := by
  have hsplit := List.takeWhile_append_dropWhile (p := (· ≠ '\n')) (l := path)
  cases hdrop : path.dropWhile (· ≠ '\n') with
  | nil =>
      rw [hdrop, List.append_nil] at hsplit
      exact ⟨['\n'], by simp, by rw [hsplit]⟩
  | cons c rest =>
      -- what is dropped begins with the line feed, and its lines go on without a slash
      have hc : c = '\n' := by
        have hhead := List.head?_dropWhile_not (· ≠ '\n') path
        rw [hdrop] at hhead
        simpa using hhead
      rw [hdrop, hc] at hsplit
      have hrest : '/' ∉ rest := fun hmem => h (by rw [← hsplit]; simp [hmem])
      refine ⟨rest ++ '\n' :: ['\n'], by simp [hrest], ?_⟩
      unfold originLine
      conv_lhs => rw [← hsplit]
      simp only [List.append_assoc, List.cons_append]

/-- Names on one line each make for two comments. -/
theorem takeWhile_isComment_header {name path rest : List Char} (hname : '\n' ∉ name)
    (hpath : '\n' ∉ path) (hrest : '/' ∉ rest) :
    (lines (generatorLine name ++ '\n' :: (originLine path ++ '\n' :: rest))).takeWhile isComment =
      [generatorLine name, originLine (dropReturn path)] := by
  have hgenerator : '\n' ∉ generatorLine name := by
    have hbefore : '\n' ∉ "// @generated by ".toList := by decide
    have hafter : '\n' ∉ ". Do not edit by hand.".toList := by decide
    unfold generatorLine
    simp only [List.mem_append, hbefore, hafter, hname, or_self, not_false_eq_true]
  have horigin : '\n' ∉ originLine path := by
    have hbefore : '\n' ∉ "// based-on: ".toList := by decide
    unfold originLine
    rw [List.mem_append, not_or]
    exact ⟨hbefore, hpath⟩
  rw [lines_append_of_notMem hgenerator, lines_append_of_notMem horigin,
    dropReturn_generatorLine, dropReturn_originLine,
    List.takeWhile_cons_of_pos (isComment_generatorLine _),
    List.takeWhile_cons_of_pos (isComment_originLine _), takeWhile_isComment_of_notMem hrest]

/-- The header begins with two comments, if no line feed in the generator's name and no slash in the
origin makes for others. -/
theorem leadingComments_header {p : Provenance} (hgenerator : '\n' ∉ p.generatedBy.toList)
    (horigin : '/' ∉ p.basedOn.toList) :
    leadingComments p.header =
      [generatorLine p.generatedBy.toList, originLine (firstLine p.basedOn)] := by
  -- what follows on a line feed in the origin has no slash and so is no comment
  obtain ⟨rest, hrest, hsplit⟩ := exists_first_line horigin
  have hfirst : '\n' ∉ p.basedOn.toList.takeWhile (· ≠ '\n') := fun hmem => by
    simpa using List.all_eq_true.1 List.all_takeWhile _ hmem
  unfold leadingComments
  rw [toList_header, hsplit]
  exact takeWhile_isComment_header hgenerator hfirst hrest

/-- A header is legible if the generator has a name and the origin has no blanks before its first
line feed. -/
theorem legible_iff {p : Provenance} (hgenerator : '\n' ∉ p.generatedBy.toList)
    (horigin : '/' ∉ p.basedOn.toList) :
    p.Legible ↔ p.generatedBy ≠ "" ∧ firstLine p.basedOn ≠ [] ∧
      (firstLine p.basedOn).any isBlank = false := by
  have hcomments := leadingComments_header hgenerator horigin
  have hname : (generatorIn? (generatorLine p.generatedBy.toList)).isSome = true ↔
      p.generatedBy ≠ "" := by
    rw [generatorIn?_generatorLine]
    by_cases hempty : p.generatedBy = "" <;> simp [hempty]
  have hpath : (originIn? (originLine (firstLine p.basedOn))).isSome = true ↔
      firstLine p.basedOn ≠ [] ∧ (firstLine p.basedOn).any isBlank = false := by
    rw [originIn?_originLine]
    by_cases hempty : firstLine p.basedOn = [] <;> simp [hempty]
  constructor
  · rintro ⟨⟨line, hline, hgenerated⟩, ⟨line', hline', hbased⟩⟩
    rw [hcomments] at hline hline'
    simp only [List.mem_cons, List.not_mem_nil, or_false] at hline hline'
    refine ⟨?_, ?_⟩
    · rcases hline with rfl | rfl
      · exact hname.1 hgenerated
      · rw [generatorIn?_originLine] at hgenerated
        exact absurd hgenerated (by simp)
    · rcases hline' with rfl | rfl
      · rw [originIn?_generatorLine] at hbased
        exact absurd hbased (by simp)
      · exact hpath.1 hbased
  · rintro ⟨hgenerated, hbased⟩
    refine ⟨⟨_, ?_, hname.2 hgenerated⟩, ⟨_, ?_, hpath.2 hbased⟩⟩ <;> simp [hcomments]

/-! ## Names that are given back -/

/-- A generator is read from the line that is written for it, if it has a name. -/
theorem generatorIn?_eq_some_iff {line : List Char} {name : String} :
    generatorIn? line = some name ↔ line = generatorLine name.toList ∧ name ≠ "" := by
  constructor
  · intro h
    have hwritten : ∃ inner, line = generatorLine inner := by
      rw [generatorIn?, Option.bind_eq_bind, Option.bind_eq_some_iff] at h
      obtain ⟨rest, hrest, h⟩ := h
      rw [Option.bind_eq_some_iff] at h
      obtain ⟨inner, hinner, -⟩ := h
      refine ⟨inner, ?_⟩
      unfold generatorLine
      rw [afterStart?_eq_some_iff.1 hrest, beforeEnd?_eq_some_iff.1 hinner, List.append_assoc]
    obtain ⟨inner, hline⟩ := hwritten
    rw [hline, generatorIn?_generatorLine] at h
    by_cases hinner : inner = []
    · simp [hinner] at h
    · rw [if_neg (by simpa using hinner)] at h
      rw [← Option.some.inj h, String.toList_ofList]
      exact ⟨hline, by simpa using hinner⟩
  · rintro ⟨hline, hname⟩
    rw [hline, generatorIn?_generatorLine, if_neg (by simpa using hname), String.ofList_toList]

/-- An origin is read from the line that is written for it, if it has a name without blanks. -/
theorem originIn?_eq_some_iff {line : List Char} {path : String} :
    originIn? line = some path ↔
      line = originLine path.toList ∧ path ≠ "" ∧ path.toList.any isBlank = false := by
  constructor
  · intro h
    have hwritten : ∃ inner, line = originLine inner := by
      rw [originIn?, Option.bind_eq_bind, Option.bind_eq_some_iff] at h
      obtain ⟨inner, hinner, -⟩ := h
      exact ⟨inner, afterStart?_eq_some_iff.1 hinner⟩
    obtain ⟨inner, hline⟩ := hwritten
    rw [hline, originIn?_originLine] at h
    by_cases hbad : (inner.isEmpty || inner.any isBlank) = true
    · simp [hbad] at h
    · rw [if_neg hbad] at h
      rw [Bool.not_eq_true, Bool.or_eq_false_iff] at hbad
      rw [← Option.some.inj h, String.toList_ofList]
      exact ⟨hline, by simpa using hbad.1, hbad.2⟩
  · rintro ⟨hline, hpath, hblank⟩
    rw [hline, originIn?_originLine, if_neg (by simpa [hblank] using hpath),
      String.ofList_toList]

/-- Whatever is read from a text, the generator has a name on one line, and the origin has a name
without blanks. -/
theorem names_of_read? {text : String} {p : Provenance} (h : read? text = some p) :
    (p.generatedBy ≠ "" ∧ '\n' ∉ p.generatedBy.toList) ∧
      p.basedOn ≠ "" ∧ p.basedOn.toList.any isBlank = false := by
  rw [read?, Option.bind_eq_bind, Option.bind_eq_some_iff] at h
  obtain ⟨generator, hgenerator, h⟩ := h
  rw [Option.bind_eq_some_iff] at h
  obtain ⟨origin, horigin, hp⟩ := h
  obtain rfl := Option.some.inj hp
  obtain ⟨line, hmem, hline⟩ := List.exists_of_findSome?_eq_some hgenerator
  obtain ⟨other, -, hother⟩ := List.exists_of_findSome?_eq_some horigin
  obtain ⟨hwritten, hname⟩ := generatorIn?_eq_some_iff.1 hline
  refine ⟨⟨hname, fun hfeed => ?_⟩, (originIn?_eq_some_iff.1 hother).2⟩
  -- a line feed in the name would be one in the line that it is read from
  have hlines : line ∈ lines text.toList := List.takeWhile_subset _ (List.mem_reverse.1 hmem)
  apply newline_notMem_of_mem_lines hlines
  rw [hwritten]
  unfold generatorLine
  exact List.mem_append_left _ (List.mem_append_right _ hfeed)

/-- A header gives back the names it was written with, whatever follows it, exactly if the generator
has a name on one line and the origin has a name without blanks. -/
theorem read?_header_append_iff (generator origin rest : String) :
    read? (header ⟨generator, origin⟩ ++ rest) = some ⟨generator, origin⟩ ↔
      (generator ≠ "" ∧ '\n' ∉ generator.toList) ∧
        origin ≠ "" ∧ origin.toList.any isBlank = false := by
  refine ⟨names_of_read?, ?_⟩
  rintro ⟨⟨hname, hfeed⟩, horigin, hblank⟩
  have hbare (c : Char) (hc : isBlank c = true) : c ∉ origin.toList := fun hmem => by
    rw [List.any_eq_false] at hblank
    exact hblank c hmem hc
  have hreturn : dropReturn origin.toList = origin.toList := by
    rw [dropReturn, if_neg fun hlast => hbare '\r' (by decide) (List.mem_of_getLast? hlast)]
  have hcomments : leadingComments (header ⟨generator, origin⟩) =
      [generatorLine generator.toList, originLine origin.toList] := by
    unfold leadingComments
    rw [toList_header]
    refine (takeWhile_isComment_header hfeed (hbare '\n' (by decide)) (by simp)).trans ?_
    rw [hreturn]
  have hgenerator : generatorIn? (generatorLine generator.toList) = some generator :=
    generatorIn?_eq_some_iff.2 ⟨rfl, hname⟩
  have hpath : originIn? (originLine origin.toList) = some origin :=
    originIn?_eq_some_iff.2 ⟨rfl, horigin, hblank⟩
  rw [read?_header_append, read?, hcomments]
  simp [List.findSome?_cons, generatorIn?_originLine, hgenerator, hpath]

example :
    read? (header ⟨"a. Do not edit by hand.\r", "crate::A"⟩ ++ "// based-on: crate::B\n") =
      some ⟨"a. Do not edit by hand.\r", "crate::A"⟩ := by
  decide +kernel

end Provenance

end StructMatch
