import Mathlib.Data.List.Basic
import Mathlib.Data.List.TakeWhile
import StructMatch.StructType

/-!
# Texts of module paths

The text of a module path is `crate` and then each segment after a separator.  Segments as they come
from source code are not empty and have no colons and no blanks, and then nothing is lost: a path is
read back from its text, `parse_display`, a type is known by its full path,
`qualifiedName_eq_iff`, and a module lies in another one exactly if its text is that of the other
one or goes on after it with a separator, `startsWith_iff`.
-/

namespace StructMatch

/-! ## Pieces between separators -/

section Split

variable {cs rest : List Char} {segments others : List String}

theorem splitPathGo_cons {c : Char} (hc : c ≠ ':') (piece cs : List Char) :
    splitPath.go piece (c :: cs) = splitPath.go (c :: piece) cs := by
  rw [splitPath.go]
  exact fun _ hcolon => absurd hcolon hc

theorem splitPathGo_of_notMem (h : ':' ∉ cs) (piece : List Char) :
    splitPath.go piece cs = [piece.reverse ++ cs] := by
  induction cs generalizing piece with
  | nil => rw [splitPath.go, List.append_nil]
  | cons c cs ih =>
      rw [List.mem_cons, not_or] at h
      rw [splitPathGo_cons (Ne.symm h.1), ih h.2, List.reverse_cons, List.append_assoc,
        List.singleton_append]

theorem splitPathGo_append (h : ':' ∉ cs) (piece : List Char) :
    splitPath.go piece (cs ++ ':' :: ':' :: rest) = (piece.reverse ++ cs) :: splitPath rest := by
  induction cs generalizing piece with
  | nil => rw [List.nil_append, splitPath.go, List.append_nil, splitPath]
  | cons c cs ih =>
      rw [List.mem_cons, not_or] at h
      rw [List.cons_append, splitPathGo_cons (Ne.symm h.1), ih h.2, List.reverse_cons,
        List.append_assoc, List.singleton_append]

/-- The first piece of a text ends at the first separator. -/
theorem splitPath_append (h : ':' ∉ cs) :
    splitPath (cs ++ ':' :: ':' :: rest) = cs :: splitPath rest :=
  splitPathGo_append h []

/-- The text of segments, with a separator before each of them. -/
def trail (segments : List String) : List Char :=
  segments.flatMap fun segment => ':' :: ':' :: segment.toList

theorem trail_cons (segment : String) (segments : List String) :
    trail (segment :: segments) = ':' :: ':' :: (segment.toList ++ trail segments) := rfl

theorem trail_append (segments others : List String) :
    trail (segments ++ others) = trail segments ++ trail others := List.flatMap_append

/-- Between segments there are only colons. -/
theorem notMem_trail {c : Char} (hc : c ≠ ':') (h : ∀ segment ∈ segments, c ∉ segment.toList) :
    c ∉ trail segments := by
  rw [trail, List.mem_flatMap]
  rintro ⟨segment, hsegment, hmem⟩
  simp only [List.mem_cons, hc, false_or] at hmem
  exact h segment hsegment hmem

/-- Segments without colons are the pieces of their text. -/
theorem splitPath_trail (hcs : ':' ∉ cs) (h : ∀ segment ∈ segments, ':' ∉ segment.toList) :
    splitPath (cs ++ trail segments) = cs :: segments.map String.toList := by
  induction segments generalizing cs with
  | nil =>
      rw [trail, List.flatMap_nil, List.append_nil]
      exact splitPathGo_of_notMem hcs []
  | cons segment segments ih =>
      obtain ⟨hsegment, hsegments⟩ := List.forall_mem_cons.1 h
      rw [trail_cons, splitPath_append hcs, ih hsegment hsegments, List.map_cons]

/-- Different segments without colons have different texts. -/
theorem trail_inj (h : ∀ segment ∈ segments, ':' ∉ segment.toList)
    (h' : ∀ segment ∈ others, ':' ∉ segment.toList) :
    trail segments = trail others ↔ segments = others := by
  refine ⟨fun heq => ?_, congrArg trail⟩
  have hsplit : splitPath ([] ++ trail segments) = [] :: segments.map String.toList :=
    splitPath_trail List.not_mem_nil h
  rw [heq, splitPath_trail List.not_mem_nil h'] at hsplit
  have hmap := (List.cons.inj hsplit).2
  exact (List.map_injective_iff.2 (fun _ _ => String.toList_injective) hmap).symm

end Split

/-! ## Texts of paths -/

theorem toList_separator : "::".toList = [':', ':'] := by
  decide

theorem toList_foldl_separator (segments : List String) (text : String) :
    (segments.foldl (fun text segment => text ++ "::" ++ segment) text).toList =
      text.toList ++ trail segments := by
  induction segments generalizing text with
  | nil => rw [List.foldl_nil, trail, List.flatMap_nil, List.append_nil]
  | cons segment segments ih =>
      rw [List.foldl_cons, ih, String.toList_append, String.toList_append, toList_separator,
        trail_cons]
      simp only [List.append_assoc, List.cons_append, List.nil_append]

theorem ModulePath.toList_display (path : ModulePath) :
    path.display.toList = "crate".toList ++ trail path.segments :=
  toList_foldl_separator path.segments "crate"

theorem StructType.toList_qualifiedName (type : StructType) :
    type.qualifiedName.toList =
      "crate".toList ++ trail (type.modulePath.segments ++ [type.name]) := by
  rw [StructType.qualifiedName, String.toList_append, String.toList_append,
    ModulePath.toList_display, toList_separator, trail_append, trail_cons, List.append_assoc,
    List.append_assoc]
  simp [trail]

/-- Types whose modules differ in no more than segments without colons are known by their full
paths. -/
theorem StructType.qualifiedName_eq_iff_of_append {a b : StructType} (base : List String)
    {inner inner' : List String} (ha : a.modulePath.segments = base ++ inner)
    (hb : b.modulePath.segments = base ++ inner')
    (hinner : ∀ segment ∈ inner, ':' ∉ segment.toList)
    (hinner' : ∀ segment ∈ inner', ':' ∉ segment.toList)
    (hname : ':' ∉ a.name.toList) (hname' : ':' ∉ b.name.toList) :
    a.qualifiedName = b.qualifiedName ↔ a.modulePath = b.modulePath ∧ a.name = b.name := by
  have hall : ∀ segment ∈ inner ++ [a.name], ':' ∉ segment.toList := by
    simpa [or_imp, forall_and] using ⟨hinner, hname⟩
  have hall' : ∀ segment ∈ inner' ++ [b.name], ':' ∉ segment.toList := by
    simpa [or_imp, forall_and] using ⟨hinner', hname'⟩
  rw [← String.toList_inj, a.toList_qualifiedName, b.toList_qualifiedName,
    List.append_cancel_left_eq, ha, hb, List.append_assoc, List.append_assoc, trail_append,
    trail_append base, List.append_cancel_left_eq, trail_inj hall hall', List.append_singleton_inj]
  refine and_congr_left' ⟨fun heq => ?_, fun heq => ?_⟩
  · have hsegments : a.modulePath.segments = b.modulePath.segments := by rw [ha, hb, heq]
    exact congrArg ModulePath.mk hsegments
  · rw [heq, hb] at ha
    exact (List.append_cancel_left ha).symm

/-! ## Reading paths -/

/-- Whether a text can stand between the separators of a path: it is not empty and has no colons and
no blanks. -/
structure IsSegment (segment : String) : Prop where
  ne_empty : segment.toList ≠ []
  no_colon : ':' ∉ segment.toList
  no_blank : ∀ c ∈ segment.toList, Text.isBlank c = false

instance (segment : String) : Decidable (IsSegment segment) :=
  decidable_of_iff
    (segment.toList ≠ [] ∧ ':' ∉ segment.toList ∧ segment.toList.any Text.isBlank = false)
    ⟨fun ⟨hempty, hcolon, hblank⟩ => ⟨hempty, hcolon, by simpa using hblank⟩,
      fun h => ⟨h.ne_empty, h.no_colon, by simpa using h.no_blank⟩⟩

/-- No colon comes right after a separator. -/
theorem IsSegment.append_ne_colon_cons {segment : String} (h : IsSegment segment)
    (rest more : List Char) : segment.toList ++ rest ≠ ':' :: more := by
  obtain ⟨c, cs, hc⟩ := List.exists_cons_of_ne_nil h.ne_empty
  intro heq
  rw [hc, List.cons_append] at heq
  obtain rfl := (List.cons.inj heq).1
  exact h.no_colon (by rw [hc]; exact List.mem_cons_self)

/-- Whether a path is written like one in source code, below the root of its crate. -/
structure ModulePath.IsPlain (path : ModulePath) : Prop where
  segments : ∀ segment ∈ path.segments, IsSegment segment
  below_root : path.segments.head? ≠ some "crate"

instance (path : ModulePath) : Decidable path.IsPlain :=
  decidable_of_iff
    ((∀ segment ∈ path.segments, IsSegment segment) ∧ path.segments.head? ≠ some "crate")
    ⟨fun ⟨hsegments, hroot⟩ => ⟨hsegments, hroot⟩, fun h => ⟨h.segments, h.below_root⟩⟩

namespace Text

theorem trim_of_forall_not_isBlank {cs : List Char} (h : ∀ c ∈ cs, isBlank c = false) :
    trim cs = cs := by
  have hdrop : ∀ ds : List Char, (∀ d ∈ ds, isBlank d = false) → ds.dropWhile isBlank = ds := by
    intro ds hds
    cases ds with
    | nil => rfl
    | cons d ds => exact List.dropWhile_cons_of_neg (by simp [hds d List.mem_cons_self])
  rw [trim, hdrop cs h, hdrop cs.reverse fun d hd => h d (List.mem_reverse.1 hd),
    List.reverse_reverse]

theorem trim_cons_ne_nil {c : Char} (hc : isBlank c = false) (cs : List Char) :
    trim (c :: cs) ≠ [] := by
  rw [trim, List.dropWhile_cons_of_neg (by simp [hc]), ne_eq, List.reverse_eq_nil_iff,
    List.dropWhile_eq_nil_iff]
  intro hall
  rw [hall c (by simp)] at hc
  exact absurd hc (by decide)

end Text

namespace ModulePath

open Text

variable {p q : ModulePath} {text : String}

/-- Segments are not changed when blanks are taken off their ends. -/
theorem map_trim_segments {segments : List String} (h : ∀ segment ∈ segments, IsSegment segment) :
    (segments.map String.toList).map (fun piece => String.ofList (trim piece)) = segments := by
  rw [List.map_map]
  refine (List.map_congr_left fun segment hsegment => ?_).trans (List.map_id _)
  rw [Function.comp_apply, trim_of_forall_not_isBlank (h segment hsegment).no_blank,
    String.ofList_toList, id]

/-- A plain path is read back from its text. -/
theorem parse_display (hp : p.IsPlain) : parse p.display = p := by
  have hall : ∀ segment ∈ "crate" :: p.segments, IsSegment segment :=
    List.forall_mem_cons.2 ⟨by decide, hp.segments⟩
  have hsplit : splitPath p.display.toList = ("crate" :: p.segments).map String.toList := by
    rw [toList_display, List.map_cons]
    exact splitPath_trail (by decide)
      fun segment hsegment => (hp.segments segment hsegment).no_colon
  have hfilter : ("crate" :: p.segments).filter (· ≠ "") = "crate" :: p.segments := by
    refine List.filter_eq_self.2 fun segment hsegment => decide_eq_true ?_
    rintro rfl
    exact (hall "" hsegment).ne_empty rfl
  have hdrop : ("crate" :: p.segments).dropWhile (· = "crate") = p.segments := by
    rw [List.dropWhile_cons_of_pos (by decide)]
    cases hsegments : p.segments with
    | nil => rfl
    | cons segment segments =>
        have hne : segment ≠ "crate" := by
          rintro rfl
          exact hp.below_root (by rw [hsegments]; rfl)
        exact List.dropWhile_cons_of_neg (by simpa using hne)
  rw [parse, hsplit, map_trim_segments hall, hfilter, hdrop]

/-- A path may be written without the `crate` before it. -/
theorem parse_crate_append (text : String) : parse ("crate::" ++ text) = parse text := by
  have hsplit : splitPath ("crate::" ++ text).toList = "crate".toList :: splitPath text.toList := by
    have hcrate : "crate::".toList = "crate".toList ++ [':', ':'] := by decide
    rw [String.toList_append, hcrate, List.append_assoc]
    exact splitPath_append (by decide)
  have hroot : String.ofList (trim "crate".toList) = "crate" := by decide
  rw [parse, hsplit, List.map_cons, hroot, List.filter_cons_of_pos (by decide),
    List.dropWhile_cons_of_pos (by decide), parse]

/-! ## Texts of modules around a module -/

/-- Whether a text is another one or goes on after it with a separator. -/
def TextWithin (text above : String) : Prop :=
  text = above ∨ ∃ rest, text = above ++ "::" ++ rest

/-- A text is not cut before a separator, or at its end, where there are no colons. -/
theorem exists_of_append_eq {first rest above back : List Char} (hfirst : ':' ∉ first)
    (hback : back = [] ∨ ∃ more, back = ':' :: more) (h : first ++ rest = above ++ back) :
    ∃ more, above = first ++ more ∧ rest = more ++ back := by
  rcases List.append_eq_append_iff.1 h with hafter | ⟨inside, rfl, rfl⟩
  · exact hafter
  · cases inside with
    | nil => exact ⟨[], by simp, rfl⟩
    | cons c inside =>
        rcases hback with hnil | ⟨more, hcolon⟩
        · exact absurd hnil (by simp)
        · obtain rfl := (List.cons.inj hcolon).1
          exact absurd (by simp) hfirst

/-- A text of segments that is cut before a separator, or at its end, is cut between segments. -/
theorem exists_prefix_of_append_trail {segments : List String} {first above back : List Char}
    (hfirst : ':' ∉ first) (h : ∀ segment ∈ segments, IsSegment segment)
    (hback : back = [] ∨ ∃ rest, back = ':' :: ':' :: rest)
    (heq : first ++ trail segments = above ++ back) :
    ∃ front, front <+: segments ∧ above = first ++ trail front := by
  have hcolon : back = [] ∨ ∃ more, back = ':' :: more :=
    hback.imp_right fun ⟨rest, hrest⟩ => ⟨_, hrest⟩
  -- by induction on the segments, each of which takes the place of the first text in turn
  induction segments generalizing first above with
  | nil =>
      obtain ⟨more, rfl, hnil⟩ := exists_of_append_eq hfirst hcolon heq
      obtain ⟨rfl, -⟩ := List.append_eq_nil_iff.1 hnil.symm
      exact ⟨[], List.nil_prefix, rfl⟩
  | cons segment segments ih =>
      obtain ⟨hsegment, hsegments⟩ := List.forall_mem_cons.1 h
      obtain ⟨more, rfl, htrail⟩ := exists_of_append_eq hfirst hcolon heq
      rw [trail_cons] at htrail
      match more, htrail with
      | [], _ => exact ⟨[], List.nil_prefix, rfl⟩
      | [c], htrail =>
          obtain ⟨-, hrest⟩ := List.cons.inj htrail
          rcases hback with rfl | ⟨rest, rfl⟩
          · exact absurd hrest (by simp)
          · exact absurd (List.cons.inj hrest).2 (hsegment.append_ne_colon_cons _ _)
      | c :: d :: more, htrail =>
          obtain ⟨rfl, hrest⟩ := List.cons.inj htrail
          obtain ⟨rfl, hinside⟩ := List.cons.inj hrest
          obtain ⟨front, hfront, rfl⟩ := ih hsegment.no_colon hsegments hinside
          exact ⟨segment :: front, List.cons_prefix_cons.2 ⟨rfl, hfront⟩, rfl⟩

theorem IsPlain.of_isPrefix (hp : p.IsPlain) (h : q.segments <+: p.segments) : q.IsPlain where
  segments segment hsegment := hp.segments segment (h.subset hsegment)
  below_root hroot := by
    obtain ⟨rest, hrest⟩ := List.head?_eq_some_iff.1 hroot
    obtain ⟨more, hmore⟩ := h
    exact hp.below_root (by rw [← hmore, hrest]; rfl)

/-- The texts around the text of a path are those of the modules around it. -/
theorem exists_of_textWithin (hp : p.IsPlain) (h : TextWithin p.display text) :
    ∃ q : ModulePath, q.segments <+: p.segments ∧ q.display = text := by
  obtain ⟨back, hback, heq⟩ : ∃ back, (back = [] ∨ ∃ rest, back = ':' :: ':' :: rest) ∧
      p.display.toList = text.toList ++ back := by
    rcases h with heq | ⟨rest, heq⟩
    · exact ⟨[], Or.inl rfl, by rw [heq, List.append_nil]⟩
    · refine ⟨':' :: ':' :: rest.toList, Or.inr ⟨_, rfl⟩, ?_⟩
      rw [heq, String.toList_append, String.toList_append, toList_separator, List.append_assoc]
      rfl
  rw [toList_display] at heq
  obtain ⟨front, hfront, htext⟩ :=
    exists_prefix_of_append_trail (by decide) hp.segments hback heq
  exact ⟨⟨front⟩, hfront, String.toList_injective (by rw [toList_display, htext])⟩

/-- The text of a path is within that of each module around it. -/
theorem textWithin_of_isPrefix (h : q.segments <+: p.segments) :
    TextWithin p.display q.display := by
  obtain ⟨more, hmore⟩ := h
  cases more with
  | nil =>
      refine Or.inl (String.toList_injective ?_)
      rw [toList_display, toList_display, ← hmore, List.append_nil]
  | cons segment more =>
      refine Or.inr ⟨String.ofList (segment.toList ++ trail more), String.toList_injective ?_⟩
      rw [toList_display, ← hmore, trail_append, trail_cons, String.toList_append,
        String.toList_append, toList_display, toList_separator]
      simp only [String.toList_ofList, List.append_assoc, List.cons_append, List.nil_append]

/-- A module lies in another one if the text of its path is the text of the other one or goes on
after it with a separator. -/
theorem startsWith_iff (hp : p.IsPlain) (hq : q.IsPlain) :
    p.startsWith q = true ↔ TextWithin p.display q.display := by
  rw [startsWith, List.isPrefixOf_iff_prefix]
  refine ⟨textWithin_of_isPrefix, fun h => ?_⟩
  obtain ⟨around, haround, htext⟩ := exists_of_textWithin hp h
  have heq := parse_display (hp.of_isPrefix haround)
  rw [htext, parse_display hq] at heq
  rwa [heq]

end ModulePath

end StructMatch
