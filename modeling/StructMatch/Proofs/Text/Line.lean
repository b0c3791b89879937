import Mathlib.Data.List.Basic
import StructMatch.Text.Blank

/-!
# Lines

The lines of a text that is put together from a part with a line feed after it and a rest are those
of the part and those of the rest, `lines_append`.  A part without line feeds is one line,
`lines_append_of_notMem`, and no line has a line feed in it, `newline_notMem_of_mem_lines`.
-/

namespace StructMatch.Text

theorem dropReturn_subset (line : List Char) : dropReturn line ⊆ line := by
  unfold dropReturn
  split
  · exact List.dropLast_subset line
  · exact List.Subset.refl line

/-- A carriage return before the end of a line goes, whatever stands before it. -/
theorem dropReturn_append (start : List Char) {line : List Char} (h : line ≠ []) :
    dropReturn (start ++ line) = start ++ dropReturn line := by
  unfold dropReturn
  rw [List.getLast?_append_of_ne_nil start h, List.dropLast_append_of_ne_nil h]
  split <;> rfl

theorem linesGo_newline (line : List Char) {rest : List Char} (h : rest ≠ []) :
    lines.go line ('\n' :: rest) = dropReturn line.reverse :: lines.go [] rest := by
  cases rest with
  | nil => exact absurd rfl h
  | cons c rest => simp [lines.go]

theorem linesGo_of_ne {c : Char} (hc : c ≠ '\n') (line rest : List Char) :
    lines.go line (c :: rest) = lines.go (c :: line) rest := by
  cases rest <;> simp [lines.go, hc]

theorem lines_eq_go {cs : List Char} (h : cs ≠ []) : lines cs = lines.go [] cs := by
  cases cs with
  | nil => exact absurd rfl h
  | cons c rest => rfl

/-- A line feed ends a line, and what follows it has lines of its own. -/
theorem linesGo_append (line start rest : List Char) :
    lines.go line (start ++ '\n' :: rest) = lines.go line (start ++ ['\n']) ++ lines rest := by
  induction start generalizing line with
  | nil =>
      -- a line feed at the very end of a text does not begin a line of its own
      by_cases hrest : rest = []
      · simp [hrest, lines]
      · rw [List.nil_append, List.nil_append, linesGo_newline line hrest, lines_eq_go hrest]
        simp [lines.go]
  | cons c start ih =>
      by_cases hc : c = '\n'
      · subst hc
        rw [List.cons_append, List.cons_append, linesGo_newline line (by simp),
          linesGo_newline line (by simp), ih, List.cons_append]
      · rw [List.cons_append, List.cons_append, linesGo_of_ne hc, linesGo_of_ne hc, ih]

theorem lines_append (start rest : List Char) :
    lines (start ++ '\n' :: rest) = lines (start ++ ['\n']) ++ lines rest := by
  rw [lines_eq_go (by simp), lines_eq_go (by simp), linesGo_append]

theorem linesGo_of_notMem (line : List Char) {start : List Char} (h : '\n' ∉ start) :
    lines.go line (start ++ ['\n']) = [dropReturn (line.reverse ++ start)] := by
  induction start generalizing line with
  | nil => simp [lines.go]
  | cons c start ih =>
      rw [List.mem_cons, not_or] at h
      rw [List.cons_append, linesGo_of_ne (Ne.symm h.1), ih _ h.2, List.reverse_cons,
        List.append_assoc, List.singleton_append]

/-- What stands before the first line feed is the first line. -/
theorem lines_append_of_notMem {start : List Char} (h : '\n' ∉ start) (rest : List Char) :
    lines (start ++ '\n' :: rest) = dropReturn start :: lines rest := by
  rw [lines_append, lines_eq_go (by simp), linesGo_of_notMem [] h]
  rfl

/-- A line holds nothing but what the text holds besides line feeds. -/
theorem linesGo_subset (line cs : List Char) :
    ∀ other ∈ lines.go line cs, other ⊆ line ++ cs.filter (· ≠ '\n') := by
  induction cs generalizing line with
  | nil =>
      intro other hother c hc
      rw [lines.go, List.mem_singleton] at hother
      subst hother
      simpa using hc
  | cons c cs ih =>
      intro other hother
      by_cases hc : c = '\n'
      · subst hc
        have hfirst : dropReturn line.reverse ⊆ line ++ ('\n' :: cs).filter (· ≠ '\n') := by
          intro d hd
          exact List.mem_append_left _ (List.mem_reverse.1 (dropReturn_subset _ hd))
        by_cases hcs : cs = []
        · subst hcs
          rw [lines.go, List.mem_singleton] at hother
          exact hother ▸ hfirst
        · rw [linesGo_newline line hcs, List.mem_cons] at hother
          rcases hother with rfl | hother
          · exact hfirst
          · intro d hd
            have hmem := ih [] other hother hd
            rw [List.nil_append] at hmem
            rw [List.filter_cons_of_neg (by simp)]
            exact List.mem_append_right _ hmem
      · rw [linesGo_of_ne hc] at hother
        intro d hd
        have hmem := ih (c :: line) other hother hd
        rw [List.filter_cons_of_pos (by simp [hc])]
        simp only [List.cons_append, List.mem_cons, List.mem_append] at hmem ⊢
        tauto

theorem subset_filter_of_mem_lines {cs line : List Char} (h : line ∈ lines cs) :
    line ⊆ cs.filter (· ≠ '\n') := by
  by_cases hcs : cs = []
  · subst hcs
    exact absurd h (by simp [lines])
  · rw [lines_eq_go hcs] at h
    simpa using linesGo_subset [] cs line h

theorem subset_of_mem_lines {cs line : List Char} (h : line ∈ lines cs) : line ⊆ cs :=
  List.Subset.trans (subset_filter_of_mem_lines h) (List.filter_subset_self cs)

theorem newline_notMem_of_mem_lines {cs line : List Char} (h : line ∈ lines cs) :
    '\n' ∉ line := by
  intro hmem
  have hfiltered := subset_filter_of_mem_lines h hmem
  simp at hfiltered

/-! ## Beginnings and ends -/

theorem afterStart?_eq_some_iff {start cs rest : List Char} :
    afterStart? start cs = some rest ↔ cs = start ++ rest := by
  induction start generalizing cs with
  | nil => simp [afterStart?]
  | cons s start ih =>
      cases cs with
      | nil => simp [afterStart?]
      | cons c cs =>
          rw [afterStart?, List.cons_append, List.cons.injEq]
          by_cases hc : s = c
          · rw [if_pos hc, ih, and_iff_right hc.symm]
          · rw [if_neg hc]
            simp [Ne.symm hc]

theorem afterStart?_append (start rest : List Char) :
    afterStart? start (start ++ rest) = some rest :=
  afterStart?_eq_some_iff.2 rfl

theorem beforeEnd?_eq_some_iff {finish cs start : List Char} :
    beforeEnd? finish cs = some start ↔ cs = start ++ finish := by
  rw [beforeEnd?, Option.map_eq_some_iff]
  constructor
  · rintro ⟨back, hback, rfl⟩
    rw [afterStart?_eq_some_iff] at hback
    rw [← List.reverse_reverse cs, hback, List.reverse_append, List.reverse_reverse]
  · rintro rfl
    exact ⟨start.reverse, by rw [List.reverse_append, afterStart?_append], List.reverse_reverse _⟩

theorem beforeEnd?_append (start finish : List Char) :
    beforeEnd? finish (start ++ finish) = some start :=
  beforeEnd?_eq_some_iff.2 rfl

end StructMatch.Text
