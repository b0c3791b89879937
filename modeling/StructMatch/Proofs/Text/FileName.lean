import Mathlib.Data.List.Basic
import StructMatch.MatcherSpec
import StructMatch.Text.Identifier

/-!
# Names of files and directories

A name of a file or directory is any text without a separator that is not empty and none of the two
names with a meaning of their own.  Identifiers are such names, and so is the name of a matcher
file, whatever the letters of its class turn into in snake case.
-/

namespace StructMatch

open Text

/-- Whether a text can be the name of a file or directory. -/
structure IsFileName (name : String) : Prop where
  ne_empty : name.toList ≠ []
  no_separator : '/' ∉ name.toList
  ne_here : name.toList ≠ ['.']
  ne_up : name.toList ≠ ['.', '.']

instance (name : String) : Decidable (IsFileName name) :=
  decidable_of_iff
    (name.toList ≠ [] ∧ '/' ∉ name.toList ∧ name.toList ≠ ['.'] ∧ name.toList ≠ ['.', '.'])
    ⟨fun ⟨hempty, hseparator, hhere, hup⟩ => ⟨hempty, hseparator, hhere, hup⟩,
      fun h => ⟨h.ne_empty, h.no_separator, h.ne_here, h.ne_up⟩⟩

/-! ## Identifiers -/

/-- A character that can stand nowhere in an identifier stands in none. -/
theorem notMem_of_isIdentifier {cs : List Char} (h : isIdentifier cs = true) {d : Char}
    (hstart : isIdentStart d = false) (hcontinue : isIdentContinue d = false) : d ∉ cs := by
  cases cs with
  | nil => simp
  | cons c cs =>
      simp only [isIdentifier, Bool.and_eq_true, List.all_eq_true] at h
      rw [List.mem_cons, not_or]
      refine ⟨?_, fun hmem => ?_⟩
      · refine ne_of_apply_ne isIdentStart ?_
        rw [h.1, hstart]
        decide
      · rw [h.2 d hmem] at hcontinue
        exact absurd hcontinue (by decide)

/-- Identifiers are names of files. -/
theorem isFileName_of_isIdentifier {name : String} (h : isIdentifier name.toList = true) :
    IsFileName name := by
  have hdot : '.' ∉ name.toList := notMem_of_isIdentifier h (by decide) (by decide)
  refine ⟨?_, notMem_of_isIdentifier h (by decide) (by decide), ?_, ?_⟩
  · intro hnil
    rw [hnil] at h
    exact absurd h (by decide)
  · intro heq
    exact hdot (by rw [heq]; decide)
  · intro heq
    exact hdot (by rw [heq]; decide)

/-! ## Snake case -/

/-- Every run of capitals is moved to code points above that of the separator. -/
theorem separator_lt_of_mem_toLowerRuns :
    ∀ run ∈ LetterCase.toLowerRuns, (47 : Int) < (run.1.first : Int) + run.2 := by
  decide +kernel

theorem eq_of_ofNat_eq_separator {n : Nat} (h : Char.ofNat n = '/') : n = 47 := by
  by_cases hvalid : n.isValidChar
  · rw [Char.ofNat, dif_pos hvalid] at h
    exact congrArg Char.toNat h
  · rw [Char.ofNat, dif_neg hvalid] at h
    exact absurd h (by decide)

/-- The characters of ASCII can be gone through one by one. -/
theorem forall_ascii {P : Char → Prop} (h : ∀ n < 128, P (Char.ofNat n)) (c : Char)
    (hc : c.toNat < 128) : P c := by
  have hchar := h c.toNat hc
  rwa [Char.ofNat_toNat] at hchar

theorem toLower_eq_separator_ascii : ∀ c : Char, c.toNat < 128 → c.toLower = '/' → c = '/' :=
  forall_ascii (by decide)

/-- Lowering makes a separator of nothing else. -/
theorem separator_notMem_toLower {c : Char} (h : c ≠ '/') : '/' ∉ toLower c := by
  intro hmem
  unfold toLower at hmem
  -- letters of ASCII are lowered one by one, the others by the tables
  split at hmem
  · next hascii =>
      rw [List.mem_singleton] at hmem
      exact h (toLower_eq_separator_ascii c hascii hmem.symm)
  · unfold mapped at hmem
    split at hmem
    · next forms hforms =>
        rw [LetterCase.longLower, List.lookup_cons, List.lookup_nil] at hforms
        split at hforms
        · obtain rfl := Option.some.inj hforms
          exact absurd hmem (by decide)
        · exact absurd hforms (by simp)
    · split at hmem
      · next run shift hrun =>
          rw [List.mem_singleton] at hmem
          have hlow : (47 : Int) < (run.first : Int) + shift :=
            separator_lt_of_mem_toLowerRuns _ (List.mem_of_find?_eq_some hrun)
          have hcovers := List.find?_some hrun
          simp only [CodeRun.covers, Bool.and_eq_true, decide_eq_true_eq] at hcovers
          have hlt : 47 < ((c.toNat : Int) + shift).toNat := by
            have := hcovers.1.1
            omega
          have heq := eq_of_ofNat_eq_separator hmem.symm
          omega
      · rw [List.mem_singleton] at hmem
        exact h hmem.symm

/-- Snake case brings no separator into a name. -/
theorem separator_notMem_snakeFrom (before? : Option Char) (cs : List Char) (h : '/' ∉ cs) :
    '/' ∉ snakeFrom before? cs := by
  induction cs generalizing before? with
  | nil => simp [snakeFrom]
  | cons c cs ih =>
      rw [List.mem_cons, not_or] at h
      have hlower : '/' ∉ toLower c := separator_notMem_toLower (Ne.symm h.1)
      rw [snakeFrom, List.mem_append, not_or]
      refine ⟨?_, ih (some c) h.2⟩
      split
      · split
        · rw [List.mem_cons, not_or]
          exact ⟨by decide, hlower⟩
        · exact hlower
      · simpa using h.1

theorem separator_notMem_snakeCase {name : String} (h : '/' ∉ name.toList) :
    '/' ∉ (snakeCase name).toList := by
  rw [snakeCase, String.toList_ofList]
  exact separator_notMem_snakeFrom none name.toList h

/-- The matcher of a type with a name free of separators is written to a file with a proper name. -/
theorem isFileName_fileName (naming : Naming) (generatorName : String) (type : StructType)
    (properties : List String) (h : '/' ∉ type.name.toList) :
    IsFileName (MatcherSpec.build naming generatorName type properties).fileName := by
  have htext : (MatcherSpec.build naming generatorName type properties).fileName.toList =
      (snakeCase (type.name ++ "Matcher")).toList ++ ['.', 'r', 's'] := by
    rw [MatcherSpec.build, String.toList_append]
    rfl
  have hclass : '/' ∉ (type.name ++ "Matcher").toList := by
    rw [String.toList_append, List.mem_append, not_or]
    exact ⟨h, by decide⟩
  constructor
  · rw [htext]
    simp
  · rw [htext, List.mem_append, not_or]
    exact ⟨separator_notMem_snakeCase hclass, by decide⟩
  · rw [htext]
    intro heq
    have := congrArg List.length heq
    simp at this
  · rw [htext]
    intro heq
    have := congrArg List.length heq
    simp at this

end StructMatch
