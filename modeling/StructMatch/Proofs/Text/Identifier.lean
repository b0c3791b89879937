import Mathlib.Data.List.TakeWhile
import StructMatch.Proofs.Text.FileName

/-!
# Names made from identifiers

The names of a matcher are made from identifiers by adding letters, raising or lowering the case of
others, and putting underscores between words.  All of this leads to identifiers again.  Beyond
ASCII the tables have to bear this out: what may begin an identifier may go on with one,
`isIdentContinue_of_isIdentStart`, and so may the other form of each letter,
`isIdentContinue_of_mem_toLower` and `isIdentContinue_of_mem_toUpper`.
-/

namespace StructMatch.Text

open Identifier LetterCase

variable {c d : Char} {cs ds : List Char}

/-! ## Runs inside other runs -/

namespace CodeRun

/-- The code points of a run one by one. -/
def points (run : CodeRun) : List Nat :=
  List.range' run.first ((run.last - run.first) / run.stride + 1) run.stride

theorem mem_points {run : CodeRun} {n : Nat} (h : run.covers n = true) : n ∈ run.points := by
  simp only [covers, Bool.and_eq_true, decide_eq_true_eq, beq_iff_eq] at h
  obtain ⟨⟨hfirst, hlast⟩, hstride⟩ := h
  refine List.mem_range'.2 ⟨(n - run.first) / run.stride, ?_, ?_⟩
  · exact Nat.lt_succ_of_le (Nat.div_le_div_right (by omega))
  · rw [Nat.mul_div_cancel' (Nat.dvd_of_mod_eq_zero hstride)]
    omega

/-- Whether all code points between the two lie on the run.  The tests are those that the kernel
computes by itself. -/
def spans (run : CodeRun) (first last : Nat) : Bool :=
  Nat.ble run.first first && Nat.ble last run.last &&
    (Nat.beq run.stride 1 || Nat.beq first last && Nat.beq ((first - run.first) % run.stride) 0)

theorem covers_of_spans {run : CodeRun} {first last n : Nat} (h : run.spans first last = true)
    (hfirst : first ≤ n) (hlast : n ≤ last) : run.covers n = true := by
  simp only [spans, Bool.and_eq_true, Bool.or_eq_true, Nat.ble_eq, Nat.beq_eq] at h
  obtain ⟨⟨hrun, hrun'⟩, hstride⟩ := h
  simp only [covers, Bool.and_eq_true, decide_eq_true_eq, beq_iff_eq]
  refine ⟨⟨by omega, by omega⟩, ?_⟩
  rcases hstride with hone | ⟨hsame, hmod⟩
  · rw [hone, Nat.mod_one]
  · obtain rfl : n = first := by omega
    exact hmod

/-- Whether no code point between the two lies on the run. -/
def avoids (run : CodeRun) (first last : Nat) : Bool :=
  Nat.blt run.last first || Nat.blt last run.first

theorem covers_eq_false_of_avoids {run : CodeRun} {first last n : Nat}
    (h : run.avoids first last = true) (hfirst : first ≤ n) (hlast : n ≤ last) :
    run.covers n = false := by
  simp only [avoids, Bool.or_eq_true, Nat.blt_eq] at h
  simp only [covers, Bool.and_eq_false_iff, decide_eq_false_iff_not]
  omega

/-- The same code points on runs that leave out nothing. -/
def pieces (run : CodeRun) : List CodeRun :=
  if run.stride = 1 then [run] else run.points.map fun n => ⟨n, n, 1⟩

theorem exists_mem_pieces {run : CodeRun} {n : Nat} (h : run.covers n = true) :
    ∃ piece ∈ run.pieces, piece.first ≤ n ∧ n ≤ piece.last := by
  unfold pieces
  split
  · simp only [covers, Bool.and_eq_true, decide_eq_true_eq] at h
    exact ⟨run, List.mem_singleton_self run, h.1⟩
  · exact ⟨⟨n, n, 1⟩, List.mem_map.2 ⟨n, mem_points h, rfl⟩, Nat.le_refl n, Nat.le_refl n⟩

end CodeRun

/-- Whether each of some runs lies on one of others, where both are in order. -/
def allWithin : List CodeRun → List CodeRun → Bool
  | [], runs => runs.isEmpty
  | other :: others, runs =>
    allWithin others (runs.dropWhile fun run => other.spans run.first run.last)

theorem exists_spans_of_allWithin {others runs : List CodeRun} (h : allWithin others runs = true)
    {run : CodeRun} (hrun : run ∈ runs) :
    ∃ other ∈ others, other.spans run.first run.last = true := by
  induction others generalizing runs with
  | nil =>
      rw [allWithin, List.isEmpty_iff] at h
      rw [h] at hrun
      exact absurd hrun List.not_mem_nil
  | cons other others ih =>
      let within (run : CodeRun) : Bool := other.spans run.first run.last
      rw [← List.takeWhile_append_dropWhile (p := within) (l := runs), List.mem_append] at hrun
      rcases hrun with htaken | hleft
      · exact ⟨other, List.mem_cons_self, List.mem_takeWhile_imp (p := within) htaken⟩
      · obtain ⟨later, hlater, hspans⟩ := ih h hleft
        exact ⟨later, List.mem_cons_of_mem _ hlater, hspans⟩

/-! ## What an identifier goes on with -/

theorem toNat_ofNat {n : Nat} (h : n < 0xD800 ∨ 0xDFFF < n ∧ n < 0x110000) :
    (Char.ofNat n).toNat = n := by
  rw [Char.ofNat, dif_pos (show n.isValidChar from h)]
  rfl

/-- The table holds characters beyond ASCII only. -/
theorem isValidChar_of_mem_continueRuns :
    ∀ run ∈ continueRuns, 128 ≤ run.first ∧
      (run.last < 0xD800 ∨ 0xDFFF < run.first ∧ run.last < 0x110000) := by
  decide +kernel

theorem isIdentContinue_ofNat {run : CodeRun} (hrun : run ∈ continueRuns) {n : Nat}
    (h : run.covers n = true) : isIdentContinue (Char.ofNat n) = true := by
  obtain ⟨hascii, hvalid⟩ := isValidChar_of_mem_continueRuns run hrun
  have hbounds := h
  simp only [CodeRun.covers, Bool.and_eq_true, decide_eq_true_eq] at hbounds
  have hn : (Char.ofNat n).toNat = n := toNat_ofNat (by omega)
  rw [isIdentContinue, hn, if_neg (by omega), inRuns, List.any_eq_true]
  exact ⟨run, hrun, by rw [hn]; exact h⟩

/-! ### Beginnings -/

theorem allWithin_startRuns :
    allWithin continueRuns (startRuns.flatMap CodeRun.pieces) = true := by
  decide +kernel

theorem isIdentContinue_of_isIdentStart_ascii :
    ∀ c : Char, c.toNat < 128 → isIdentStart c = true → isIdentContinue c = true :=
  forall_ascii (by decide)

/-- What may begin an identifier may go on with one. -/
theorem isIdentContinue_of_isIdentStart (h : isIdentStart c = true) : isIdentContinue c = true := by
  by_cases hascii : c.toNat < 128
  · exact isIdentContinue_of_isIdentStart_ascii c hascii h
  · rw [isIdentStart, if_neg hascii, inRuns, List.any_eq_true] at h
    obtain ⟨run, hrun, hcovers⟩ := h
    obtain ⟨piece, hpiece, hfirst, hlast⟩ := CodeRun.exists_mem_pieces hcovers
    obtain ⟨other, hother, hspans⟩ := exists_spans_of_allWithin allWithin_startRuns
      (List.mem_flatMap.2 ⟨run, hrun, hpiece⟩)
    have hcontinue := isIdentContinue_ofNat hother (CodeRun.covers_of_spans hspans hfirst hlast)
    rwa [Char.ofNat_toNat] at hcontinue

/-! ### Other forms of letters -/

/-- The code point at a distance from another one. -/
def displaced (n : Nat) : Int → Nat
  | .ofNat k => n + k
  | .negSucc k => n - (k + 1)

theorem displaced_eq (n : Nat) (shift : Int) : displaced n shift = ((n : Int) + shift).toNat := by
  cases shift with
  | ofNat k => rfl
  | negSucc k =>
      rw [displaced, Int.negSucc_eq]
      omega

/-- Whether the displacement of a run leads from characters of identifiers to others that an
identifier may go on with.  Most runs are displaced into one run as a whole, and some have no such
characters; the others are short, and they are checked point by point. -/
def staysWithin (run : CodeRun) (shift : Int) : Bool :=
  let first := displaced run.first shift
  continueRuns.any (·.spans first (first + (run.last - run.first))) ||
    (Nat.ble 128 run.first && continueRuns.all (·.avoids run.first run.last)) ||
    run.points.all fun n => isIdentContinue (Char.ofNat (displaced n shift))

theorem isIdentContinue_of_staysWithin {run : CodeRun} {shift : Int}
    (h : staysWithin run shift = true) (hfirst : 0 ≤ (run.first : Int) + shift)
    (hcovers : run.covers c.toNat = true) (hc : isIdentContinue c = true) :
    isIdentContinue (Char.ofNat ((c.toNat : Int) + shift).toNat) = true := by
  have hbounds := hcovers
  simp only [CodeRun.covers, Bool.and_eq_true, decide_eq_true_eq] at hbounds
  rw [staysWithin, Bool.or_eq_true, Bool.or_eq_true, List.any_eq_true, Bool.and_eq_true,
    List.all_eq_true, Nat.ble_eq] at h
  rcases h with (⟨other, hother, hspans⟩ | ⟨hascii, havoids⟩) | hpoints
  · refine isIdentContinue_ofNat hother (CodeRun.covers_of_spans hspans ?_ ?_)
    all_goals
      rw [displaced_eq]
      omega
  · rw [isIdentContinue, if_neg (by omega), inRuns, List.any_eq_true] at hc
    obtain ⟨other, hother, hcontinues⟩ := hc
    rw [CodeRun.covers_eq_false_of_avoids (havoids other hother) hbounds.1.1 hbounds.1.2]
      at hcontinues
    exact absurd hcontinues (by decide)
  · have hpoint := List.all_eq_true.1 hpoints _ (CodeRun.mem_points hcovers)
    rwa [displaced_eq] at hpoint

/-- Whether a table of long forms and displacements leads from characters of identifiers to others
that an identifier may go on with. -/
structure KeepsIdentifiers (long : List (Nat × List Nat)) (runs : List (CodeRun × Int)) : Prop where
  long : ∀ entry ∈ long, ∀ n ∈ entry.2, isIdentContinue (Char.ofNat n) = true
  first : ∀ moved ∈ runs, 0 ≤ (moved.1.first : Int) + moved.2
  staysWithin : ∀ moved ∈ runs, staysWithin moved.1 moved.2 = true

theorem isIdentContinue_of_mem_mapped {long : List (Nat × List Nat)} {runs : List (CodeRun × Int)}
    (h : KeepsIdentifiers long runs) (hc : isIdentContinue c = true)
    (hd : d ∈ mapped long runs c) : isIdentContinue d = true := by
  unfold mapped at hd
  split at hd
  · next forms hforms =>
      obtain ⟨before, after, hlong, -⟩ := List.lookup_eq_some_iff.1 hforms
      obtain ⟨n, hn, rfl⟩ := List.mem_map.1 hd
      exact h.long (c.toNat, forms) (by simp [hlong]) n hn
  · split at hd
    · next run shift hrun =>
        have hmem := List.mem_of_find?_eq_some hrun
        have hstays : Text.staysWithin run shift = true := h.staysWithin _ hmem
        have hfirst : 0 ≤ (run.first : Int) + shift := h.first _ hmem
        let meets (moved : CodeRun × Int) : Bool := moved.1.covers c.toNat
        have hcovers : meets (run, shift) = true := List.find?_some (p := meets) hrun
        rw [List.mem_singleton.1 hd]
        exact isIdentContinue_of_staysWithin hstays hfirst hcovers hc
    · rwa [List.mem_singleton.1 hd]

theorem keepsIdentifiers_lower : KeepsIdentifiers longLower toLowerRuns where
  long := by decide +kernel
  first := by decide +kernel
  staysWithin := by decide +kernel

theorem keepsIdentifiers_upper : KeepsIdentifiers longUpper toUpperRuns where
  long := by decide +kernel
  first := by decide +kernel
  staysWithin := by decide +kernel

theorem isIdentContinue_toLower_ascii :
    ∀ c : Char, c.toNat < 128 → isIdentContinue c = true → isIdentContinue c.toLower = true :=
  forall_ascii (by decide)

theorem isIdentContinue_toUpper_ascii :
    ∀ c : Char, c.toNat < 128 → isIdentContinue c = true → isIdentContinue c.toUpper = true :=
  forall_ascii (by decide)

theorem isIdentContinue_of_mem_toLower (hc : isIdentContinue c = true) (hd : d ∈ toLower c) :
    isIdentContinue d = true := by
  unfold toLower at hd
  split at hd
  · next hascii =>
      rw [List.mem_singleton.1 hd]
      exact isIdentContinue_toLower_ascii c hascii hc
  · exact isIdentContinue_of_mem_mapped keepsIdentifiers_lower hc hd

theorem isIdentContinue_of_mem_toUpper (hc : isIdentContinue c = true) (hd : d ∈ toUpper c) :
    isIdentContinue d = true := by
  unfold toUpper at hd
  split at hd
  · next hascii =>
      rw [List.mem_singleton.1 hd]
      exact isIdentContinue_toUpper_ascii c hascii hc
  · exact isIdentContinue_of_mem_mapped keepsIdentifiers_upper hc hd

/-! ## Names put together -/

/-- An identifier consists of characters that one may go on with. -/
theorem isIdentContinue_of_mem (h : isIdentifier cs = true) (hc : c ∈ cs) :
    isIdentContinue c = true := by
  cases cs with
  | nil => exact absurd hc List.not_mem_nil
  | cons first rest =>
      rw [isIdentifier, Bool.and_eq_true, List.all_eq_true] at h
      rcases List.mem_cons.1 hc with rfl | hrest
      · exact isIdentContinue_of_isIdentStart h.1
      · exact h.2 c hrest

/-- An identifier may be made longer at its end. -/
theorem isIdentifier_append (h : isIdentifier cs = true)
    (hds : ∀ d ∈ ds, isIdentContinue d = true) : isIdentifier (cs ++ ds) = true := by
  cases cs with
  | nil => exact absurd h (by decide)
  | cons first rest =>
      rw [isIdentifier, Bool.and_eq_true] at h
      rw [List.cons_append, isIdentifier, Bool.and_eq_true, List.all_append, Bool.and_eq_true,
        List.all_eq_true (l := ds)]
      exact ⟨h.1, h.2, hds⟩

theorem isIdentContinue_of_mem_snakeFrom {before? : Option Char}
    (h : ∀ c ∈ cs, isIdentContinue c = true) (hd : d ∈ snakeFrom before? cs) :
    isIdentContinue d = true := by
  induction cs generalizing before? with
  | nil => exact absurd hd (by simp [snakeFrom])
  | cons c cs ih =>
      obtain ⟨hc, hcs⟩ := List.forall_mem_cons.1 h
      rw [snakeFrom, List.mem_append] at hd
      rcases hd with hfirst | hrest
      · split at hfirst
        · split at hfirst
          · rcases List.mem_cons.1 hfirst with rfl | hlower
            · decide
            · exact isIdentContinue_of_mem_toLower hc hlower
          · exact isIdentContinue_of_mem_toLower hc hfirst
        · rwa [List.mem_singleton.1 hfirst]
      · exact ih hcs hrest

theorem isIdentContinue_of_mem_snakeCase {name : String}
    (h : ∀ c ∈ name.toList, isIdentContinue c = true) (hd : d ∈ (snakeCase name).toList) :
    isIdentContinue d = true := by
  rw [snakeCase, String.toList_ofList] at hd
  exact isIdentContinue_of_mem_snakeFrom h hd

theorem isIdentContinue_of_mem_capitalize {name : String}
    (h : ∀ c ∈ name.toList, isIdentContinue c = true) (hd : d ∈ (capitalize name).toList) :
    isIdentContinue d = true := by
  unfold capitalize at hd
  split at hd
  · exact absurd hd (by simp)
  · next c cs hname =>
      rw [hname] at h
      obtain ⟨hc, hcs⟩ := List.forall_mem_cons.1 h
      rw [String.toList_ofList, List.mem_append] at hd
      rcases hd with hupper | hrest
      · exact isIdentContinue_of_mem_toUpper hc hupper
      · exact hcs d hrest

end StructMatch.Text
