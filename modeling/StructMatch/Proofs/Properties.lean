import Mathlib.Data.List.Nodup
import Mathlib.Data.List.Sort
import StructMatch.Properties

/-!
# First occurrences

The first occurrences of names are the same names, each of them once, and one of them comes before
another one if it is met before it: `areFirstOccurrences`.  No other list is like that.  Names that
follow change nothing in what has been listed, `firstOccurrences_append`: they add those among them
that are new.
-/

namespace StructMatch

theorem mem_firstOccurrences {name : String} {names : List String} :
    name ∈ firstOccurrences names ↔ name ∈ names := by
  induction names with
  | nil => rfl
  | cons first rest ih =>
      rw [firstOccurrences_cons, List.mem_cons, List.mem_cons, List.mem_filter, ih,
        decide_eq_true_eq]
      by_cases heq : name = first
      · simp [heq]
      · simp [heq]

theorem nodup_firstOccurrences (names : List String) : (firstOccurrences names).Nodup := by
  induction names with
  | nil => exact List.nodup_nil
  | cons first rest ih =>
      rw [firstOccurrences_cons, List.nodup_cons]
      exact ⟨by simp, ih.filter _⟩

/-- Names that follow add those among them that have not occurred already. -/
theorem firstOccurrences_append (names more : List String) :
    firstOccurrences (names ++ more) =
      firstOccurrences names ++ (firstOccurrences more).filter (· ∉ names) := by
  induction names with
  | nil => simp [firstOccurrences_nil]
  | cons first rest ih =>
      rw [List.cons_append, firstOccurrences_cons, ih, firstOccurrences_cons, List.filter_append,
        List.filter_filter, List.cons_append]
      congr 2
      exact List.filter_congr fun name _ => by simp [not_or]

/-- A name at the end is new or has occurred already. -/
theorem firstOccurrences_concat (names : List String) (name : String) :
    firstOccurrences (names ++ [name]) =
      if name ∈ names then firstOccurrences names else firstOccurrences names ++ [name] := by
  rw [firstOccurrences_append]
  by_cases hmem : name ∈ names <;> simp [firstOccurrences_cons, firstOccurrences_nil, hmem]

/-- What occurs first comes first. -/
theorem pairwise_firstOccurrences (names : List String) :
    (firstOccurrences names).Pairwise fun a b => names.idxOf a < names.idxOf b := by
  induction names with
  | nil => exact List.Pairwise.nil
  | cons first rest ih =>
      rw [firstOccurrences_cons, List.pairwise_cons]
      constructor
      · intro name hname
        have hne : first ≠ name := fun heq => by simp [heq] at hname
        rw [List.idxOf_cons_self, List.idxOf_cons_ne rest hne]
        exact Nat.succ_pos _
      · refine List.pairwise_filter.2 (ih.imp fun hlt ha hb => ?_)
        rw [List.idxOf_cons_ne rest (of_decide_eq_true ha).symm,
          List.idxOf_cons_ne rest (of_decide_eq_true hb).symm]
        exact Nat.succ_lt_succ hlt

/-! ## What first occurrences are -/

/-- Whether names are those of a list, each of them once and in the order in which they come first
there. -/
structure AreFirstOccurrences (names all : List String) : Prop where
  nodup : names.Nodup
  mem_iff : ∀ name, name ∈ names ↔ name ∈ all
  ordered : names.Pairwise fun a b => all.idxOf a < all.idxOf b

theorem areFirstOccurrences (names : List String) :
    AreFirstOccurrences (firstOccurrences names) names :=
  ⟨nodup_firstOccurrences names, fun _ => mem_firstOccurrences, pairwise_firstOccurrences names⟩

/-- There is one such list. -/
theorem AreFirstOccurrences.eq {names all : List String} (h : AreFirstOccurrences names all) :
    names = firstOccurrences all := by
  have hperm : names.Perm (firstOccurrences all) :=
    (List.perm_ext_iff_of_nodup h.nodup (nodup_firstOccurrences all)).2 fun name => by
      rw [h.mem_iff, mem_firstOccurrences]
  refine hperm.eq_of_pairwise (fun a b _ _ hab hba => ?_) h.ordered (pairwise_firstOccurrences all)
  exact absurd hab (Nat.lt_asymm hba)

end StructMatch
