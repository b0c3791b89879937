import Mathlib.Data.List.Perm.Basic
import Mathlib.Data.String.Basic
import StructMatch.Proofs.FileTree.Route

/-!
# Walks

A walk meets every file below a directory once and in an order that the ways to the files fix,
`mem_filesBelow` and `pairwise_filesBelow`.  So two trees with the same files of some kind are
walked alike as far as these files go, `filter_filesBelow_congr`.
-/

namespace StructMatch.FileTree

/-! ## The order of a walk -/

theorem walkOrder_total (a b : Location) : (walkOrder a b || walkOrder b a) = true := by
  induction a generalizing b with
  | nil => rfl
  | cons first a ih =>
      cases b with
      | nil => rfl
      | cons second b =>
          by_cases heq : first = second
          · subst heq
            simpa [walkOrder] using ih b
          · simp only [walkOrder, if_neg heq, if_neg (Ne.symm heq), Bool.or_eq_true,
              decide_eq_true_eq]
            exact lt_or_gt_of_ne heq

theorem walkOrder_antisymm {a b : Location} (h : walkOrder a b = true)
    (h' : walkOrder b a = true) : a = b := by
  induction a generalizing b with
  | nil =>
      cases b with
      | nil => rfl
      | cons second b => exact absurd h' (by simp [walkOrder])
  | cons first a ih =>
      cases b with
      | nil => exact absurd h (by simp [walkOrder])
      | cons second b =>
          by_cases heq : first = second
          · subst heq
            simp only [walkOrder, if_true] at h h'
            rw [ih h h']
          · simp only [walkOrder, if_neg heq, if_neg (Ne.symm heq), decide_eq_true_eq] at h h'
            exact absurd (lt_trans h h') (lt_irrefl first)

theorem walkOrder_trans {a b c : Location} (h : walkOrder a b = true)
    (h' : walkOrder b c = true) : walkOrder a c = true := by
  induction a generalizing b c with
  | nil => rfl
  | cons first a ih =>
      cases b with
      | nil => exact absurd h (by simp [walkOrder])
      | cons second b =>
          cases c with
          | nil => exact absurd h' (by simp [walkOrder])
          | cons third c =>
              by_cases hab : first = second
              · subst hab
                by_cases hbc : first = third
                · subst hbc
                  simp only [walkOrder, if_true] at h h' ⊢
                  exact ih h h'
                · simpa [walkOrder, hbc] using h'
              · have hlt : first < second := by simpa [walkOrder, hab] using h
                have hle : second ≤ third := by
                  by_cases hbc : second = third
                  · exact le_of_eq hbc
                  · exact le_of_lt (by simpa [walkOrder, hbc] using h')
                have hac : first < third := lt_of_lt_of_le hlt hle
                simp [walkOrder, ne_of_lt hac, hac]

/-! ## The files of a walk -/

variable {tree tree' : FileTree} {cwd location : Location} {path : Path}

/-- A file below a location as a walk lists it. -/
def listed? (location : Location) : Location × Entry → Option (Location × Content)
  | (_, .directory) => none
  | (place, .file content) =>
    if location.isPrefixOf place && place ≠ location then
      some (place.drop location.length, content)
    else none

theorem filesBelow_eq (tree : FileTree) (location : Location) :
    tree.filesBelow location =
      (tree.entries.filterMap (listed? location)).mergeSort fun a b => walkOrder a.1 b.1 := by
  unfold filesBelow
  congr 2
  funext ⟨place, entry⟩
  cases entry <;> rfl

theorem listed?_eq_some {e : Location × Entry} {way : Location} {content : Content} :
    listed? location e = some (way, content) ↔
      way ≠ [] ∧ e = (location ++ way, .file content) := by
  obtain ⟨place, entry⟩ := e
  cases entry with
  | directory => simp [listed?]
  | file other =>
      simp only [listed?, Bool.and_eq_true, List.isPrefixOf_iff_prefix, decide_eq_true_eq,
        Option.ite_none_right_eq_some, Option.some.injEq, Prod.mk.injEq, Entry.file.injEq]
      constructor
      · rintro ⟨⟨⟨below, rfl⟩, hne⟩, hway, rfl⟩
        rw [List.drop_left] at hway
        subst hway
        exact ⟨fun hnil => hne (by simp [hnil]), rfl, rfl⟩
      · rintro ⟨hne, rfl, rfl⟩
        exact ⟨⟨List.prefix_append _ _, by simpa using hne⟩, List.drop_left, rfl⟩

/-- A walk meets the files below a location. -/
theorem Lawful.mem_filesBelow (h : tree.Lawful) {way : Location} {content : Content} :
    (way, content) ∈ tree.filesBelow location ↔
      way ≠ [] ∧ tree.entryAt? (location ++ way) = some (.file content) := by
  rw [filesBelow_eq, List.mem_mergeSort, List.mem_filterMap]
  constructor
  · rintro ⟨e, he, hlisted⟩
    obtain ⟨hne, rfl⟩ := listed?_eq_some.1 hlisted
    exact ⟨hne, (h.mem_entries_iff (by simp [hne])).1 he⟩
  · rintro ⟨hne, hentry⟩
    exact ⟨_, (h.mem_entries_iff (by simp [hne])).2 hentry, listed?_eq_some.2 ⟨hne, rfl⟩⟩

/-- Files that are listed in the order of a walk are walked as they are listed. -/
theorem walk_of_pairwise (hlocate : tree.locate cwd path.components = .ok location)
    (h : (tree.entries.filterMap (listed? location)).Pairwise
      fun a b => walkOrder a.1 b.1 = true) :
    tree.walk cwd path = tree.entries.filterMap (listed? location) := by
  rw [walk, hlocate]
  exact (filesBelow_eq tree location).trans (List.mergeSort_of_pairwise h)

/-- A walk goes by the order of the ways. -/
theorem pairwise_filesBelow (tree : FileTree) (location : Location) :
    (tree.filesBelow location).Pairwise fun a b => walkOrder a.1 b.1 = true := by
  rw [filesBelow_eq]
  exact List.pairwise_mergeSort (fun a b c => walkOrder_trans (a := a.1) (b := b.1) (c := c.1))
    (fun a b => walkOrder_total a.1 b.1) _

/-- A walk meets no file twice. -/
theorem Lawful.nodup_filesBelow (h : tree.Lawful) (location : Location) :
    (tree.filesBelow location).Nodup := by
  rw [filesBelow_eq, (List.mergeSort_perm _ _).nodup_iff]
  refine (List.Nodup.of_map _ h.nodup).filterMap ?_
  rintro e e' ⟨way, content⟩ he he'
  rw [(listed?_eq_some.1 he).2, (listed?_eq_some.1 he').2]

/-- A walk comes by each way once. -/
theorem Lawful.nodup_ways (h : tree.Lawful) (location : Location) :
    ((tree.filesBelow location).map (·.1)).Nodup := by
  refine List.Nodup.map_on ?_ (h.nodup_filesBelow location)
  rintro ⟨way, content⟩ hfile ⟨way', content'⟩ hfile' heq
  obtain rfl : way = way' := heq
  have hfirst := (h.mem_filesBelow.1 hfile).2
  rw [(h.mem_filesBelow.1 hfile').2] at hfirst
  rw [Entry.file.inj (Option.some.inj hfirst)]

/-- Two trees that agree on the files of some kind are walked alike as far as these go. -/
theorem filter_filesBelow_congr (h : tree.Lawful) (h' : tree'.Lawful) (keep : Location → Bool)
    (hfiles : ∀ way content, keep way = true →
      (tree'.entryAt? (location ++ way) = some (.file content) ↔
        tree.entryAt? (location ++ way) = some (.file content))) :
    (tree'.filesBelow location).filter (fun file => keep file.1) =
      (tree.filesBelow location).filter fun file => keep file.1 := by
  have hmem : ∀ file, file ∈ (tree'.filesBelow location).filter (fun file => keep file.1) ↔
      file ∈ (tree.filesBelow location).filter fun file => keep file.1 := by
    rintro ⟨way, content⟩
    rw [List.mem_filter, List.mem_filter, h.mem_filesBelow, h'.mem_filesBelow]
    exact and_congr_left fun hkeep => and_congr_right fun _ => hfiles way content hkeep
  -- the same files without repetition, and in an order that leaves no choice
  have hperm := (List.perm_ext_iff_of_nodup ((h'.nodup_filesBelow location).filter _)
    ((h.nodup_filesBelow location).filter _)).2 hmem
  refine hperm.eq_of_pairwise ?_ ((pairwise_filesBelow tree' location).filter _)
    ((pairwise_filesBelow tree location).filter _)
  rintro ⟨way, content⟩ ⟨way', content'⟩ hfile hfile' hle hle'
  obtain rfl : way = way' := walkOrder_antisymm hle hle'
  have hfirst := (h.mem_filesBelow.1 (List.mem_filter.1 ((hmem _).1 hfile)).1).2
  have hsecond := (h.mem_filesBelow.1 (List.mem_filter.1 hfile').1).2
  rw [hfirst] at hsecond
  rw [Entry.file.inj (Option.some.inj hsecond)]

end StructMatch.FileTree
