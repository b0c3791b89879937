import Mathlib.Data.List.Induction
import Mathlib.Data.List.Nodup
import StructMatch.FileTree.Basic
import StructMatch.Proofs.Text.FileName

/-!
# Entries of file trees

What is at each location after an entry was put there, and the trees that are lawful: each location
is listed once, all names are proper ones, and whatever there is lies in a directory.  Putting
entries keeps a tree lawful.
-/

namespace StructMatch

namespace FileTree

variable {tree : FileTree} {location other : Location} {entry : Entry}

theorem entryAt?_nil (tree : FileTree) : tree.entryAt? [] = some .directory := rfl

theorem entryAt?_of_ne_nil (h : location ≠ []) :
    tree.entryAt? location = tree.entries.lookup location := if_neg h

theorem lookup_filter (keep : Location → Bool) (entries : List (Location × Entry))
    (location : Location) :
    (entries.filter fun e => keep e.1).lookup location =
      if keep location then entries.lookup location else none := by
  induction entries with
  | nil => simp
  | cons e entries ih =>
      obtain ⟨place, entry⟩ := e
      by_cases hplace : location = place
      · subst hplace
        by_cases hkeep : keep location = true
        · simp [hkeep]
        · simpa [hkeep] using ih
      · have hbeq : (location == place) = false := by simpa using hplace
        by_cases hkeep : keep place = true <;> simp [hkeep, List.lookup_cons, hbeq, ih]

/-- What is at a location after an entry was put somewhere. -/
theorem entryAt?_put (h : other ≠ []) :
    (tree.put location entry).entryAt? other =
      if other = location then some entry else tree.entryAt? other := by
  rw [entryAt?_of_ne_nil h, put, List.lookup_cons, lookup_filter fun l => l ≠ location,
    entryAt?_of_ne_nil h]
  by_cases heq : other = location
  · simp [heq]
  · have hbeq : (other == location) = false := by simpa using heq
    simp [heq, hbeq]

theorem entryAt?_put_self (h : location ≠ []) :
    (tree.put location entry).entryAt? location = some entry := by
  rw [entryAt?_put h, if_pos rfl]

theorem entryAt?_put_of_ne (h : other ≠ location) :
    (tree.put location entry).entryAt? other = tree.entryAt? other := by
  by_cases hnil : other = []
  · rw [hnil]
    rfl
  · rw [entryAt?_put hnil, if_neg h]

/-! ## Lawful trees -/

/-- A file tree as it is met on a device. -/
structure Lawful (tree : FileTree) : Prop where
  nodup : (tree.entries.map (·.1)).Nodup
  isFileName : ∀ e ∈ tree.entries, ∀ name ∈ e.1, IsFileName name
  ne_nil : ∀ e ∈ tree.entries, e.1 ≠ []
  parent : ∀ e ∈ tree.entries, tree.entryAt? e.1.dropLast = some .directory

instance (tree : FileTree) : Decidable tree.Lawful :=
  decidable_of_iff
    ((tree.entries.map (·.1)).Nodup ∧ (∀ e ∈ tree.entries, ∀ name ∈ e.1, IsFileName name) ∧
      (∀ e ∈ tree.entries, e.1 ≠ []) ∧
      ∀ e ∈ tree.entries, tree.entryAt? e.1.dropLast = some .directory)
    ⟨fun ⟨hnodup, hnames, hne, hparent⟩ => ⟨hnodup, hnames, hne, hparent⟩,
      fun h => ⟨h.nodup, h.isFileName, h.ne_nil, h.parent⟩⟩

theorem mem_of_lookup {entries : List (Location × Entry)} {location : Location} {entry : Entry}
    (h : entries.lookup location = some entry) : (location, entry) ∈ entries := by
  obtain ⟨before, after, rfl, -⟩ := List.lookup_eq_some_iff.1 h
  simp

theorem lookup_of_mem {entries : List (Location × Entry)} (hnodup : (entries.map (·.1)).Nodup)
    {location : Location} {entry : Entry} (h : (location, entry) ∈ entries) :
    entries.lookup location = some entry := by
  induction entries with
  | nil => simp at h
  | cons e entries ih =>
      rw [List.map_cons, List.nodup_cons] at hnodup
      rcases List.mem_cons.1 h with rfl | hmem
      · simp
      · have hne : location ≠ e.1 := by
          rintro rfl
          exact hnodup.1 (List.mem_map.2 ⟨_, hmem, rfl⟩)
        have hbeq : (location == e.1) = false := by simpa using hne
        obtain ⟨place, entry'⟩ := e
        simpa [List.lookup_cons, hbeq] using ih hnodup.2 hmem

namespace Lawful

/-- The listed entries are those that are found. -/
theorem mem_entries_iff (h : tree.Lawful) (hne : location ≠ []) :
    (location, entry) ∈ tree.entries ↔ tree.entryAt? location = some entry := by
  rw [entryAt?_of_ne_nil hne]
  exact ⟨lookup_of_mem h.nodup, mem_of_lookup⟩

theorem isFileName_of_entry (h : tree.Lawful) (hentry : tree.entryAt? location = some entry) :
    ∀ name ∈ location, IsFileName name := by
  by_cases hne : location = []
  · simp [hne]
  · exact h.isFileName _ ((h.mem_entries_iff hne).2 hentry)

theorem parent_of_entry (h : tree.Lawful) (hentry : tree.entryAt? location = some entry) :
    tree.entryAt? location.dropLast = some .directory := by
  by_cases hne : location = []
  · rw [hne]
    rfl
  · exact h.parent _ ((h.mem_entries_iff hne).2 hentry)

/-- Every location above an entry is a directory. -/
theorem directory_of_append (h : tree.Lawful) {below : Location} (hbelow : below ≠ [])
    (hentry : tree.entryAt? (location ++ below) = some entry) :
    tree.entryAt? location = some .directory := by
  induction below using List.reverseRecOn generalizing entry with
  | nil => exact absurd rfl hbelow
  | append_singleton below name ih =>
      have hparent := h.parent_of_entry hentry
      rw [← List.append_assoc, List.dropLast_concat] at hparent
      by_cases hnil : below = []
      · simpa [hnil] using hparent
      · exact ih hnil hparent

/-- An entry with a proper name can be put into a directory, but a file in the place of a directory
cannot. -/
theorem put (h : tree.Lawful) (hne : location ≠ []) (hnames : ∀ name ∈ location, IsFileName name)
    (hparent : tree.entryAt? location.dropLast = some .directory)
    (hkind : tree.entryAt? location = some .directory → entry = .directory) :
    (tree.put location entry).Lawful := by
  have hmem : ∀ e ∈ (tree.put location entry).entries,
      e = (location, entry) ∨ (e ∈ tree.entries ∧ e.1 ≠ location) := by
    intro e he
    simpa [FileTree.put] using he
  have hdirectory : ∀ place, tree.entryAt? place = some .directory →
      (tree.put location entry).entryAt? place = some .directory := by
    intro place hplace
    by_cases heq : place = location
    · subst heq
      rw [entryAt?_put_self hne, hkind hplace]
    · rw [entryAt?_put_of_ne heq, hplace]
  constructor
  · rw [FileTree.put, List.map_cons, List.nodup_cons]
    refine ⟨?_, h.nodup.sublist (List.filter_sublist.map _)⟩
    intro hlisted
    obtain ⟨e, he, heq⟩ := List.mem_map.1 hlisted
    simp [heq] at he
  · intro e he
    rcases hmem e he with rfl | ⟨hold, -⟩
    · exact hnames
    · exact h.isFileName e hold
  · intro e he
    rcases hmem e he with rfl | ⟨hold, -⟩
    · exact hne
    · exact h.ne_nil e hold
  · intro e he
    rcases hmem e he with rfl | ⟨hold, -⟩
    · exact hdirectory _ hparent
    · exact hdirectory _ (h.parent e hold)

end Lawful

end FileTree

end StructMatch
