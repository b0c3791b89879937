import StructMatch.Batch.Run
import StructMatch.Proofs.Batch.Scan
import StructMatch.Proofs.FileTree.Replacement

/-!
# Discoveries

A discovery puts together the scans of several directories, `discover_eq_ok_iff`.  Each type that it
finds is declared in a file that a walk meets, `declares_of_mem_discover`.
-/

namespace StructMatch

open Source FileTree

theorem map_eq_ok_iff {ε α β : Type} {f : α → β} {result : Except ε α} {b : β} :
    result.map f = .ok b ↔ ∃ a, result = .ok a ∧ f a = b := by
  cases result <;> simp [Except.map]

/-- Whether a file begins with the provenance of a generated one. -/
def Content.isGenerated : Content → Bool
  | .text source => (Provenance.read? source).isSome
  | .bytes _ => false

/-- A scan finds nothing in a generated file. -/
theorem scanFile_of_isGenerated {content : Content} (h : content.isGenerated = true) (root : Path)
    (base : ModulePath) (way : Location) : (scanFile root base way content).result = [] := by
  rw [List.eq_nil_iff_forall_not_mem]
  intro type htype
  obtain ⟨text, -, rfl, hread, -⟩ := mem_scanFile.1 htype
  simp [Content.isGenerated, hread] at h

/-! ## Where types are declared -/

/-- Whether a scan of a directory comes upon a type in a file below it. -/
structure Declares (tree : FileTree) (cwd : Location) (root : Path) (way : Location)
    (text : String) (items : List Item) (type : StructType) : Prop where
  isDirectory : tree.isDirectory cwd root = true
  isScanned : isScanned way = true
  entry : tree.entryAt? (root.location cwd ++ way) = some (.file (.text text))
  unmarked : Provenance.read? text = none
  parsed : readFile? text = some items
  declared : type ∈ typesOfItems .root (pathBelow root way) way items

namespace Declares

variable {tree tree' : FileTree} {cwd : Location} {root : Path} {way : Location} {text : String}
  {items : List Item} {type : StructType}

theorem isFileName_way (h : Declares tree cwd root way text items type) (hlawful : tree.Lawful) :
    ∀ name ∈ way, IsFileName name := by
  intro name hname
  exact hlawful.isFileName_of_entry h.entry name (List.mem_append_right _ hname)

theorem isIdentifier (h : Declares tree cwd root way text items type) :
    Text.isIdentifier type.name.toList = true :=
  isIdentifier_of_mem_typesOfItems h.declared

theorem isFileName_segments (h : Declares tree cwd root way text items type)
    (hlawful : tree.Lawful) : ∀ segment ∈ type.modulePath.segments, IsFileName segment :=
  isFileName_of_mem_typesOfItems (by simp [ModulePath.root]) (h.isFileName_way hlawful)
    h.isScanned h.declared

/-- The file of a type is the one in which the scan came upon it. -/
theorem declaration (h : Declares tree cwd root way text items type) :
    ∃ modules, type.declaration? = some ⟨pathBelow root way, modules⟩ := by
  have htype := h.declared
  rw [typesOfItems_eq] at htype
  obtain ⟨placed, -, rfl⟩ := List.mem_map.1 htype
  exact ⟨placed.modulePath, rfl⟩

theorem readText (h : Declares tree cwd root way text items type) (hlawful : tree.Lawful) :
    tree.readText cwd (pathBelow root way) = .ok text :=
  hlawful.readText_pathBelow h.isDirectory (ne_nil_of_isScanned h.isScanned) h.entry

end Declares

/-! ## What a discovery finds -/

namespace BatchSettings

variable (settings : BatchSettings) {tree tree' : FileTree} {cwd : Location}
  {types : List StructType} {type : StructType}

/-- The types that a scan of one directory finds. -/
def typesBelow (tree : FileTree) (cwd : Location) (root : Path) : List StructType :=
  (scanFiles root (.parse "crate") settings.effectivePackages (tree.walk cwd root)).result

theorem scanAll_cons_of_isDirectory {root : Path} (hroot : tree.isDirectory cwd root = true)
    (roots : List Path) : (settings.scanAll tree cwd (root :: roots)).result =
      (settings.scanAll tree cwd roots).result.map (settings.typesBelow tree cwd root ++ ·) := by
  simp only [scanAll, scanDirectory, hroot, if_true]
  rfl

theorem scanAll_cons_of_not_isDirectory {root : Path} (hroot : ¬ tree.isDirectory cwd root = true)
    (roots : List Path) :
    (settings.scanAll tree cwd (root :: roots)).result = .error (.notADirectory root) := by
  simp only [scanAll, scanDirectory, hroot]
  rfl

theorem scanAll_eq_ok_iff (roots : List Path) :
    (settings.scanAll tree cwd roots).result = .ok types ↔
      (∀ root ∈ roots, tree.isDirectory cwd root = true) ∧
        types = roots.flatMap (settings.typesBelow tree cwd) := by
  induction roots generalizing types with
  | nil =>
      have hnil : (settings.scanAll tree cwd []).result = .ok [] := rfl
      rw [hnil, Except.ok.injEq, List.flatMap_nil, eq_comm]
      simp
  | cons root roots ih =>
      by_cases hroot : tree.isDirectory cwd root = true
      · rw [settings.scanAll_cons_of_isDirectory hroot, List.forall_mem_cons, List.flatMap_cons]
        simp only [hroot, true_and]
        constructor
        · intro hmap
          obtain ⟨others, hothers, rfl⟩ := map_eq_ok_iff.1 hmap
          obtain ⟨hroots, rfl⟩ := ih.1 hothers
          exact ⟨hroots, rfl⟩
        · rintro ⟨hroots, rfl⟩
          rw [ih.2 ⟨hroots, rfl⟩]
          rfl
      · simp [settings.scanAll_cons_of_not_isDirectory hroot, hroot]

theorem scanAll_error {roots : List Path} {e : BatchError}
    (h : (settings.scanAll tree cwd roots).result = .error e) :
    ∃ root ∈ roots, e = .notADirectory root := by
  induction roots with
  | nil => exact absurd h (by simp [scanAll])
  | cons root roots ih =>
      by_cases hroot : tree.isDirectory cwd root = true
      · rw [settings.scanAll_cons_of_isDirectory hroot] at h
        cases hothers : (settings.scanAll tree cwd roots).result with
        | ok types =>
            rw [hothers] at h
            exact absurd h (by simp [Except.map])
        | error other =>
            rw [hothers] at h
            obtain ⟨found, hfound, he⟩ := ih (hothers.trans h)
            exact ⟨found, List.mem_cons_of_mem _ hfound, he⟩
      · rw [settings.scanAll_cons_of_not_isDirectory hroot] at h
        exact ⟨root, List.mem_cons_self, (Except.error.inj h).symm⟩

/-- A discovery finds the types of all directories, each full path once and in order. -/
theorem discover_eq_ok_iff : (settings.discover tree cwd).result = .ok types ↔
    (∀ root ∈ settings.effectiveScanPaths, tree.isDirectory cwd root = true) ∧
      types = sortedByName (settings.effectiveScanPaths.flatMap
        (settings.typesBelow tree cwd)) := by
  have hmap : (settings.discover tree cwd).result =
      (settings.scanAll tree cwd settings.effectiveScanPaths).result.map sortedByName := rfl
  rw [hmap, map_eq_ok_iff]
  constructor
  · rintro ⟨found, hfound, rfl⟩
    obtain ⟨hroots, rfl⟩ := (settings.scanAll_eq_ok_iff _).1 hfound
    exact ⟨hroots, rfl⟩
  · rintro ⟨hroots, rfl⟩
    exact ⟨_, (settings.scanAll_eq_ok_iff _).2 ⟨hroots, rfl⟩, rfl⟩

/-- A discovery fails only at a directory that is none. -/
theorem discover_error {e : BatchError} (h : (settings.discover tree cwd).result = .error e) :
    ∃ root ∈ settings.effectiveScanPaths, e = .notADirectory root := by
  have hmap : (settings.discover tree cwd).result =
      (settings.scanAll tree cwd settings.effectiveScanPaths).result.map sortedByName := rfl
  cases hscan : (settings.scanAll tree cwd settings.effectiveScanPaths).result with
  | ok types =>
      rw [hmap, hscan] at h
      exact absurd h (by simp [Except.map])
  | error other =>
      rw [hmap, hscan] at h
      exact settings.scanAll_error (hscan.trans h)

/-- What one directory declares is what a discovery of it finds, if it comes upon the types in the
order of their full paths, no two of which are the same. -/
theorem discover_of_pairwise {root : Path} (hroots : settings.effectiveScanPaths = [root])
    (hroot : tree.isDirectory cwd root = true)
    (hfound : (((tree.walk cwd root).filter fun file => isScanned file.1).flatMap fun file =>
      (scanFile root (.parse "crate") file.1 file.2).result).filter
        (inPackages settings.effectivePackages) = types)
    (hsorted : types.Pairwise fun a b => a.qualifiedName < b.qualifiedName) :
    (settings.discover tree cwd).result = .ok types := by
  refine settings.discover_eq_ok_iff.2 ⟨by simpa [hroots] using hroot, ?_⟩
  rw [hroots, List.flatMap_singleton, typesBelow, scanFiles_result, hfound,
    sortedByName_of_pairwise hsorted, sortedByName_of_pairwise hsorted]

/-- The types of a discovery come in the order of their full paths, no two of which are the same. -/
theorem pairwise_discover (h : (settings.discover tree cwd).result = .ok types) :
    types.Pairwise fun a b => a.qualifiedName < b.qualifiedName := by
  obtain ⟨-, rfl⟩ := settings.discover_eq_ok_iff.1 h
  exact pairwise_sortedByName _

/-- No two types of a discovery have the same full path. -/
theorem eq_of_mem_discover (h : (settings.discover tree cwd).result = .ok types) {a b : StructType}
    (ha : a ∈ types) (hb : b ∈ types) (hname : a.qualifiedName = b.qualifiedName) : a = b := by
  obtain ⟨-, rfl⟩ := settings.discover_eq_ok_iff.1 h
  exact eq_of_mem_sortedByName ha hb hname

theorem mem_typesBelow (hlawful : tree.Lawful) {root : Path}
    (hroot : tree.isDirectory cwd root = true) (h : type ∈ settings.typesBelow tree cwd root) :
    ∃ way text items, Declares tree cwd root way text items type := by
  obtain ⟨way, text, items, hfile, hscanned, hread, hitems, htype⟩ := mem_scanFiles h
  exact ⟨way, text, items, hroot, hscanned, ((hlawful.mem_walk hroot).1 hfile).2, hread, hitems,
    htype⟩

/-- Every type of a discovery is declared in a file below one of the directories. -/
theorem declares_of_mem_discover (hlawful : tree.Lawful)
    (h : (settings.discover tree cwd).result = .ok types) (htype : type ∈ types) :
    ∃ root ∈ settings.effectiveScanPaths, ∃ way text items,
      Declares tree cwd root way text items type := by
  obtain ⟨hroots, rfl⟩ := settings.discover_eq_ok_iff.1 h
  obtain ⟨root, hroot, hbelow⟩ := List.mem_flatMap.1 (mem_of_mem_sortedByName htype)
  exact ⟨root, hroot, settings.mem_typesBelow hlawful (hroots root hroot) hbelow⟩

/-- The types of a discovery are named by identifiers. -/
theorem isIdentifier_of_mem_discover (hlawful : tree.Lawful)
    (h : (settings.discover tree cwd).result = .ok types) (htype : type ∈ types) :
    Text.isIdentifier type.name.toList = true := by
  obtain ⟨root, -, way, text, items, hdeclares⟩ :=
    settings.declares_of_mem_discover hlawful h htype
  exact hdeclares.isIdentifier

end BatchSettings

end StructMatch
