import StructMatch.Proofs.Batch.Placement
import StructMatch.Proofs.FileTree.Walk

/-!
# Scans

What a scan finds, without the log lines that it leaves behind.  A scan passes over the files of a
walk and puts together what each of them declares, `scanFiles_result`, so that files which declare
nothing may come and go.  Every type that it finds is named by an identifier and lies in a module
whose segments are proper names, `isFileName_of_mem_typesOfItems`, and no two of them have the same
full path, `pairwise_sortedByName`.
-/

namespace StructMatch

open Source

/-! ## Paths below a directory -/

section Below

variable {root : Path} {way : Location} {cwd : Location}

theorem pathBelow_concat (root : Path) (way : Location) (name : String) :
    pathBelow root (way ++ [name]) = (pathBelow root way).join ⟨name⟩ := by
  rw [pathBelow, List.foldl_append]
  rfl

theorem components_pathBelow (root : Path) (h : ∀ name ∈ way, IsFileName name) :
    (pathBelow root way).components = root.components ++ way.map .name := by
  induction way using List.reverseRecOn with
  | nil => simp [pathBelow]
  | append_singleton way name ih =>
      rw [pathBelow_concat, Path.components_join _ (h name (by simp)),
        ih fun other hother => h other (by simp [hother]), List.map_append, List.append_assoc]
      rfl

/-- Different ways lead to different paths below a directory. -/
theorem pathBelow_inj {other : Location} (h : ∀ name ∈ way, IsFileName name)
    (h' : ∀ name ∈ other, IsFileName name) :
    pathBelow root way = pathBelow root other ↔ way = other := by
  refine ⟨fun heq => ?_, fun heq => by rw [heq]⟩
  have hcomponents := congrArg Path.components heq
  rw [components_pathBelow root h, components_pathBelow root h', List.append_cancel_left_eq]
    at hcomponents
  exact List.map_injective_iff.2 (fun _ _ => Component.name.inj) hcomponents

theorem location_pathBelow (root : Path) (cwd : Location) (h : ∀ name ∈ way, IsFileName name) :
    (pathBelow root way).location cwd = root.location cwd ++ way := by
  rw [Path.location, components_pathBelow root h, Location.along_append, Location.along_names]
  rfl

theorem endsInDirectory_pathBelow (root : Path) (hne : way ≠ [])
    (h : ∀ name ∈ way, IsFileName name) : (pathBelow root way).endsInDirectory = false := by
  obtain ⟨front, name, rfl⟩ := (List.eq_nil_or_concat' way).resolve_left hne
  rw [pathBelow_concat]
  exact Path.endsInDirectory_join _ (h name (by simp))

theorem text_pathBelow_ne_empty (root : Path) (hne : way ≠ [])
    (h : ∀ name ∈ way, IsFileName name) : (pathBelow root way).text ≠ "" := by
  intro htext
  have hcomponents := components_pathBelow root h
  rw [Path.components_of_text_empty htext] at hcomponents
  simp [hne] at hcomponents

/-- Below a directory, the path of a file leads to it. -/
theorem FileTree.Lawful.readText_pathBelow {tree : FileTree} (hlawful : tree.Lawful)
    (hroot : tree.isDirectory cwd root = true) (hne : way ≠ []) {text : String}
    (hentry : tree.entryAt? (root.location cwd ++ way) = some (.file (.text text))) :
    tree.readText cwd (pathBelow root way) = .ok text := by
  have hnames : ∀ name ∈ way, IsFileName name := fun name hname =>
    hlawful.isFileName_of_entry hentry name (List.mem_append_right _ hname)
  obtain ⟨-, location, hlocate, -⟩ := isDirectory_iff.1 hroot
  obtain rfl : location = root.location cwd := locate_eq_along hlocate
  refine readText_eq_ok_iff.2 ⟨text_pathBelow_ne_empty root hne hnames,
    endsInDirectory_pathBelow root hne hnames, _, ?_, hentry⟩
  rw [components_pathBelow root hnames]
  exact hlawful.locate_append_names hlocate hentry

/-- A walk meets the files below the directory that its path leads to. -/
theorem FileTree.Lawful.mem_walk {tree : FileTree} (hlawful : tree.Lawful)
    (hroot : tree.isDirectory cwd root = true) {content : Content} :
    (way, content) ∈ tree.walk cwd root ↔
      way ≠ [] ∧ tree.entryAt? (root.location cwd ++ way) = some (.file content) := by
  obtain ⟨-, location, hlocate, -⟩ := isDirectory_iff.1 hroot
  obtain rfl : location = root.location cwd := locate_eq_along hlocate
  rw [walk, hlocate]
  exact hlawful.mem_filesBelow

end Below

/-! ## The module of a file -/

theorem eq_of_splitExtensionGo {cs before after : List Char}
    (h : splitExtension.go cs = some (before, after)) : cs = before ++ '.' :: after := by
  induction cs generalizing before with
  | nil => exact absurd h (by simp [splitExtension.go])
  | cons c cs ih =>
      unfold splitExtension.go at h
      split at h
      · next front back hgo =>
          obtain ⟨rfl, rfl⟩ := Prod.mk.inj (Option.some.inj h)
          rw [ih hgo, List.cons_append]
      · split at h
        · next hdot =>
            obtain ⟨rfl, rfl⟩ := Prod.mk.inj (Option.some.inj h)
            rw [hdot, List.nil_append]
        · exact absurd h (by simp)

/-- A name with an extension goes on with it after its stem. -/
theorem splitExtension_eq {name extension : String} (h : (splitExtension name).2 = some extension) :
    (splitExtension name).1.toList ≠ [] ∧
      name.toList = (splitExtension name).1.toList ++ '.' :: extension.toList := by
  unfold splitExtension at h ⊢
  split
  · next c cs after hgo =>
      rw [hgo] at h
      obtain rfl := Option.some.inj h
      refine ⟨by simp, ?_⟩
      simpa using eq_of_splitExtensionGo hgo
  · next hgo =>
      split at h
      · next c cs after hgo' => exact absurd hgo' (hgo c cs after)
      · exact absurd h (by simp)

/-- The stem of a source file that is not hidden is a proper name. -/
theorem isFileName_stem {name : String} (hname : IsFileName name)
    (hhidden : name.toList.head? ≠ some '.') (hsource : isSourceName name = true) :
    IsFileName (splitExtension name).1 := by
  obtain ⟨hne, heq⟩ := splitExtension_eq (of_decide_eq_true hsource)
  -- a stem that is no proper name begins with a dot, and then so does the name
  have hhead : (splitExtension name).1.toList.head? ≠ some '.' := by
    intro hdot
    refine hhidden ?_
    rw [heq, List.head?_append, hdot]
    rfl
  constructor
  · exact hne
  · intro hmem
    refine hname.no_separator ?_
    rw [heq]
    exact List.mem_append_left _ hmem
  · intro hhere
    exact hhead (by rw [hhere]; rfl)
  · intro hup
    exact hhead (by rw [hup]; rfl)

theorem segments_foldl_child (path : ModulePath) (names : List String) :
    (names.foldl ModulePath.child path).segments = path.segments ++ names := by
  induction names generalizing path with
  | nil => simp
  | cons name names ih =>
      rw [List.foldl_cons, ih, ModulePath.child, List.append_assoc, List.singleton_append]

theorem isScanned_iff {way : Location} : isScanned way = true ↔
    (∀ name ∈ way, name.toList.head? ≠ some '.') ∧ "target" ∉ way.dropLast ∧
      ∃ name, way.getLast? = some name ∧ isSourceName name = true := by
  simp [isScanned, and_assoc, Option.any_eq_true]

theorem ne_nil_of_isScanned {way : Location} (h : isScanned way = true) : way ≠ [] := by
  rintro rfl
  exact absurd h (by decide)

/-- The segments of the module of a scanned file are proper names. -/
theorem isFileName_of_mem_moduleOfFile {base : ModulePath} {way : Location}
    (hbase : ∀ segment ∈ base.segments, IsFileName segment) (hway : ∀ name ∈ way, IsFileName name)
    (hscanned : isScanned way = true) :
    ∀ segment ∈ (moduleOfFile base way).segments, IsFileName segment := by
  obtain ⟨hhidden, -, name, hlast, hsource⟩ := isScanned_iff.1 hscanned
  have hmem : name ∈ way := List.mem_of_getLast? hlast
  have hstem := isFileName_stem (hway name hmem) (hhidden name hmem) hsource
  have hdirs : ∀ dir ∈ way.dropLast, IsFileName dir :=
    fun dir hdir => hway dir (List.dropLast_subset way hdir)
  intro segment hsegment
  rw [moduleOfFile, hlast, segments_foldl_child, List.mem_append] at hsegment
  rcases hsegment with hsegment | hsegment
  · exact hbase segment hsegment
  · split at hsegment
    · exact hdirs segment hsegment
    · rcases List.mem_append.1 hsegment with hdir | hlast
      · exact hdirs segment hdir
      · rw [List.mem_singleton.1 hlast]
        exact hstem

/-! ## The types of a file -/

/-- The type that a struct of a file declares. -/
def PlacedStruct.type (base : ModulePath) (file : Path) (way : Location) (placed : PlacedStruct) :
    StructType where
  name := placed.item.name.plain
  modulePath := placed.modulePath.foldl ModulePath.child (moduleOfFile base way)
  declaration? := some ⟨file, placed.modulePath⟩

/-- The types of a file are those of the structs in it that are reported. -/
theorem typesOfItems_eq (base : ModulePath) (file : Path) (way : Location) (items : List Item) :
    typesOfItems base file way items =
      ((placedStructs items).filter (·.isReported)).map (·.type base file way) := by
  rw [typesOfItems, itemsStructs_eq, List.map_map]
  rfl

/-- Types are named by identifiers. -/
theorem isIdentifier_of_mem_typesOfItems {base : ModulePath} {file : Path} {way : Location}
    {items : List Item} {type : StructType} (h : type ∈ typesOfItems base file way items) :
    Text.isIdentifier type.name.toList = true := by
  rw [typesOfItems_eq] at h
  obtain ⟨placed, -, rfl⟩ := List.mem_map.1 h
  exact placed.item.name.isWord

/-- The segments of the module of a type are proper names. -/
theorem isFileName_of_mem_typesOfItems {base : ModulePath} {file : Path} {way : Location}
    {items : List Item} {type : StructType}
    (hbase : ∀ segment ∈ base.segments, IsFileName segment) (hway : ∀ name ∈ way, IsFileName name)
    (hscanned : isScanned way = true) (h : type ∈ typesOfItems base file way items) :
    ∀ segment ∈ type.modulePath.segments, IsFileName segment := by
  rw [typesOfItems_eq] at h
  obtain ⟨placed, -, rfl⟩ := List.mem_map.1 h
  intro segment hsegment
  rw [PlacedStruct.type, segments_foldl_child, List.mem_append] at hsegment
  rcases hsegment with hsegment | hsegment
  · exact isFileName_of_mem_moduleOfFile hbase hway hscanned segment hsegment
  · obtain ⟨module, -, rfl⟩ := List.mem_map.1 hsegment
    exact isFileName_of_isIdentifier module.isWord

/-! ## The types of each full path -/

theorem mem_of_mem_firstByName {types : List StructType} {type : StructType}
    (h : type ∈ firstByName types) : type ∈ types := by
  induction types with
  | nil => exact h
  | cons first types ih =>
      rw [firstByName, List.mem_cons] at h
      rcases h with rfl | h
      · exact List.mem_cons_self
      · exact List.mem_cons_of_mem _ (ih (List.mem_of_mem_filter h))

theorem pairwise_firstByName (types : List StructType) :
    (firstByName types).Pairwise fun a b => a.qualifiedName ≠ b.qualifiedName := by
  induction types with
  | nil => exact List.Pairwise.nil
  | cons first types ih =>
      rw [firstByName, List.pairwise_cons]
      refine ⟨fun other hother => ?_, ih.filter _⟩
      exact (of_decide_eq_true (List.mem_filter.1 hother).2).symm

theorem mem_sortedByName {types : List StructType} {type : StructType} :
    type ∈ sortedByName types ↔ type ∈ firstByName types := List.mem_mergeSort

theorem mem_of_mem_sortedByName {types : List StructType} {type : StructType}
    (h : type ∈ sortedByName types) : type ∈ types :=
  mem_of_mem_firstByName (mem_sortedByName.1 h)

/-- Types come in the order of their full paths, no two of which are the same. -/
theorem pairwise_sortedByName (types : List StructType) :
    (sortedByName types).Pairwise fun a b => a.qualifiedName < b.qualifiedName := by
  -- the sort gives the order, and that no full path comes twice was so before
  have hle : (sortedByName types).Pairwise fun a b => a.qualifiedName ≤ b.qualifiedName := by
    refine (List.pairwise_mergeSort ?_ ?_ _).imp of_decide_eq_true
    · intro a b c hab hbc
      exact decide_eq_true (le_trans (of_decide_eq_true hab) (of_decide_eq_true hbc))
    · intro a b
      simpa using le_total a.qualifiedName b.qualifiedName
  have hne : (sortedByName types).Pairwise fun a b => a.qualifiedName ≠ b.qualifiedName :=
    (List.mergeSort_perm _ _).symm.pairwise (pairwise_firstByName types) fun h => h.symm
  exact hle.imp₂ (fun a b hab hne => lt_of_le_of_ne hab hne) hne

/-- The first types of the full paths stay as they are if they are in order already. -/
theorem sortedByName_eq_firstByName {types : List StructType}
    (h : (firstByName types).Pairwise fun a b => a.qualifiedName < b.qualifiedName) :
    sortedByName types = firstByName types :=
  List.mergeSort_of_pairwise (h.imp fun hlt => decide_eq_true (le_of_lt hlt))

/-- Types with different full paths that are in order already stay as they are. -/
theorem sortedByName_of_pairwise {types : List StructType}
    (h : types.Pairwise fun a b => a.qualifiedName < b.qualifiedName) :
    sortedByName types = types := by
  have hfirst : firstByName types = types := by
    induction types with
    | nil => rfl
    | cons type types ih =>
        rw [List.pairwise_cons] at h
        rw [firstByName, ih h.2, List.filter_eq_self.2]
        exact fun other hother => decide_eq_true (ne_of_gt (h.1 other hother))
  rw [sortedByName_eq_firstByName (by rwa [hfirst]), hfirst]

theorem pairwise_names_sortedByName (types : List StructType) :
    ((sortedByName types).map StructType.qualifiedName).Pairwise (· < ·) :=
  List.pairwise_map.2 (pairwise_sortedByName types)

theorem nodup_names_sortedByName (types : List StructType) :
    ((sortedByName types).map StructType.qualifiedName).Nodup :=
  (pairwise_names_sortedByName types).imp ne_of_lt

/-- The order of the types is that of their full paths, so it is enough to know which ones come
first. -/
theorem sortedByName_congr {types others : List StructType}
    (h : ∀ type, type ∈ firstByName types ↔ type ∈ firstByName others) :
    sortedByName types = sortedByName others := by
  have hperm : (sortedByName types).Perm (sortedByName others) := by
    refine (List.perm_ext_iff_of_nodup (nodup_names_sortedByName types).of_map
      (nodup_names_sortedByName others).of_map).2 fun type => ?_
    rw [mem_sortedByName, mem_sortedByName, h]
  exact hperm.eq_of_pairwise (fun a b _ _ hab hba => absurd hab (lt_asymm hba))
    (pairwise_sortedByName types) (pairwise_sortedByName others)

/-- No two types of a scan have the same full path. -/
theorem eq_of_mem_sortedByName {types : List StructType} {a b : StructType}
    (ha : a ∈ sortedByName types) (hb : b ∈ sortedByName types)
    (h : a.qualifiedName = b.qualifiedName) : a = b :=
  List.inj_on_of_nodup_map (nodup_names_sortedByName types) ha hb h

/-! ## The types of several files -/

namespace Logged

instance : LawfulMonad Logged := LawfulMonad.mk' Logged
  (fun a => by cases a; simp [Functor.map])
  (fun a f => by simp [bind, pure])
  (fun a f g => by simp [bind, List.append_assoc])

@[simp] theorem result_map {α β : Type} (f : α → β) (a : Logged α) :
    (f <$> a).result = f a.result := rfl

/-- The results of several computations are those of each of them. -/
theorem result_mapM {α β : Type} (f : α → Logged β) (as : List α) :
    (as.mapM f).result = as.map fun a => (f a).result := by
  induction as with
  | nil => rfl
  | cons a as ih =>
      rw [List.mapM_cons, result_bind, result_bind, ih]
      rfl

end Logged

/-- Whether a type lies in one of the packages. -/
def inPackages (packages : List String) (type : StructType) : Bool :=
  (packageRoots packages).any type.modulePath.startsWith

/-- A scan puts together what each source file declares. -/
theorem scanFiles_result (root : Path) (base : ModulePath) (packages : List String)
    (files : List (Location × Content)) :
    (scanFiles root base packages files).result =
      sortedByName (((files.filter fun file => isScanned file.1).flatMap fun file =>
        (scanFile root base file.1 file.2).result).filter (inPackages packages)) := by
  unfold scanFiles
  dsimp only
  split
  · next hempty =>
      have hroots : packageRoots packages = [] := by simpa using hempty
      have hnone (types : List StructType) : types.filter (inPackages packages) = [] := by
        rw [List.filter_eq_nil_iff]
        intro type _
        simp [inPackages, hroots]
      simp [hnone, sortedByName, firstByName]
  · simp only [Logged.result_bind, Logged.result_mapM, Logged.result_pure]
    rw [List.flatMap_def]
    rfl

/-- What a scan finds in a file. -/
theorem mem_scanFile {root : Path} {base : ModulePath} {way : Location} {content : Content}
    {type : StructType} : type ∈ (scanFile root base way content).result ↔
      ∃ text items, content = .text text ∧ Provenance.read? text = none ∧
        readFile? text = some items ∧ type ∈ typesOfItems base (pathBelow root way) way items := by
  unfold scanFile
  cases content with
  | bytes bytes => simp
  | text text =>
      cases horigin : Provenance.read? text with
      | some origin => simp [horigin]
      | none =>
          cases hitems : readFile? text with
          | none => simp [horigin, hitems]
          | some items => simp [horigin, hitems]

/-- Every type that a scan finds is declared in one of the files. -/
theorem mem_scanFiles {root : Path} {base : ModulePath} {packages : List String}
    {files : List (Location × Content)} {type : StructType}
    (h : type ∈ (scanFiles root base packages files).result) :
    ∃ way text items, (way, .text text) ∈ files ∧ isScanned way = true ∧
      Provenance.read? text = none ∧ readFile? text = some items ∧
      type ∈ typesOfItems base (pathBelow root way) way items := by
  rw [scanFiles_result] at h
  have hfound := List.mem_of_mem_filter (mem_of_mem_sortedByName h)
  obtain ⟨⟨way, content⟩, hfile, hscan⟩ := List.mem_flatMap.1 hfound
  obtain ⟨hmem, hscanned⟩ := List.mem_filter.1 hfile
  obtain ⟨text, items, rfl, hread, hitems, htype⟩ := mem_scanFile.1 hscan
  exact ⟨way, text, items, hmem, hscanned, hread, hitems, htype⟩

end StructMatch
