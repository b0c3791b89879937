import StructMatch.Proofs.Batch.Discovery
import StructMatch.Proofs.Text.ByteOrder

/-!
# What a scan reports

Which types a scan finds is told here without the scan: by the structs that the items of a file
declare, `DeclaresStruct`, and by the files that lie below the directory, `FileDeclares`.  A scan
reports exactly the full paths of these types, each once and in the order of their bytes, and a
discovery reports for each full path what the scan of the earliest directory that has it reports,
`discovery_exact`.
-/

namespace StructMatch

open Source FileTree

/-! ## The structs of a module -/

/-- Whether items declare a struct without parameters inside the given inline modules.  Neither the
struct nor one of the modules is for tests only. -/
inductive DeclaresStruct : List Item → List String → String → Prop
  | struct {items : List Item} {item : StructItem} (hmem : .struct item ∈ items)
      (hgeneric : item.isGeneric = false) (htest : item.isTestOnly = false) :
      DeclaresStruct items [] item.name.plain
  | module {items inner : List Item} {module : Text.Word} {modules : List String} {name : String}
      (hmem : .module (.mk module false (some inner)) ∈ items)
      (h : DeclaresStruct inner modules name) :
      DeclaresStruct items (module.plain :: modules) name

theorem mem_placedStructs {items : List Item} {placed : PlacedStruct} :
    placed ∈ placedStructs items ↔ ∃ item ∈ items, placed ∈ placedIn item := by
  induction items with
  | nil => simp [placedStructs]
  | cons item items ih => simp [placedStructs, ih]

theorem PlacedStruct.isReported_iff {placed : PlacedStruct} : placed.isReported = true ↔
    placed.inTests = false ∧ placed.item.isGeneric = false ∧ placed.item.isTestOnly = false := by
  simp [PlacedStruct.isReported, and_assoc]

/-- A struct in its place that is reported is declared there. -/
theorem DeclaresStruct.of_mem_placedStructs {items : List Item} {placed : PlacedStruct}
    (hmem : placed ∈ placedStructs items) (hreported : placed.isReported = true) :
    DeclaresStruct items placed.modulePath placed.item.name.plain := by
  -- by induction on the modules around the struct, the outermost of which is an item
  obtain ⟨modules, inTests, struct⟩ := placed
  induction modules generalizing items inTests with
  | nil =>
      obtain ⟨item, hitem, hplaced⟩ := mem_placedStructs.1 hmem
      cases item with
      | struct other =>
          obtain ⟨-, -, rfl⟩ := PlacedStruct.mk.inj (List.mem_singleton.1 hplaced)
          obtain ⟨-, hgeneric, htest⟩ := PlacedStruct.isReported_iff.1 hreported
          exact .struct hitem hgeneric htest
      | module module =>
          obtain ⟨name, isTestOnly, content⟩ := module
          cases content <;> simp [placedIn, PlacedStruct.within] at hplaced
      | other => simp [placedIn] at hplaced
  | cons module modules ih =>
      obtain ⟨item, hitem, hplaced⟩ := mem_placedStructs.1 hmem
      cases item with
      | struct other => simp [placedIn] at hplaced
      | module outer =>
          obtain ⟨name, isTestOnly, content⟩ := outer
          cases content with
          | none => simp [placedIn] at hplaced
          | some inner =>
              obtain ⟨inside, hinside, heq⟩ := List.mem_map.1 hplaced
              obtain ⟨hmodules, htests, rfl⟩ := PlacedStruct.mk.inj heq
              obtain ⟨rfl, rfl⟩ := List.cons_eq_cons.1 hmodules
              obtain ⟨hnone, hstruct⟩ := PlacedStruct.isReported_iff.1 hreported
              rw [← htests, Bool.or_eq_false_iff] at hnone
              obtain ⟨rfl, hinner⟩ := hnone
              exact .module hitem (ih inside.inTests hinside
                (PlacedStruct.isReported_iff.2 ⟨hinner, hstruct⟩))
      | other => simp [placedIn] at hplaced

/-- A struct is declared where one that is reported has its place. -/
theorem declaresStruct_iff {items : List Item} {modules : List String} {name : String} :
    DeclaresStruct items modules name ↔ ∃ placed ∈ placedStructs items,
      placed.isReported = true ∧ placed.modulePath = modules ∧ placed.item.name.plain = name := by
  constructor
  · intro h
    induction h with
    | @struct items item hmem hgeneric htest =>
        refine ⟨⟨[], false, item⟩, mem_placedStructs.2 ⟨_, hmem, List.mem_singleton.2 rfl⟩, ?_, rfl,
          rfl⟩
        exact PlacedStruct.isReported_iff.2 ⟨rfl, hgeneric, htest⟩
    | @module items inner module modules name hmem _ ih =>
        obtain ⟨placed, hplaced, hreported, rfl, rfl⟩ := ih
        refine ⟨placed.within module false, mem_placedStructs.2 ⟨_, hmem, ?_⟩, hreported, rfl, rfl⟩
        exact List.mem_map_of_mem hplaced
  · rintro ⟨placed, hplaced, hreported, rfl, rfl⟩
    exact .of_mem_placedStructs hplaced hreported

/-! ## The types of a source file -/

theorem splitExtensionGo_append {before after : List Char} (h : '.' ∉ after) :
    splitExtension.go (before ++ '.' :: after) = some (before, after) := by
  have hnone {cs : List Char} (hcs : '.' ∉ cs) : splitExtension.go cs = none := by
    induction cs with
    | nil => rfl
    | cons c cs ih =>
        rw [List.mem_cons, not_or] at hcs
        rw [splitExtension.go, ih hcs.2, if_neg (Ne.symm hcs.1)]
  induction before with
  | nil => rw [List.nil_append, splitExtension.go, hnone h, if_pos rfl]
  | cons c before ih => rw [List.cons_append, splitExtension.go, ih]

theorem splitExtension_sourceName {stem : String} (h : stem.toList ≠ []) :
    splitExtension (stem ++ ".rs") = (stem, some "rs") := by
  have hgo : splitExtension.go (stem ++ ".rs").toList = some (stem.toList, ['r', 's']) := by
    rw [String.toList_append]
    exact splitExtensionGo_append (by decide)
  obtain ⟨c, cs, hcs⟩ := List.exists_cons_of_ne_nil h
  rw [splitExtension, hgo, hcs]
  simp only [← hcs, String.ofList_toList]

/-- A name that is not hidden is that of a source file if it ends in the extension of one. -/
theorem isSourceName_iff {name : String} (hhidden : name.toList.head? ≠ some '.') :
    isSourceName name = true ↔ ∃ stem, name = stem ++ ".rs" := by
  constructor
  · intro h
    obtain ⟨-, heq⟩ := splitExtension_eq (of_decide_eq_true h)
    exact ⟨_, String.toList_injective (by rw [heq, String.toList_append]; rfl)⟩
  · rintro ⟨stem, rfl⟩
    refine decide_eq_true ?_
    rw [splitExtension_sourceName]
    intro hnil
    rw [String.toList_append, hnil] at hhidden
    exact hhidden rfl

/-- Whether a source file declares a type.  The file is given by its way below the directory of the
scan, on which there is no hidden name and no directory `target`; it can be parsed and was not
generated.  The module of the type is made of the directories, the file, unless its name stands for
its directory, and the inline modules around the struct. -/
def FileDeclares (root : Path) (base : ModulePath) (way : Location) (text : String)
    (type : StructType) : Prop :=
  ∃ dirs stem items modules,
    way = dirs ++ [stem ++ ".rs"] ∧ (∀ name ∈ way, name.toList.head? ≠ some '.') ∧
    "target" ∉ dirs ∧ Provenance.read? text = none ∧ readFile? text = some items ∧
    DeclaresStruct items modules type.name ∧
    type.modulePath.segments =
      base.segments ++ dirs ++ (if stem ∈ ["mod", "lib", "main"] then [] else [stem]) ++ modules ∧
    type.declaration? = some ⟨pathBelow root way, modules⟩

theorem segments_moduleOfFile (base : ModulePath) (dirs : Location) {stem : String}
    (hstem : stem.toList ≠ []) : (moduleOfFile base (dirs ++ [stem ++ ".rs"])).segments =
      base.segments ++ dirs ++ if stem ∈ ["mod", "lib", "main"] then [] else [stem] := by
  rw [moduleOfFile, segments_foldl_child, List.getLast?_concat, List.dropLast_concat,
    Option.getD_some, splitExtension_sourceName hstem, List.append_assoc]
  simp only [directoryFileNames, List.contains_eq_mem, decide_eq_true_eq]
  split <;> simp

/-- What a scan finds in a file that it takes up is what the file declares. -/
theorem fileDeclares_iff {root : Path} {base : ModulePath} {way : Location} {text : String}
    {type : StructType} : FileDeclares root base way text type ↔
      isScanned way = true ∧ type ∈ (scanFile root base way (.text text)).result := by
  constructor
  · rintro ⟨dirs, stem, items, modules, rfl, hhidden, htarget, horigin, hitems, hstruct, hmodule,
      hplace⟩
    have hstem : stem.toList ≠ [] := by
      intro hnil
      refine hhidden (stem ++ ".rs") (by simp) ?_
      rw [String.toList_append, hnil]
      rfl
    constructor
    · refine isScanned_iff.2 ⟨hhidden, ?_, stem ++ ".rs", List.getLast?_concat, ?_⟩
      · rwa [List.dropLast_concat]
      · exact (isSourceName_iff (hhidden _ (by simp))).2 ⟨stem, rfl⟩
    · refine mem_scanFile.2 ⟨text, items, rfl, horigin, hitems, ?_⟩
      obtain ⟨placed, hplaced, hreported, rfl, hname⟩ := declaresStruct_iff.1 hstruct
      rw [typesOfItems_eq]
      refine List.mem_map.2 ⟨placed, List.mem_filter.2 ⟨hplaced, hreported⟩, ?_⟩
      obtain ⟨name, ⟨segments⟩, declaration⟩ := type
      obtain rfl : placed.item.name.plain = name := hname
      obtain rfl : declaration = _ := hplace
      obtain rfl : segments = _ := hmodule
      have hsegments := segments_foldl_child (moduleOfFile base (dirs ++ [stem ++ ".rs"]))
        placed.modulePath
      rw [segments_moduleOfFile base dirs hstem] at hsegments
      rw [PlacedStruct.type, StructType.mk.injEq]
      exact ⟨rfl, congrArg ModulePath.mk hsegments, rfl⟩
  · rintro ⟨hscanned, htype⟩
    obtain ⟨hhidden, htarget, name, hlast, hsource⟩ := isScanned_iff.1 hscanned
    obtain ⟨_, items, hcontent, horigin, hitems, hdeclared⟩ := mem_scanFile.1 htype
    obtain rfl := Content.text.inj hcontent
    obtain ⟨stem, rfl⟩ := (isSourceName_iff (hhidden _ (List.mem_of_getLast? hlast))).1 hsource
    obtain ⟨dirs, rfl⟩ : ∃ dirs, way = dirs ++ [stem ++ ".rs"] :=
      ⟨way.dropLast, (List.dropLast_append_getLast? _ hlast).symm⟩
    rw [typesOfItems_eq] at hdeclared
    obtain ⟨placed, hplaced, rfl⟩ := List.mem_map.1 hdeclared
    obtain ⟨hmem, hreported⟩ := List.mem_filter.1 hplaced
    have hstem : stem.toList ≠ [] := by
      intro hnil
      refine hhidden (stem ++ ".rs") (by simp) ?_
      rw [String.toList_append, hnil]
      rfl
    refine ⟨dirs, stem, items, placed.modulePath, rfl, hhidden, ?_, horigin, hitems,
      .of_mem_placedStructs hmem hreported, ?_, rfl⟩
    · rwa [List.dropLast_concat] at htarget
    · rw [PlacedStruct.type, segments_foldl_child, segments_moduleOfFile base dirs hstem]

/-! ## The first type of each full path -/

section First

variable {types : List StructType} {type : StructType}

theorem mem_firstByName_iff : type ∈ firstByName types ↔
    types.find? (fun other => decide (other.qualifiedName = type.qualifiedName)) = some type := by
  induction types with
  | nil => simp [firstByName]
  | cons first types ih =>
      rw [firstByName, List.mem_cons, List.mem_filter, ih, List.find?_cons]
      by_cases h : first.qualifiedName = type.qualifiedName
      · simp [h, eq_comm]
      · have hne : type ≠ first := fun heq => h (by rw [heq])
        simp [h, hne, Ne.symm h]

/-- Of several lists, the first one that has a full path gives the type of it. -/
theorem mem_firstByName_flatMap {α : Type} {f : α → List StructType} {as : List α} :
    type ∈ firstByName (as.flatMap f) ↔ ∃ before a after, as = before ++ a :: after ∧
      type ∈ firstByName (f a) ∧
      ∀ earlier ∈ before, ∀ other ∈ f earlier, other.qualifiedName ≠ type.qualifiedName := by
  simp only [mem_firstByName_iff, List.find?_flatMap, List.findSome?_eq_some_iff,
    List.find?_eq_none, decide_eq_true_eq]

/-- No full path is lost. -/
theorem exists_mem_sortedByName {name : String} :
    (∃ type ∈ sortedByName types, type.qualifiedName = name) ↔
      ∃ type ∈ types, type.qualifiedName = name := by
  constructor
  · rintro ⟨type, htype, hname⟩
    exact ⟨type, mem_of_mem_sortedByName htype, hname⟩
  · rintro ⟨type, htype, rfl⟩
    cases hfirst : types.find? fun other => decide (other.qualifiedName = type.qualifiedName) with
    | none => exact absurd (decide_eq_true rfl) (List.find?_eq_none.1 hfirst type htype)
    | some first =>
        have hname : first.qualifiedName = type.qualifiedName := by
          simpa using List.find?_some hfirst
        refine ⟨first, mem_sortedByName.2 (mem_firstByName_iff.2 ?_), hname⟩
        rw [hname, hfirst]

theorem mem_firstByName_sortedByName :
    type ∈ firstByName (sortedByName types) ↔ type ∈ sortedByName types := by
  rw [← mem_sortedByName, sortedByName_of_pairwise (pairwise_sortedByName types)]

end First

/-! ## Scans and discoveries -/

/-- Whether the module of a type begins with the segments of one of the packages.  A blank name is
no package. -/
def LiesInPackages (packages : List String) (type : StructType) : Prop :=
  ∃ package ∈ packages, Text.trim package.toList ≠ [] ∧
    (ModulePath.parse package).segments <+: type.modulePath.segments

theorem inPackages_iff {packages : List String} {type : StructType} :
    inPackages packages type = true ↔ LiesInPackages packages type := by
  simp [inPackages, packageRoots, LiesInPackages, ModulePath.startsWith]

/-- The types of a file that a scan chooses from. -/
def selectedTypes (root : Path) (base : ModulePath) (packages : List String)
    (file : Location × Content) : List StructType :=
  if isScanned file.1 then
    (scanFile root base file.1 file.2).result.filter (inPackages packages)
  else []

/-- A scan takes the first type of each full path among those of all files. -/
theorem scanFiles_eq_sortedByName (root : Path) (base : ModulePath) (packages : List String)
    (files : List (Location × Content)) :
    (scanFiles root base packages files).result =
      sortedByName (files.flatMap (selectedTypes root base packages)) := by
  rw [scanFiles_result, List.filter_flatMap]
  congr 1
  induction files with
  | nil => rfl
  | cons file files ih =>
      rw [List.flatMap_cons, ← ih, List.filter_cons, selectedTypes]
      split <;> simp

theorem mem_selectedTypes {root : Path} {base : ModulePath} {packages : List String}
    {way : Location} {content : Content} {type : StructType} :
    type ∈ selectedTypes root base packages (way, content) ↔ LiesInPackages packages type ∧
      ∃ text, content = .text text ∧ FileDeclares root base way text type := by
  have htext : type ∈ (scanFile root base way content).result → ∃ text, content = .text text := by
    intro htype
    obtain ⟨text, -, htext, -⟩ := mem_scanFile.1 htype
    exact ⟨text, htext⟩
  rw [← inPackages_iff]
  constructor
  · intro htype
    unfold selectedTypes at htype
    split at htype
    · next hscanned =>
        obtain ⟨hfound, hpackages⟩ := List.mem_filter.1 htype
        obtain ⟨text, rfl⟩ := htext hfound
        exact ⟨hpackages, text, rfl, fileDeclares_iff.2 ⟨hscanned, hfound⟩⟩
    · exact absurd htype List.not_mem_nil
  · rintro ⟨hpackages, text, rfl, hdeclares⟩
    obtain ⟨hscanned, hfound⟩ := fileDeclares_iff.1 hdeclares
    rw [selectedTypes, if_pos hscanned]
    exact List.mem_filter.2 ⟨hfound, hpackages⟩

/-- Whether a type is one of those that a scan is to find: it lies in one of the packages, and some
file below the directory declares it. -/
def IsScannable (tree : FileTree) (cwd : Location) (root : Path) (crateModule : String)
    (packages : List String) (type : StructType) : Prop :=
  LiesInPackages packages type ∧ ∃ way text,
    tree.entryAt? (root.location cwd ++ way) = some (.file (.text text)) ∧
      FileDeclares root (.parse crateModule) way text type

/-- Whether a scan reports a type. -/
def ScanReports (tree : FileTree) (cwd : Location) (root : Path) (crateModule : String)
    (packages : List String) (type : StructType) : Prop :=
  ∃ scan, scanDirectory tree cwd root crateModule packages = some scan ∧ type ∈ scan.result

/-- Whether a list has each full path of some types once, in the order of the bytes, and all of it
are such types. -/
structure Represents (types : List StructType) (IsCandidate : StructType → Prop) : Prop where
  ordered : types.Pairwise fun a b =>
    Text.utf8Bytes a.qualifiedName < Text.utf8Bytes b.qualifiedName
  names : ∀ name, (∃ type ∈ types, type.qualifiedName = name) ↔
    ∃ type, IsCandidate type ∧ type.qualifiedName = name
  candidates : ∀ type ∈ types, IsCandidate type

/-- The first types of the full paths represent all types. -/
theorem represents_sortedByName {types : List StructType} {IsCandidate : StructType → Prop}
    (h : ∀ type, type ∈ types ↔ IsCandidate type) :
    Represents (sortedByName types) IsCandidate where
  ordered := (pairwise_sortedByName types).imp fun hlt => (Text.lt_iff_utf8Bytes_lt _ _).1 hlt
  names name := by simp only [exists_mem_sortedByName, h]
  candidates type htype := (h type).1 (mem_of_mem_sortedByName htype)

section Exact

variable {tree : FileTree} {cwd : Location} {root : Path} {crateModule : String}
  {packages : List String} {type : StructType}

/-- A scan chooses from the types that it is to find. -/
theorem mem_flatMap_selectedTypes (hlawful : tree.Lawful)
    (hroot : tree.isDirectory cwd root = true) :
    type ∈ (tree.walk cwd root).flatMap (selectedTypes root (.parse crateModule) packages) ↔
      IsScannable tree cwd root crateModule packages type := by
  rw [List.mem_flatMap]
  constructor
  · rintro ⟨⟨way, content⟩, hwalk, htype⟩
    obtain ⟨hpackages, text, rfl, hdeclares⟩ := mem_selectedTypes.1 htype
    exact ⟨hpackages, way, text, ((hlawful.mem_walk hroot).1 hwalk).2, hdeclares⟩
  · rintro ⟨hpackages, way, text, hentry, hdeclares⟩
    have hne := ne_nil_of_isScanned (fileDeclares_iff.1 hdeclares).1
    exact ⟨(way, .text text), (hlawful.mem_walk hroot).2 ⟨hne, hentry⟩,
      mem_selectedTypes.2 ⟨hpackages, text, rfl, hdeclares⟩⟩

/-- A scan of a directory represents the types that it is to find. -/
theorem represents_scanDirectory (hlawful : tree.Lawful)
    (hroot : tree.isDirectory cwd root = true) (crateModule : String) (packages : List String) :
    ∃ scan, scanDirectory tree cwd root crateModule packages = some scan ∧
      Represents scan.result (IsScannable tree cwd root crateModule packages) := by
  refine ⟨_, if_pos hroot, ?_⟩
  rw [scanFiles_eq_sortedByName]
  exact represents_sortedByName fun type => mem_flatMap_selectedTypes hlawful hroot

theorem mem_typesBelow_iff (settings : BatchSettings) (hroot : tree.isDirectory cwd root = true) :
    type ∈ settings.typesBelow tree cwd root ↔
      ScanReports tree cwd root "crate" settings.effectivePackages type := by
  rw [ScanReports, scanDirectory, if_pos hroot]
  simp [BatchSettings.typesBelow]

/-- A discovery represents what the scans of its directories report. -/
theorem represents_discover (settings : BatchSettings)
    (hroots : ∀ root ∈ settings.effectiveScanPaths, tree.isDirectory cwd root = true) :
    ∃ types, (settings.discover tree cwd).result = .ok types ∧
      Represents types (fun type => ∃ root ∈ settings.effectiveScanPaths,
        ScanReports tree cwd root "crate" settings.effectivePackages type) := by
  refine ⟨_, settings.discover_eq_ok_iff.2 ⟨hroots, rfl⟩, represents_sortedByName fun type => ?_⟩
  rw [List.mem_flatMap]
  exact exists_congr fun root => and_congr_right fun hroot =>
    mem_typesBelow_iff settings (hroots root hroot)

/-- A discovery takes each full path from the scan of the earliest directory that has it. -/
theorem mem_discover_iff (settings : BatchSettings) {types : List StructType}
    (h : (settings.discover tree cwd).result = .ok types) :
    type ∈ types ↔ ∃ before root after, settings.effectiveScanPaths = before ++ root :: after ∧
      ScanReports tree cwd root "crate" settings.effectivePackages type ∧
      ∀ earlier ∈ before, ∀ other,
        ScanReports tree cwd earlier "crate" settings.effectivePackages other →
          other.qualifiedName ≠ type.qualifiedName := by
  obtain ⟨hroots, rfl⟩ := settings.discover_eq_ok_iff.1 h
  rw [mem_sortedByName, mem_firstByName_flatMap]
  refine exists_congr fun before => exists_congr fun root => exists_congr fun after =>
    and_congr_right fun hpaths => ?_
  have hroot : tree.isDirectory cwd root = true := hroots root (by simp [hpaths])
  refine and_congr ?_ (forall₂_congr fun earlier hearlier => forall_congr' fun other => ?_)
  · rw [← mem_typesBelow_iff settings hroot, BatchSettings.typesBelow, scanFiles_result,
      mem_firstByName_sortedByName]
  · rw [mem_typesBelow_iff settings (hroots earlier (by simp [hpaths, hearlier]))]

/-- A scan reports exactly the full paths of the structs that are declared below its directory in
one of the packages, in the order of their bytes, and gives for each of them one of its
declarations.  A discovery does so for what the scans of its directories report, and the earliest
directory that has a full path decides. -/
theorem discovery_exact (hlawful : tree.Lawful) (cwd : Location) :
    (∀ root crateModule packages, tree.isDirectory cwd root = true →
      ∃ scan, scanDirectory tree cwd root crateModule packages = some scan ∧
        Represents scan.result (IsScannable tree cwd root crateModule packages)) ∧
    ∀ settings : BatchSettings,
      (∀ root ∈ settings.effectiveScanPaths, tree.isDirectory cwd root = true) →
      ∃ types, (settings.discover tree cwd).result = .ok types ∧
        Represents types (fun type => ∃ root ∈ settings.effectiveScanPaths,
          ScanReports tree cwd root "crate" settings.effectivePackages type) ∧
        ∀ type, type ∈ types ↔ ∃ before root after,
          settings.effectiveScanPaths = before ++ root :: after ∧
          ScanReports tree cwd root "crate" settings.effectivePackages type ∧
          ∀ earlier ∈ before, ∀ other,
            ScanReports tree cwd earlier "crate" settings.effectivePackages other →
              other.qualifiedName ≠ type.qualifiedName := by
  refine ⟨fun root crateModule packages hroot => ?_, fun settings hroots => ?_⟩
  · exact represents_scanDirectory hlawful hroot crateModule packages
  · obtain ⟨types, hdiscover, hrepresents⟩ := represents_discover settings hroots
    exact ⟨types, hdiscover, hrepresents, fun type => mem_discover_iff settings hdiscover⟩

end Exact

/-- A crate with structs in several places, some of which a scan passes over. -/
def layeredCrate : FileTree :=
  ⟨[(["src"], .directory),
    (["src", "lib.rs"], .file (.text
      ("pub struct Shared; pub struct Wrapper<T> \x7b value: T \x7d " ++
      "pub mod api \x7b pub struct r#Call; #[cfg(test)] mod tests \x7b struct Stub; \x7d \x7d"))),
    (["src", "main.rs"], .file (.text "fn main() \x7b struct Local; \x7d pub struct Shared;")),
    (["src", "models"], .directory),
    (["src", "models", "mod.rs"], .file (.text "pub struct Shared;")),
    (["src", "target"], .directory),
    (["src", "target", "out.rs"], .file (.text "pub struct Out;"))]⟩

/-- Settings with two directories, one of which lies inside the other. -/
def nestedScans : BatchSettings := { scanPaths := [⟨"src/models"⟩, ⟨"src"⟩] }

/-- What the source files of the crate declare, in the order of a walk. -/
theorem declared_layeredCrate :
    ((layeredCrate.walk [] ⟨"src"⟩).filter fun file => isScanned file.1).flatMap
      (fun file => (scanFile ⟨"src"⟩ (.parse "crate") file.1 file.2).result) =
    [⟨"Shared", .root, some ⟨⟨"src/lib.rs"⟩, []⟩⟩,
      ⟨"Call", ⟨["api"]⟩, some ⟨⟨"src/lib.rs"⟩, ["api"]⟩⟩,
      ⟨"Shared", .root, some ⟨⟨"src/main.rs"⟩, []⟩⟩,
      ⟨"Shared", ⟨["models"]⟩, some ⟨⟨"src/models/mod.rs"⟩, []⟩⟩] := by
  have hwalk : layeredCrate.walk [] ⟨"src"⟩ = layeredCrate.entries.filterMap (listed? ["src"]) :=
    walk_of_pairwise (by decide +kernel) (by decide +kernel)
  rw [hwalk]
  decide +kernel

/-- A scan of one module of the crate finds the struct in it by its plain name, and leaves out the
one in the module for tests inside.  With the inner directory scanned first, the struct in it stands
for the full path that the library and the program have too.  The struct with a parameter, the one
in a function and the one below `target` are not found. -/
theorem discovery_exact_layeredCrate : layeredCrate.Lawful ∧
    layeredCrate.isDirectory [] ⟨"src"⟩ = true ∧
    (∃ scan, scanDirectory layeredCrate [] ⟨"src"⟩ "crate" ["crate::api"] = some scan ∧
      Represents scan.result (IsScannable layeredCrate [] ⟨"src"⟩ "crate" ["crate::api"]) ∧
      (∃ type ∈ scan.result, type.qualifiedName = "crate::api::Call") ∧
      scan.result.map (·.qualifiedName) = ["crate::api::Call"]) ∧
    (∀ root ∈ nestedScans.effectiveScanPaths, layeredCrate.isDirectory [] root = true) ∧
    ∃ types, (nestedScans.discover layeredCrate []).result = .ok types ∧
      Represents types (fun type => ∃ root ∈ nestedScans.effectiveScanPaths,
        ScanReports layeredCrate [] root "crate" nestedScans.effectivePackages type) ∧
      ⟨"Shared", .root, some ⟨⟨"src/models/mod.rs"⟩, []⟩⟩ ∈ types ∧
      types.map (·.qualifiedName) =
        ["crate::Shared", "crate::api::Call", "crate::models::Shared"] := by
  have hlawful : layeredCrate.Lawful := by decide +kernel
  have hroot : layeredCrate.isDirectory [] ⟨"src"⟩ = true := by decide +kernel
  have hroots : ∀ root ∈ nestedScans.effectiveScanPaths,
      layeredCrate.isDirectory [] root = true := by decide +kernel
  have hinner : layeredCrate.walk [] ⟨"src/models"⟩ =
      layeredCrate.entries.filterMap (listed? ["src", "models"]) :=
    walk_of_pairwise (by decide +kernel) (by decide +kernel)
  have hcalls : (scanFiles ⟨"src"⟩ (.parse "crate") ["crate::api"]
      (layeredCrate.walk [] ⟨"src"⟩)).result.map (·.qualifiedName) = ["crate::api::Call"] := by
    rw [scanFiles_result, declared_layeredCrate, sortedByName_eq_firstByName (by decide +kernel)]
    decide +kernel
  have hmodels : nestedScans.typesBelow layeredCrate [] ⟨"src/models"⟩ =
      [⟨"Shared", .root, some ⟨⟨"src/models/mod.rs"⟩, []⟩⟩] := by
    rw [BatchSettings.typesBelow, hinner]
    decide +kernel
  -- the walk comes to the library before the program, so its struct is the first of the two
  have hsources : nestedScans.typesBelow layeredCrate [] ⟨"src"⟩ =
      [⟨"Shared", .root, some ⟨⟨"src/lib.rs"⟩, []⟩⟩,
        ⟨"Call", ⟨["api"]⟩, some ⟨⟨"src/lib.rs"⟩, ["api"]⟩⟩,
        ⟨"Shared", ⟨["models"]⟩, some ⟨⟨"src/models/mod.rs"⟩, []⟩⟩] := by
    rw [BatchSettings.typesBelow, scanFiles_result, declared_layeredCrate,
      sortedByName_eq_firstByName (by decide +kernel)]
    decide +kernel
  have hpaths : nestedScans.effectiveScanPaths = [⟨"src/models"⟩, ⟨"src"⟩] := rfl
  have hall : (sortedByName (nestedScans.effectiveScanPaths.flatMap
      (nestedScans.typesBelow layeredCrate []))).map (·.qualifiedName) =
        ["crate::Shared", "crate::api::Call", "crate::models::Shared"] := by
    rw [hpaths, List.flatMap_cons, List.flatMap_singleton, hmodels, hsources,
      sortedByName_eq_firstByName (by decide +kernel)]
    decide +kernel
  obtain ⟨hscans, hdiscoveries⟩ := discovery_exact hlawful []
  obtain ⟨scan, hscan, hscanned⟩ := hscans ⟨"src"⟩ "crate" ["crate::api"] hroot
  obtain ⟨types, hdiscover, hdiscovered, hmem⟩ := hdiscoveries nestedScans hroots
  refine ⟨hlawful, hroot, ⟨scan, hscan, hscanned, (hscanned.names _).2 ?_, ?_⟩, hroots, types,
    hdiscover, hdiscovered, (hmem _).2 ⟨[], ⟨"src/models"⟩, [⟨"src"⟩], rfl, ?_, by simp⟩, ?_⟩
  · refine ⟨⟨"Call", ⟨["api"]⟩, some ⟨⟨"src/lib.rs"⟩, ["api"]⟩⟩, ⟨?_, ["lib.rs"], _, rfl, ?_⟩, rfl⟩
    · exact inPackages_iff.1 (by decide +kernel)
    · exact fileDeclares_iff.2 ⟨by decide +kernel, by decide +kernel⟩
  · rw [scanDirectory, if_pos hroot] at hscan
    rw [← Option.some.inj hscan, hcalls]
  · exact ⟨_, if_pos (hroots _ (by decide +kernel)), by decide +kernel⟩
  · obtain ⟨-, rfl⟩ := nestedScans.discover_eq_ok_iff.1 hdiscover
    exact hall

end StructMatch
