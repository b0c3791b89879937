import StructMatch.Proofs.Batch.Exactness
import StructMatch.Proofs.Batch.Introspection

/-!
# Structs for tests

A struct is for tests if it says so itself, if one of the modules that are written out around it
does, or if its file is the body of such a module that is declared in another file.  The
declarations of modules without a body are listed by `declaredModules`, and `LiesInTests` follows
them from file to file.

A scan leaves out the structs that are for tests by what is written around them.  It comes to the
other files by a walk through the directories, which gives them the modules that they are declared
as, `moduleOfFile_body`, but knows nothing of the declarations.  It takes each full path from the
first file that declares it, `mem_scanFiles_iff`.  So the structs of a scan are none for tests
exactly if the files that lie in tests declare only what files before them in the walk declare as
well, `scan_omits_tests_iff`.

Bodies are looked for where they are by default.  An attribute that names another file is not
followed.
-/

namespace StructMatch

open Source FileTree

/-! ## Modules with their bodies in other files -/

/-- A module that is declared without its body, with the modules that are written out around it. -/
structure ModuleDeclaration where
  modules : List String
  name : String
  /-- Whether the module or one of those around it exists in tests only. -/
  inTests : Bool
deriving DecidableEq

/-- The same declaration with one more module around it. -/
def ModuleDeclaration.within (name : String) (isTestOnly : Bool)
    (declaration : ModuleDeclaration) : ModuleDeclaration :=
  { declaration with
    modules := name :: declaration.modules
    inTests := isTestOnly || declaration.inTests }

mutual

/-- The modules that an item declares without their bodies. -/
def declaredIn : Item → List ModuleDeclaration
  | .module (.mk name isTestOnly content) =>
    match content with
    | none => [⟨[], name.plain, isTestOnly⟩]
    | some items => (declaredModules items).map (·.within name.plain isTestOnly)
  | .struct _ | .other => []

/-- The modules that several items declare without their bodies. -/
def declaredModules : List Item → List ModuleDeclaration
  | [] => []
  | item :: rest => declaredIn item ++ declaredModules rest

end

/-- The directory in which the bodies of the modules that a file declares are looked for. -/
def modulesHome (file : Location) : Location :=
  let stem := (splitExtension (file.getLast?.getD "")).1
  if directoryFileNames.contains stem then file.dropLast else file.dropLast ++ [stem]

/-- The files that the body of a module may be in. -/
def bodyFiles (home : Location) (name : String) : List Location :=
  [home ++ [name ++ ".rs"], home ++ [name, "mod.rs"]]

/-- Whether a source file declares a module of which another file is the body. -/
structure DeclaresFile (tree : FileTree) (file body : Location) (inTests : Bool) : Prop where
  isSource : file.getLast?.any isSourceName = true
  declared : ∃ text items declaration, tree.entryAt? file = some (.file (.text text)) ∧
    readFile? text = some items ∧ declaration ∈ declaredModules items ∧
    declaration.inTests = inTests ∧
    body ∈ bodyFiles (modulesHome file ++ declaration.modules) declaration.name

/-- Whether a file is the body of a module for tests, or of a module that such a file declares. -/
inductive LiesInTests (tree : FileTree) : Location → Prop
  | declared {file body : Location} (h : DeclaresFile tree file body true) : LiesInTests tree body
  | within {file body : Location} {inTests : Bool} (hfile : LiesInTests tree file)
      (h : DeclaresFile tree file body inTests) : LiesInTests tree body

/-- Whether a struct in a file is for tests. -/
def IsForTests (tree : FileTree) (file : Location) (placed : PlacedStruct) : Prop :=
  placed.item.isTestOnly = true ∨ placed.inTests = true ∨ LiesInTests tree file

/-! ## The modules that a walk gives to bodies -/

theorem moduleOfFile_eq (base : ModulePath) (way : Location) :
    moduleOfFile base way = (modulesHome way).foldl ModulePath.child base := rfl

/-- A module is at home below the module that declares it. -/
theorem modulesHome_body {home body : Location} {name : String} (hname : name.toList ≠ [])
    (hown : name ∉ directoryFileNames) (h : body ∈ bodyFiles home name) :
    modulesHome body = home ++ [name] := by
  simp only [bodyFiles, List.mem_cons, List.not_mem_nil, or_false] at h
  obtain rfl | rfl := h
  · rw [modulesHome, List.getLast?_concat, Option.getD_some, splitExtension_sourceName hname]
    simp [hown]
  · have hmod : splitExtension "mod.rs" = ("mod", some "rs") := by decide
    rw [modulesHome, ← List.singleton_append, ← List.append_assoc, List.getLast?_concat,
      Option.getD_some, hmod, List.dropLast_concat]
    exact if_pos (by decide)

/-- A walk gives to a body the module that it is declared as. -/
theorem moduleOfFile_body {base : ModulePath} {way body : Location}
    {declaration : ModuleDeclaration} (hname : declaration.name.toList ≠ [])
    (hown : declaration.name ∉ directoryFileNames)
    (h : body ∈ bodyFiles (modulesHome way ++ declaration.modules) declaration.name) :
    moduleOfFile base body =
      (declaration.modules.foldl ModulePath.child (moduleOfFile base way)).child
        declaration.name := by
  rw [moduleOfFile_eq, moduleOfFile_eq, modulesHome_body hname hown h, List.foldl_append,
    List.foldl_append]
  rfl

/-! ## The structs of a scan -/

variable {tree : FileTree} {cwd : Location} {root : Path} {crateModule : String}
  {packages : List String} {scan : Logged (List StructType)}

/-- A struct is recorded in the file that its type names. -/
theorem Finding.Records.way_eq {finding : Finding} {base : ModulePath} {type : StructType}
    {way : Location} {content : Content} {modules : List String}
    (hrecords : finding.Records tree cwd root base type) (hlawful : tree.Lawful)
    (hroot : tree.isDirectory cwd root = true) (hfile : (way, content) ∈ tree.walk cwd root)
    (hplace : type.declaration? = some ⟨pathBelow root way, modules⟩) : finding.way = way := by
  obtain ⟨-, hentry⟩ := (hlawful.mem_walk hroot).1 hrecords.walked
  obtain ⟨-, hotherEntry⟩ := (hlawful.mem_walk hroot).1 hfile
  have hnames : ∀ name ∈ finding.way, IsFileName name := fun name hname =>
    hlawful.isFileName_of_entry hentry name (List.mem_append_right _ hname)
  have hotherNames : ∀ name ∈ way, IsFileName name := fun name hname =>
    hlawful.isFileName_of_entry hotherEntry name (List.mem_append_right _ hname)
  rw [← hrecords.declares, PlacedStruct.type, Option.some_inj, Declaration.mk.injEq] at hplace
  exact (pathBelow_inj hnames hotherNames).1 hplace.1

/-- A scan reports no struct that is for tests by what is written around it, and then a struct that
it reports is for tests only if its file lies in tests. -/
theorem Finding.Records.isForTests_iff {finding : Finding} {base : ModulePath} {type : StructType}
    (hrecords : finding.Records tree cwd root base type) (file : Location) :
    IsForTests tree file finding.found ↔ LiesInTests tree file := by
  obtain ⟨hinTests, -, hitem⟩ := PlacedStruct.isReported_iff.1 hrecords.reported
  simp [IsForTests, hinTests, hitem]

/-- A type that a walked file declares is recorded from a struct in that file. -/
theorem FileDeclares.exists_records {base : ModulePath} {type : StructType} {way : Location}
    {text : String} (hdeclares : FileDeclares root base way text type) (hlawful : tree.Lawful)
    (hroot : tree.isDirectory cwd root = true) (hfile : (way, .text text) ∈ tree.walk cwd root) :
    (∃ finding : Finding, finding.Records tree cwd root base type) ∧
      ∀ finding : Finding, finding.Records tree cwd root base type → finding.way = way := by
  obtain ⟨-, hscanned⟩ := fileDeclares_iff.1 hdeclares
  obtain ⟨_, items, hcontent, -, hitems, htypes⟩ := mem_scanFile.1 hscanned
  obtain rfl := Content.text.inj hcontent
  obtain ⟨_, _, _, modules, -, -, -, -, -, -, -, hplace⟩ := hdeclares
  exact ⟨Finding.exists_records hfile hitems htypes, fun finding hrecords =>
    hrecords.way_eq hlawful hroot hfile hplace⟩

/-- Whether one of several files declares a type of a full path in one of the packages. -/
def FilesDeclare (root : Path) (base : ModulePath) (packages : List String)
    (files : List (Location × Content)) (name : String) : Prop :=
  ∃ way text type, (way, .text text) ∈ files ∧ LiesInPackages packages type ∧
    FileDeclares root base way text type ∧ type.qualifiedName = name

theorem filesDeclare_iff {base : ModulePath} {files : List (Location × Content)} {name : String} :
    FilesDeclare root base packages files name ↔
      ∃ file ∈ files, ∃ type ∈ selectedTypes root base packages file,
        type.qualifiedName = name := by
  constructor
  · rintro ⟨way, text, type, hfile, hpackages, hdeclares, hname⟩
    exact ⟨_, hfile, type, mem_selectedTypes.2 ⟨hpackages, text, rfl, hdeclares⟩, hname⟩
  · rintro ⟨⟨way, content⟩, hfile, type, htype, hname⟩
    obtain ⟨hpackages, text, rfl, hdeclares⟩ := mem_selectedTypes.1 htype
    exact ⟨way, text, type, hfile, hpackages, hdeclares, hname⟩

/-- A scan takes a type from the first file that declares its full path, and there the first one of
it. -/
theorem mem_scanFiles_iff {base : ModulePath} {files : List (Location × Content)}
    {type : StructType} : type ∈ (scanFiles root base packages files).result ↔
      ∃ before file after, files = before ++ file :: after ∧
        type ∈ firstByName (selectedTypes root base packages file) ∧
        ¬ FilesDeclare root base packages before type.qualifiedName := by
  rw [scanFiles_eq_sortedByName, mem_sortedByName, mem_firstByName_flatMap]
  simp only [filesDeclare_iff, not_exists, not_and]

/-- Each type of a scan is recorded from a struct that is not for tests by what is written around
it.  No struct of a scan is for tests exactly if the files that lie in tests declare only what files
before them in the walk declare as well. -/
theorem scan_omits_tests_iff (hlawful : tree.Lawful)
    (hscan : scanDirectory tree cwd root crateModule packages = some scan) :
    let base := ModulePath.parse crateModule
    (∀ type ∈ scan.result, ∃ finding : Finding, finding.Records tree cwd root base type ∧
      finding.found.item.isTestOnly = false ∧ finding.found.inTests = false) ∧
    ((∀ type ∈ scan.result, ∀ finding : Finding, finding.Records tree cwd root base type →
        ¬ IsForTests tree (root.location cwd ++ finding.way) finding.found) ↔
      ∀ before way text after, tree.walk cwd root = before ++ (way, .text text) :: after →
        LiesInTests tree (root.location cwd ++ way) →
        ∀ name, FilesDeclare root base packages [(way, .text text)] name →
          FilesDeclare root base packages before name) := by
  intro base
  unfold scanDirectory at hscan
  split at hscan
  case isFalse => exact absurd hscan (by simp)
  case isTrue hroot =>
  obtain rfl := Option.some.inj hscan
  refine ⟨fun type htype => ?_, fun h before way text after hwalk htests name hname => ?_,
    fun h type htype finding hrecords htests => ?_⟩
  · obtain ⟨way, text, items, hfile, -, -, hitems, htypes⟩ := mem_scanFiles htype
    obtain ⟨finding, hrecords⟩ := Finding.exists_records hfile hitems htypes
    obtain ⟨hinTests, -, hitem⟩ := PlacedStruct.isReported_iff.1 hrecords.reported
    exact ⟨finding, hrecords, hitem, hinTests⟩
  · -- otherwise the scan takes the first type of the name from the file in tests
    by_contra hnone
    obtain ⟨_, hmem, declared, hdeclared, hdeclaredName⟩ := filesDeclare_iff.1 hname
    rw [List.mem_singleton.1 hmem] at hdeclared
    obtain ⟨type, hfirst, rfl⟩ := exists_mem_sortedByName.2 ⟨declared, hdeclared, hdeclaredName⟩
    have htype : type ∈ (scanFiles root base packages (tree.walk cwd root)).result :=
      mem_scanFiles_iff.2 ⟨before, _, after, hwalk, mem_sortedByName.1 hfirst, hnone⟩
    obtain ⟨-, _, hcontent, hdeclares⟩ := mem_selectedTypes.1 (mem_of_mem_sortedByName hfirst)
    obtain rfl := Content.text.inj hcontent
    obtain ⟨⟨finding, hrecords⟩, hway⟩ := hdeclares.exists_records hlawful hroot
      (hwalk ▸ List.mem_append_right _ List.mem_cons_self)
    refine h type htype finding hrecords ((hrecords.isForTests_iff _).2 ?_)
    rwa [hway finding hrecords]
  · obtain ⟨before, ⟨way, content⟩, after, hwalk, hfirst, hnone⟩ := mem_scanFiles_iff.1 htype
    have hselected := mem_of_mem_sortedByName (mem_sortedByName.2 hfirst)
    obtain ⟨hpackages, text, rfl, hdeclares⟩ := mem_selectedTypes.1 hselected
    have hway : finding.way = way := (hdeclares.exists_records hlawful hroot
      (hwalk ▸ List.mem_append_right _ List.mem_cons_self)).2 finding hrecords
    rw [hrecords.isForTests_iff, hway] at htests
    exact hnone (h before way text after hwalk htests type.qualifiedName
      ⟨way, text, type, List.mem_singleton_self _, hpackages, hdeclares, rfl⟩)

/-! ## Trees without modules for tests in other files -/

/-- Whether an entry is a source text that declares a module for tests without its body. -/
def declaresTests : Entry → Bool
  | .file (.text text) => (readFile? text).any fun items => (declaredModules items).any (·.inTests)
  | .file (.bytes _) | .directory => false

/-- A file lies in tests only if some file declares a module for tests. -/
theorem LiesInTests.exists_declaresTests {body : Location} (h : LiesInTests tree body) :
    ∃ file entry, tree.entryAt? file = some entry ∧ declaresTests entry = true := by
  induction h with
  | @declared file body h =>
      obtain ⟨text, items, declaration, hentry, hitems, hmem, htests, -⟩ := h.declared
      refine ⟨file, .file (.text text), hentry, ?_⟩
      simp only [declaresTests, hitems, Option.any_some, List.any_eq_true]
      exact ⟨declaration, hmem, htests⟩
  | within _ _ ih => exact ih

theorem FileTree.Lawful.not_liesInTests (hlawful : tree.Lawful)
    (h : ∀ listed ∈ tree.entries, declaresTests listed.2 = false) (body : Location) :
    ¬ LiesInTests tree body := by
  intro hbody
  obtain ⟨file, entry, hentry, htests⟩ := hbody.exists_declaresTests
  by_cases hfile : file = []
  · subst hfile
    obtain rfl : Entry.directory = entry := Option.some.inj hentry
    exact absurd htests (by simp [declaresTests])
  · have hnone := h (file, entry) ((hlawful.mem_entries_iff hfile).2 hentry)
    exact Bool.false_ne_true (hnone.symm.trans htests)

/-- A crate with a module for tests that is written out. -/
def testedCrate : FileTree :=
  crateOf "pub struct User;\n#[cfg(test)]\nmod tests \x7b pub struct Stub; \x7d"

/-- A scan of the crate leaves out the struct inside of the module. -/
theorem scan_omits_tests_testedCrate : testedCrate.Lawful ∧
    ∃ scan, scanDirectory testedCrate [] ⟨"src/"⟩ "crate" ["crate"] = some scan ∧
      scan.result = [userType] ∧ ∀ type ∈ scan.result, ∀ finding : Finding,
        finding.Records testedCrate [] ⟨"src/"⟩ (.parse "crate") type →
          ¬ IsForTests testedCrate (["src"] ++ finding.way) finding.found := by
  have hlawful : testedCrate.Lawful := lawful_crateOf _
  have hscan : scanDirectory testedCrate [] ⟨"src/"⟩ "crate" ["crate"] =
      some (scanFiles ⟨"src/"⟩ (.parse "crate") ["crate"] (testedCrate.walk [] ⟨"src/"⟩)) :=
    if_pos rfl
  have hlibrary : IsLibrary ⟨"src/"⟩
      "pub struct User;\n#[cfg(test)]\nmod tests \x7b pub struct Stub; \x7d"
      [("User", .ok [])] := by
    decide +kernel
  refine ⟨hlawful, _, hscan, hlibrary.result_scanFiles (hasLibrary_crateOf _)
    (List.pairwise_singleton _ _), ?_⟩
  refine (scan_omits_tests_iff hlawful hscan).2.2 fun before way text after _ htests => ?_
  exact absurd htests (hlawful.not_liesInTests (by decide +kernel) _)

/-- A crate with a module for tests in a file of its own. -/
def fixtureCrate : FileTree :=
  ⟨[(["src"], .directory),
    (["src", "fixtures.rs"], .file (.text "pub struct Fixture;")),
    (["src", "lib.rs"], .file (.text "#[cfg(test)]\nmod fixtures;"))]⟩

/-- The struct in it. -/
def fixtureType : StructType :=
  ⟨"Fixture", ⟨["fixtures"]⟩, some ⟨⟨"src/fixtures.rs"⟩, []⟩⟩

/-- A scan of the crate reports the struct. -/
theorem scan_reports_fixture : fixtureCrate.Lawful ∧
    ∃ scan, scanDirectory fixtureCrate [] ⟨"src/"⟩ "crate" ["crate"] = some scan ∧
      scan.result = [fixtureType] ∧ LiesInTests fixtureCrate ["src", "fixtures.rs"] ∧
      ∃ finding : Finding, finding.Records fixtureCrate [] ⟨"src/"⟩ (.parse "crate") fixtureType ∧
        IsForTests fixtureCrate (["src"] ++ finding.way) finding.found := by
  have hlawful : fixtureCrate.Lawful := by decide +kernel
  have hroot : fixtureCrate.isDirectory [] ⟨"src/"⟩ = true := by decide +kernel
  have hwalk : fixtureCrate.walk [] ⟨"src/"⟩ = fixtureCrate.entries.filterMap (listed? ["src"]) :=
    walk_of_pairwise (by decide +kernel) (by decide +kernel)
  have hresult : (scanFiles ⟨"src/"⟩ (.parse "crate") ["crate"]
      (fixtureCrate.walk [] ⟨"src/"⟩)).result = [fixtureType] := by
    rw [hwalk]
    decide +kernel
  have hdeclared : ∃ items, readFile? "#[cfg(test)]\nmod fixtures;" = some items ∧
      declaredModules items = [⟨[], "fixtures", true⟩] :=
    Option.map_eq_some_iff.1 (by decide +kernel)
  obtain ⟨items, hitems, hmodules⟩ := hdeclared
  have htests : LiesInTests fixtureCrate ["src", "fixtures.rs"] := by
    have hfile : DeclaresFile fixtureCrate ["src", "lib.rs"] ["src", "fixtures.rs"] true := by
      refine ⟨by decide +kernel, _, items, ⟨[], "fixtures", true⟩, by decide +kernel, hitems, ?_,
        rfl, by decide +kernel⟩
      rw [hmodules]
      exact List.mem_singleton_self _
    exact .declared hfile
  obtain ⟨way, text, fixtures, hfile, -, -, hfixtures, htypes⟩ :=
    mem_scanFiles (hresult ▸ List.mem_singleton_self fixtureType)
  obtain ⟨finding, hrecords⟩ := Finding.exists_records hfile hfixtures htypes
  have hwalked : (["fixtures.rs"], .text "pub struct Fixture;") ∈
      fixtureCrate.walk [] ⟨"src/"⟩ := by
    rw [hwalk]
    decide +kernel
  have hplace : fixtureType.declaration? = some ⟨pathBelow ⟨"src/"⟩ ["fixtures.rs"], []⟩ := by
    decide +kernel
  have hway : finding.way = ["fixtures.rs"] := hrecords.way_eq hlawful hroot hwalked hplace
  refine ⟨hlawful, _, if_pos hroot, hresult, htests, finding, hrecords, ?_⟩
  rw [hrecords.isForTests_iff, hway]
  exact htests

end StructMatch
