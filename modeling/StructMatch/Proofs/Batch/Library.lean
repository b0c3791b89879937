import StructMatch.Proofs.Batch.Generation

/-!
# Crates with one source file

The library is the only source file of such a crate.  A scan comes upon its text and nothing else,
and the fields of its structs are looked up in the same text again.  So the text has to be read
once, `IsLibrary`, and what is found in the crate follows: its types, `IsLibrary.discover`, and
their fields, `IsLibrary.fieldsOf`.
-/

namespace StructMatch

open Source FileTree

/-! ## The types of a library -/

/-- A type that the library in a directory declares. -/
def typeBelow (root : Path) (name : String) : StructType :=
  ⟨name, .root, some ⟨pathBelow root ["lib.rs"], []⟩⟩

/-- What a text declares as the library in a directory: types at the root of the crate, each with
its fields or the failure to read them. -/
structure IsLibrary (root : Path) (text : String)
    (declared : List (String × Except IntrospectionError (List Field))) : Prop where
  isSource : Provenance.read? text = none
  declares : (readFile? text).map (fun items =>
      (typesOfItems .root (pathBelow root ["lib.rs"]) ["lib.rs"] items).map fun type =>
        (type, fieldsIn items type ⟨pathBelow root ["lib.rs"], []⟩)) =
    some (declared.map fun (name, fields) => (typeBelow root name, fields))

instance (root : Path) (text : String)
    (declared : List (String × Except IntrospectionError (List Field))) :
    Decidable (IsLibrary root text declared) :=
  decidable_of_iff (Provenance.read? text = none ∧
      (readFile? text).map (fun items =>
        (typesOfItems .root (pathBelow root ["lib.rs"]) ["lib.rs"] items).map fun type =>
          (type, fieldsIn items type ⟨pathBelow root ["lib.rs"], []⟩)) =
      some (declared.map fun (name, fields) => (typeBelow root name, fields)))
    ⟨fun ⟨hsource, hdeclares⟩ => ⟨hsource, hdeclares⟩, fun h => ⟨h.isSource, h.declares⟩⟩

/-- Whether a text is the library in a directory, and nothing else is there. -/
structure HasLibrary (tree : FileTree) (cwd : Location) (root : Path) (text : String) : Prop where
  isDirectory : tree.isDirectory cwd root = true
  walk : tree.walk cwd root = [(["lib.rs"], .text text)]
  readText : tree.readText cwd (pathBelow root ["lib.rs"]) = .ok text

namespace IsLibrary

variable {tree : FileTree} {cwd : Location} {root : Path} {text : String}
  {declared : List (String × Except IntrospectionError (List Field))}

theorem exists_items (h : IsLibrary root text declared) : ∃ items, readFile? text = some items ∧
    typesOfItems .root (pathBelow root ["lib.rs"]) ["lib.rs"] items =
      declared.map (typeBelow root ·.1) ∧
    ∀ named ∈ declared,
      fieldsIn items (typeBelow root named.1) ⟨pathBelow root ["lib.rs"], []⟩ = named.2 := by
  obtain ⟨items, hitems, hdeclares⟩ := Option.map_eq_some_iff.1 h.declares
  refine ⟨items, hitems, ?_, fun named hnamed => ?_⟩
  · have htypes := congrArg (List.map Prod.fst) hdeclares
    simpa only [List.map_map, Function.comp_def, List.map_id'] using htypes
  · have hmem := hdeclares ▸ List.mem_map_of_mem hnamed
    obtain ⟨type, -, htype⟩ := List.mem_map.1 hmem
    obtain ⟨rfl, hfields⟩ := Prod.mk.inj htype
    exact hfields

/-- The fields of the types are read from the library. -/
theorem fieldsOf (h : IsLibrary root text declared) (htree : HasLibrary tree cwd root text)
    {name : String} {fields : Except IntrospectionError (List Field)}
    (hname : (name, fields) ∈ declared) : tree.fieldsOf cwd (typeBelow root name) = fields := by
  obtain ⟨items, hitems, -, hfields⟩ := h.exists_items
  rw [FileTree.fieldsOf]
  simp only [typeBelow, htree.readText, hitems]
  exact hfields _ hname

theorem inPackages_typeBelow (root : Path) (name : String) :
    inPackages ["crate"] (typeBelow root name) = true :=
  rfl

theorem result_scanFile (h : IsLibrary root text declared) :
    (scanFile root (.parse "crate") ["lib.rs"] (.text text)).result =
      declared.map (typeBelow root ·.1) := by
  obtain ⟨items, hitems, htypes, -⟩ := h.exists_items
  simp only [scanFile, h.isSource, hitems]
  exact htypes

/-- A scan finds the types, if they come in the order of their names. -/
theorem result_scanFiles (h : IsLibrary root text declared)
    (htree : HasLibrary tree cwd root text)
    (hsorted : (declared.map (typeBelow root ·.1)).Pairwise fun a b =>
      a.qualifiedName < b.qualifiedName) :
    (scanFiles root (.parse "crate") ["crate"] (tree.walk cwd root)).result =
      declared.map (typeBelow root ·.1) := by
  have hscanned : ([(["lib.rs"], .text text)].filter fun file : Location × Content =>
      isScanned file.1) = [(["lib.rs"], .text text)] :=
    rfl
  have hpackage : ∀ type ∈ declared.map (typeBelow root ·.1),
      inPackages ["crate"] type = true := by
    simp only [List.forall_mem_map]
    exact fun named _ => inPackages_typeBelow root named.1
  rw [scanFiles_result, htree.walk, hscanned, List.flatMap_singleton, h.result_scanFile,
    List.filter_eq_self.2 hpackage, sortedByName_of_pairwise hsorted]

theorem result_scanDirectory (h : IsLibrary root text declared)
    (htree : HasLibrary tree cwd root text)
    (hsorted : (declared.map (typeBelow root ·.1)).Pairwise fun a b =>
      a.qualifiedName < b.qualifiedName) :
    (scanDirectory tree cwd root "crate" ["crate"]).map (·.result) =
      some (declared.map (typeBelow root ·.1)) := by
  rw [scanDirectory, if_pos htree.isDirectory, Option.map_some, h.result_scanFiles htree hsorted]

/-- A discovery finds the types, if it looks at this directory only. -/
theorem discover (h : IsLibrary root text declared) (htree : HasLibrary tree cwd root text)
    (hsorted : (declared.map (typeBelow root ·.1)).Pairwise fun a b =>
      a.qualifiedName < b.qualifiedName)
    (settings : BatchSettings) (hroots : settings.effectiveScanPaths = [root])
    (hpackages : settings.effectivePackages = ["crate"]) :
    (settings.discover tree cwd).result = .ok (declared.map (typeBelow root ·.1)) := by
  refine settings.discover_eq_ok_iff.2 ⟨?_, ?_⟩
  · rw [hroots]
    exact List.forall_mem_singleton.2 htree.isDirectory
  · rw [hroots, List.flatMap_singleton, BatchSettings.typesBelow, hpackages,
      h.result_scanFiles htree hsorted, sortedByName_of_pairwise hsorted]

end IsLibrary

/-! ## Crates as examples -/

/-- A crate, with the types that a discovery finds in it. -/
structure SampleCrate (settings : BatchSettings) where
  tree : FileTree
  types : List StructType
  lawful : tree.Lawful
  discovers : (settings.discover tree []).result = .ok types

/-- A crate with the given text in its only source file. -/
def crateOf (text : String) : FileTree :=
  ⟨[(["src"], .directory), (["src", "lib.rs"], .file (.text text))]⟩

theorem lawful_crateOf (text : String) : (crateOf text).Lawful where
  nodup := by
    show [["src"], ["src", "lib.rs"]].Nodup
    decide
  isFileName := by
    have hnames : (∀ name ∈ ["src"], IsFileName name) ∧
        ∀ name ∈ ["src", "lib.rs"], IsFileName name := by decide
    exact List.forall_mem_cons.2 ⟨hnames.1, List.forall_mem_singleton.2 hnames.2⟩
  ne_nil := by simp [crateOf]
  parent := List.forall_mem_cons.2 ⟨rfl, List.forall_mem_singleton.2 rfl⟩

/-- Where nothing else lies below the source directory, a crate has its library only. -/
theorem hasLibrary_cons (text : String) {rest : List (Location × Entry)}
    (hrest : ∀ entry ∈ rest, ¬ ["src"] <+: entry.1) :
    HasLibrary ⟨(["src"], .directory) :: (["src", "lib.rs"], .file (.text text)) :: rest⟩ []
      ⟨"src/"⟩ text where
  isDirectory := rfl
  walk := by
    have hlibrary : listed? ["src"] (["src", "lib.rs"], .file (.text text)) =
        some (["lib.rs"], .text text) := rfl
    have hnone : rest.filterMap (listed? ["src"]) = [] := by
      refine List.filterMap_eq_nil_iff.2 fun entry hentry => ?_
      obtain ⟨place, _ | content⟩ := entry
      · rfl
      · simp [listed?, hrest _ hentry]
    have hlisted : ((["src"], .directory) :: (["src", "lib.rs"], .file (.text text)) ::
        rest).filterMap (listed? ["src"]) = [(["lib.rs"], .text text)] := by
      rw [List.filterMap_cons_none rfl, List.filterMap_cons_some hlibrary, hnone]
    have hlocate : (⟨(["src"], .directory) :: (["src", "lib.rs"], .file (.text text)) ::
        rest⟩ : FileTree).locate [] (⟨"src/"⟩ : Path).components = .ok ["src"] := rfl
    rw [walk_of_pairwise hlocate, hlisted]
    rw [hlisted]
    exact List.pairwise_singleton _ _
  readText := rfl

theorem hasLibrary_crateOf (text : String) : HasLibrary (crateOf text) [] ⟨"src/"⟩ text :=
  hasLibrary_cons text (List.forall_mem_nil _)

/-- A type that is declared at the root of such a crate. -/
def libraryType (name : String) : StructType := ⟨name, .root, some ⟨⟨"src/lib.rs"⟩, []⟩⟩

/-- A crate that declares one struct. -/
def userCrate : FileTree := crateOf "pub struct User \x7b name: String \x7d"

/-- The type that is found in it. -/
def userType : StructType := libraryType "User"

theorem isLibrary_userCrate : IsLibrary ⟨"src/"⟩ "pub struct User \x7b name: String \x7d"
    [("User", .ok [⟨"name", "String"⟩])] := by
  decide +kernel

theorem hasLibrary_userCrate :
    HasLibrary userCrate [] ⟨"src/"⟩ "pub struct User \x7b name: String \x7d" :=
  hasLibrary_crateOf _

/-- The crate with what is found in it. -/
def userSample : SampleCrate {} where
  tree := userCrate
  types := [userType]
  lawful := lawful_crateOf _
  discovers :=
    isLibrary_userCrate.discover hasLibrary_userCrate (List.pairwise_singleton _ _) {} rfl rfl

end StructMatch
