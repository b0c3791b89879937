import StructMatch.Proofs.Batch.Exactness
import StructMatch.Proofs.Batch.Generation

/-!
# The order of a walk

A scan keeps the first type of each full path that it comes upon.  Which full paths there are does
not depend on the order of the files, but which file stands for one of them does as soon as two
files declare it: `scanFiles_order_iff`.  The library and the program of a crate are two such files,
`sharedCrate_depends_on_order`.
-/

namespace StructMatch

open Source FileTree

/-! ## Types in order -/

/-- The full paths of the types of several files do not depend on the order of the files. -/
theorem names_sortedByName_of_perm {types types' : List StructType} (h : types.Perm types') :
    (sortedByName types).map StructType.qualifiedName =
      (sortedByName types').map StructType.qualifiedName := by
  have hperm : ((sortedByName types).map StructType.qualifiedName).Perm
      ((sortedByName types').map StructType.qualifiedName) := by
    refine (List.perm_ext_iff_of_nodup (nodup_names_sortedByName types)
      (nodup_names_sortedByName types')).2 fun name => ?_
    simp only [List.mem_map, exists_mem_sortedByName, h.mem_iff]
  exact hperm.eq_of_pairwise (fun a b _ _ hab hba => absurd hab (lt_asymm hba))
    (pairwise_names_sortedByName types) (pairwise_names_sortedByName types')

/-! ## Scans in several orders -/

/-- Whether two files declare types of the packages with the same full path. -/
def Contested (root : Path) (base : ModulePath) (packages : List String)
    (files : List (Location × Content)) : Prop :=
  ∃ way text type way' text' type', (way, .text text) ∈ files ∧ (way', .text text') ∈ files ∧
    way ≠ way' ∧ FileDeclares root base way text type ∧ FileDeclares root base way' text' type' ∧
    LiesInPackages packages type ∧ LiesInPackages packages type' ∧
    type.qualifiedName = type'.qualifiedName

section Order

variable {root : Path} {base : ModulePath} {packages : List String}
  {files : List (Location × Content)}

theorem Contested.of_perm {order : List (Location × Content)} (hperm : order.Perm files)
    (h : Contested root base packages order) : Contested root base packages files := by
  obtain ⟨way, text, type, way', text', type', hfile, hfile', hrest⟩ := h
  exact ⟨way, text, type, way', text', type', hperm.mem_iff.1 hfile, hperm.mem_iff.1 hfile', hrest⟩

/-- Where no full path is contested, every file gives the types that it would give alone. -/
theorem mem_firstByName_of_not_contested (hways : (files.map Prod.fst).Nodup)
    (h : ¬ Contested root base packages files) {type : StructType} :
    type ∈ firstByName (files.flatMap (selectedTypes root base packages)) ↔
      ∃ file ∈ files, type ∈ firstByName (selectedTypes root base packages file) := by
  rw [mem_firstByName_flatMap]
  constructor
  · rintro ⟨before, file, after, rfl, htype, -⟩
    exact ⟨file, by simp, htype⟩
  · rintro ⟨⟨way, content⟩, hfile, htype⟩
    obtain ⟨before, after, rfl⟩ := List.append_of_mem hfile
    refine ⟨before, _, after, rfl, htype, ?_⟩
    -- a file further up that has the full path too would be another one
    rintro ⟨way', content'⟩ hearlier other hother hname
    obtain ⟨hpackages, text, rfl, hdeclares⟩ :=
      mem_selectedTypes.1 (mem_of_mem_firstByName htype)
    obtain ⟨hpackages', text', rfl, hdeclares'⟩ := mem_selectedTypes.1 hother
    refine h ⟨way, text, type, way', text', other, hfile, List.mem_append_left _ hearlier, ?_,
      hdeclares, hdeclares', hpackages, hpackages', hname.symm⟩
    rintro rfl
    rw [List.map_append, List.map_cons, List.nodup_append] at hways
    exact hways.2.2 way (List.mem_map_of_mem hearlier) way List.mem_cons_self rfl

/-- A scan that comes upon a file first reports its types for their full paths. -/
theorem exists_mem_scanFiles_cons {way : Location} {text : String} {type : StructType}
    (hdeclares : FileDeclares root base way text type) (hpackages : LiesInPackages packages type)
    (rest : List (Location × Content)) :
    ∃ first ∈ (scanFiles root base packages ((way, .text text) :: rest)).result,
      first.qualifiedName = type.qualifiedName ∧
        first.declaration?.map (·.file) = some (pathBelow root way) := by
  have hselected : type ∈ selectedTypes root base packages (way, .text text) :=
    mem_selectedTypes.2 ⟨hpackages, text, rfl, hdeclares⟩
  obtain ⟨first, hfirst, hname⟩ := exists_mem_sortedByName.2 ⟨type, hselected, rfl⟩
  refine ⟨first, ?_, hname, ?_⟩
  · rw [scanFiles_eq_sortedByName, mem_sortedByName]
    exact mem_firstByName_flatMap.2 ⟨[], _, rest, rfl, mem_sortedByName.1 hfirst, by simp⟩
  · obtain ⟨-, text', htext, hfile⟩ := mem_selectedTypes.1 (mem_of_mem_sortedByName hfirst)
    obtain ⟨dirs, stem, items, modules, -, -, -, -, -, -, -, hplace⟩ := hfile
    rw [hplace]
    rfl

/-- A full path that is contested gets its type from the file that a scan comes upon first. -/
theorem exists_perm_scanFiles_ne (hnames : ∀ file ∈ files, ∀ name ∈ file.1, IsFileName name)
    (h : Contested root base packages files) : ∃ order, order.Perm files ∧
      (scanFiles root base packages order).result ≠
        (scanFiles root base packages files).result := by
  obtain ⟨way, text, type, way', text', type', hfile, hfile', hne, hdeclares, hdeclares',
    hpackages, hpackages', hname⟩ := h
  by_contra hall
  push Not at hall
  obtain ⟨rest, hperm⟩ : ∃ rest, ((way, .text text) :: rest).Perm files :=
    ⟨_, (List.perm_cons_erase hfile).symm⟩
  obtain ⟨rest', hperm'⟩ : ∃ rest', ((way', .text text') :: rest').Perm files :=
    ⟨_, (List.perm_cons_erase hfile').symm⟩
  obtain ⟨first, hfirst, hfirstName, hplace⟩ := exists_mem_scanFiles_cons hdeclares hpackages rest
  obtain ⟨first', hfirst', hfirstName', hplace'⟩ :=
    exists_mem_scanFiles_cons hdeclares' hpackages' rest'
  rw [hall _ hperm, scanFiles_eq_sortedByName] at hfirst
  rw [hall _ hperm', scanFiles_eq_sortedByName] at hfirst'
  obtain rfl : first = first' :=
    eq_of_mem_sortedByName hfirst hfirst' (by rw [hfirstName, hfirstName', hname])
  rw [hplace] at hplace'
  exact hne ((pathBelow_inj (hnames _ hfile) (hnames _ hfile')).1 (Option.some.inj hplace'))

/-- In whatever order a scan comes upon the files, it finds the same full paths.  It finds the same
types in every order iff no two of the files declare the same full path. -/
theorem scanFiles_order_iff (hways : (files.map Prod.fst).Nodup)
    (hnames : ∀ file ∈ files, ∀ name ∈ file.1, IsFileName name) (root : Path) (base : ModulePath)
    (packages : List String) :
    (∀ order, order.Perm files →
      (scanFiles root base packages order).result.map StructType.qualifiedName =
        (scanFiles root base packages files).result.map StructType.qualifiedName) ∧
    ((∀ order, order.Perm files → (scanFiles root base packages order).result =
        (scanFiles root base packages files).result) ↔
      ¬ Contested root base packages files) := by
  refine ⟨fun order hperm => ?_, fun hall hcontested => ?_, fun hfree order hperm => ?_⟩
  · rw [scanFiles_eq_sortedByName, scanFiles_eq_sortedByName]
    exact names_sortedByName_of_perm (hperm.flatMap_right _)
  · obtain ⟨order, hperm, hne⟩ := exists_perm_scanFiles_ne hnames hcontested
    exact hne (hall order hperm)
  · rw [scanFiles_eq_sortedByName, scanFiles_eq_sortedByName]
    refine sortedByName_congr fun type => ?_
    rw [mem_firstByName_of_not_contested ((hperm.map _).nodup_iff.2 hways)
      (fun h => hfree (h.of_perm hperm)), mem_firstByName_of_not_contested hways hfree]
    exact exists_congr fun file => and_congr_left' hperm.mem_iff

end Order

/-! ## A crate with a library and a program -/

/-- The library of a crate and the program in it, which both declare a struct at the crate root. -/
def sharedFiles : List (Location × Content) :=
  [(["lib.rs"], .text "pub struct Shared \x7b name: String \x7d"),
    (["main.rs"], .text "pub struct Shared \x7b id: u64 \x7d")]

/-- The struct of the two files, declared in one of them. -/
def sharedType (file : String) : StructType := ⟨"Shared", .root, some ⟨⟨file⟩, []⟩⟩

theorem selectedTypes_sharedFiles :
    sharedFiles.map (selectedTypes ⟨"src/"⟩ .root ["crate"]) =
      [[sharedType "src/lib.rs"], [sharedType "src/main.rs"]] := by
  decide +kernel

theorem contested_sharedFiles : Contested ⟨"src/"⟩ .root ["crate"] sharedFiles := by
  obtain ⟨hlibrary, hprogram⟩ := List.cons.inj selectedTypes_sharedFiles
  obtain ⟨hpackages, text, htext, hdeclares⟩ :=
    mem_selectedTypes.1 (hlibrary ▸ List.mem_singleton_self _)
  obtain ⟨hpackages', text', htext', hdeclares'⟩ :=
    mem_selectedTypes.1 ((List.cons.inj hprogram).1 ▸ List.mem_singleton_self _)
  obtain rfl := Content.text.inj htext
  obtain rfl := Content.text.inj htext'
  exact ⟨["lib.rs"], _, sharedType "src/lib.rs", ["main.rs"], _, sharedType "src/main.rs",
    List.mem_cons_self, List.mem_cons_of_mem _ List.mem_cons_self, by decide, hdeclares,
    hdeclares', hpackages, hpackages', rfl⟩

/-- The two files give the same full paths in the other order, but not always the same types. -/
theorem scanFiles_order_sharedFiles : (sharedFiles.map Prod.fst).Nodup ∧
    (∀ file ∈ sharedFiles, ∀ name ∈ file.1, IsFileName name) ∧
    (scanFiles ⟨"src/"⟩ .root ["crate"] sharedFiles.reverse).result.map StructType.qualifiedName =
      (scanFiles ⟨"src/"⟩ .root ["crate"] sharedFiles).result.map StructType.qualifiedName ∧
    ¬ ∀ order, order.Perm sharedFiles → (scanFiles ⟨"src/"⟩ .root ["crate"] order).result =
      (scanFiles ⟨"src/"⟩ .root ["crate"] sharedFiles).result := by
  have hways : (sharedFiles.map Prod.fst).Nodup := by decide
  have hnames : ∀ file ∈ sharedFiles, ∀ name ∈ file.1, IsFileName name := by decide
  obtain ⟨hpaths, htypes⟩ := scanFiles_order_iff hways hnames ⟨"src/"⟩ .root ["crate"]
  exact ⟨hways, hnames, hpaths _ (List.reverse_perm _),
    fun hall => htypes.1 hall contested_sharedFiles⟩

/-- The crate of the two files. -/
def sharedCrate : FileTree :=
  ⟨(["src"], .directory) :: sharedFiles.map fun file => ("src" :: file.1, .file file.2)⟩

/-- The file that is come upon first stands for the struct, and with it other properties have
methods in the matcher. -/
theorem sharedCrate_depends_on_order :
    (scanFiles ⟨"src/"⟩ .root ["crate"] sharedFiles).result = [sharedType "src/lib.rs"] ∧
    (scanFiles ⟨"src/"⟩ .root ["crate"] sharedFiles.reverse).result =
      [sharedType "src/main.rs"] ∧
    tryPropertiesOf (sharedCrate.fieldsOf []) (sharedType "src/lib.rs") = .ok ["name"] ∧
    tryPropertiesOf (sharedCrate.fieldsOf []) (sharedType "src/main.rs") = .ok ["id"] := by
  have hfirst (file other : String) :
      sortedByName [sharedType file, sharedType other] = [sharedType file] := by
    have hname : (sharedType other).qualifiedName = (sharedType file).qualifiedName := rfl
    simp [sortedByName, firstByName, hname]
  refine ⟨?_, ?_, by decide +kernel, by decide +kernel⟩
  · rw [scanFiles_eq_sortedByName, List.flatMap_def, selectedTypes_sharedFiles]
    exact hfirst _ _
  · rw [scanFiles_eq_sortedByName, List.flatMap_def, List.map_reverse, selectedTypes_sharedFiles]
    exact hfirst _ _

end StructMatch
