import StructMatch.Proofs.Batch.Exactness
import StructMatch.Proofs.Batch.Overwriting
import StructMatch.Proofs.Path.Remainder

/-!
# Where matchers are mounted

The file of a matcher lies below the output directory, with a directory for each module of its type.
Read as a source file below that directory, it is the module of the type again with one more
segment, which is named for the class: `mounted_below_module`.  The segments come from names of
directories, files and modules, none of which leads out of the directory, and no class is named like
a file that belongs to its directory.
-/

namespace StructMatch

open BatchSettings (guestType modelType namesakeCrate namesakeSample)

/-! ## The module of a file by its path -/

/-- The module of a file by its path.  Of a path that leads through the directory, only what is left
after it counts. -/
def moduleOfPath (base : ModulePath) (dir file : Path) : ModulePath :=
  moduleOfFile base (((file.after? dir).getD file).components.map Component.text)

/-- A file below the directory is the module that a scan takes it for. -/
theorem moduleOfPath_of_components {dir file : Path} {way : Location}
    (h : file.components = dir.components ++ way.map .name) (base : ModulePath) :
    moduleOfPath base dir file = moduleOfFile base way := by
  obtain ⟨rest, hrest, hcomponents⟩ := Path.components_after? h
  rw [moduleOfPath, hrest, Option.getD_some, hcomponents, List.map_map]
  exact congrArg (moduleOfFile base) (List.map_id way)

/-! ## The modules of matchers -/

/-- No class is named like a file that belongs to its directory. -/
theorem snakeCase_className_notMem (name : String) :
    snakeCase (name ++ "Matcher") ∉ ["mod", "lib", "main"] := by
  obtain ⟨stem, hstem⟩ := exists_snakeCase_className name
  have hlong : 7 ≤ (snakeCase (name ++ "Matcher")).toList.length := by
    rw [hstem, String.toList_append, List.length_append]
    exact Nat.le_add_left _ _
  intro hmem
  have hshort : ∀ other ∈ ["mod", "lib", "main"], other.toList.length < 7 := by decide
  exact absurd hlong (not_le.2 (hshort _ hmem))

theorem snakeCase_className_ne_nil (name : String) :
    (snakeCase (name ++ "Matcher")).toList ≠ [] := by
  obtain ⟨stem, hstem⟩ := exists_snakeCase_className name
  rw [hstem, String.toList_append]
  simp

/-- The file of a matcher is the module of its type with one more segment. -/
theorem moduleOfFile_matcherWay (type : StructType) :
    moduleOfFile .root (matcherWay type) =
      type.modulePath.child (snakeCase (type.name ++ "Matcher")) := by
  have hsegments := segments_moduleOfFile .root type.modulePath.segments
    (snakeCase_className_ne_nil type.name)
  rw [if_neg (snakeCase_className_notMem type.name)] at hsegments
  exact congrArg ModulePath.mk hsegments

/-! ## Types that are discovered -/

/-- Whether some discovery finds a type. -/
def IsDiscovered (type : StructType) : Prop :=
  ∃ (settings : BatchSettings) (tree : FileTree) (cwd : Location) (types : List StructType),
    tree.Lawful ∧ (settings.discover tree cwd).result = .ok types ∧ type ∈ types

theorem IsDiscovered.isFileName_matcherWay {type : StructType} (h : IsDiscovered type) :
    ∀ name ∈ matcherWay type, IsFileName name := by
  obtain ⟨settings, tree, cwd, types, hlawful, hdiscover, htype⟩ := h
  exact settings.isFileName_matcherWay hlawful hdiscover type htype

section Mounting

variable {type : StructType} (naming : Naming) (generatorName : String) (properties : List String)
  (outputDir : Path)

theorem components_artifactPath (h : ∀ name ∈ matcherWay type, IsFileName name) :
    ((MatcherSpec.build naming generatorName type properties).artifactPath outputDir).components =
      outputDir.components ++ (matcherWay type).map .name := by
  have hpath : (MatcherSpec.build naming generatorName type properties).artifactPath outputDir =
      pathBelow outputDir (matcherWay type) := by
    rw [matcherWay, pathBelow_concat]
    rfl
  rw [hpath, components_pathBelow outputDir h]

theorem moduleOfPath_artifactPath (h : ∀ name ∈ matcherWay type, IsFileName name) :
    moduleOfPath .root outputDir
        ((MatcherSpec.build naming generatorName type properties).artifactPath outputDir) =
      type.modulePath.child (snakeCase (type.name ++ "Matcher")) := by
  rw [moduleOfPath_of_components
    (components_artifactPath naming generatorName properties outputDir h),
    moduleOfFile_matcherWay]

/-- The matcher of a type that is discovered belongs in a file below the output directory, to which
nothing but names lead.  As a source file below this directory it is a module inside the module of
the type, named by the stem of the file.  So types whose matchers belong in the same file are of
one module. -/
theorem mounted_below_module (h : IsDiscovered type) :
    let spec := MatcherSpec.build naming generatorName type properties
    (∃ names : List String, (∀ name ∈ names, IsFileName name) ∧
      (spec.artifactPath outputDir).components = outputDir.components ++ names.map .name) ∧
    moduleOfPath .root outputDir (spec.artifactPath outputDir) =
      type.modulePath.child (splitExtension spec.fileName).1 ∧
    ∀ other, IsDiscovered other → ∀ naming' generatorName' properties',
      ((MatcherSpec.build naming' generatorName' other properties').artifactPath
        outputDir).components = (spec.artifactPath outputDir).components →
      other.modulePath = type.modulePath := by
  intro spec
  have hnames := h.isFileName_matcherWay
  have hmodule := moduleOfPath_artifactPath naming generatorName properties outputDir hnames
  have hstem : (splitExtension spec.fileName).1 = snakeCase (type.name ++ "Matcher") :=
    congrArg Prod.fst (splitExtension_sourceName (snakeCase_className_ne_nil type.name))
  refine ⟨⟨matcherWay type, hnames, components_artifactPath _ _ _ _ hnames⟩, ?_, ?_⟩
  · rw [hmodule, hstem]
  · intro other hother naming' generatorName' properties' hsame
    have hnames' := hother.isFileName_matcherWay
    have hway := components_artifactPath naming' generatorName' properties' outputDir hnames'
    rw [hsame, components_artifactPath _ _ _ _ hnames, List.append_cancel_left_eq] at hway
    have hnamed : matcherWay type = matcherWay other :=
      List.map_injective_iff.2 (fun _ _ => Component.name.inj) hway
    exact (matcherWay_eq_iff.1 hnamed).1.symm

/-- The matcher of a type in a module of its own is mounted beside the type, however the output
directory is written. -/
theorem mounted_modelType : IsDiscovered modelType ∧
    ((MatcherSpec.build .snake "" modelType ["id"]).artifactPath ⟨"src/../out/"⟩).components =
      [.name "src", .up, .name "out", .name "models", .name "user_matcher.rs"] ∧
    moduleOfPath .root ⟨"src/../out/"⟩
        ((MatcherSpec.build .snake "" modelType ["id"]).artifactPath ⟨"src/../out/"⟩) =
      ⟨["models", "user_matcher"]⟩ := by
  have hdiscovered : IsDiscovered modelType :=
    ⟨{}, namesakeCrate, [], [guestType, modelType], namesakeSample.lawful,
      namesakeSample.discovers, by simp⟩
  have hmounted := (mounted_below_module .snake "" ["id"] ⟨"src/../out/"⟩ hdiscovered).2.1
  exact ⟨hdiscovered, by decide, hmounted.trans (by decide)⟩

end Mounting

end StructMatch
