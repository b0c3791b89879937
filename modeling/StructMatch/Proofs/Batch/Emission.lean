import StructMatch.Proofs.Batch.Rendering
import StructMatch.Proofs.Code.Spelling

/-!
# Generating a matcher as a whole or not at all

Whatever steps the device refuses, generating the matcher of a type leaves the file that rendering
it announces, or no file that was not there before: `generateMatcher_allOrNothing`.  Directories
that were made remain after a failure.  One of them can be in the place of the matcher itself, if
the way to the directory of the matcher passes that place, `failed_generation_leaves_directory`.
-/

namespace StructMatch

open FileTree Code

/-! ## The path of a matcher -/

/-- A word of code holds no separator. -/
theorem separator_notMem_of_isCodeWord {word : String} (h : isCodeWord word = true) :
    '/' ∉ word.toList := by
  rcases isCodeWord_cases h with hword | ⟨name, rfl, hname⟩
  · exact notMem_of_isIdentifier hword (by decide) (by decide)
  · rw [Text.isRawIdentifier, Bool.and_eq_true] at hname
    rw [String.toList_append, List.mem_append, not_or]
    exact ⟨by decide, notMem_of_isIdentifier hname.1 (by decide) (by decide)⟩

/-- The name of a type whose matcher is rendered holds no separator. -/
theorem MatcherSpec.separator_notMem_of_render {spec : MatcherSpec} {runtime source : String}
    (h : spec.render runtime = .ok source) : '/' ∉ spec.target.name.toList := by
  obtain ⟨-, -, -, hwords, -⟩ := MatcherSpec.render_eq_ok h
  rw [hasCodeWords, Bool.and_eq_true, List.all_eq_true] at hwords
  exact separator_notMem_of_isCodeWord (hwords.1 _ (by simp [codeWords]))

namespace GeneratorOptions

variable {options : GeneratorOptions} {introspect : Introspector} {type : StructType}

/-- A matcher that is rendered belongs in a file with a proper name, in the directory that is made
for it. -/
theorem components_of_renderMatcher {artifact : Artifact}
    (h : (options.renderMatcher introspect type).result = .ok artifact) :
    ∃ name, artifact.path.components.getLast? = some (.name name) ∧
      (artifact.path.parent?.getD options.outputDir).components =
        artifact.path.components.dropLast := by
  obtain ⟨names, -, hrender, hpath⟩ := options.renderMatcher_eq_ok_iff.1 h
  have hfile : IsFileName (options.specFor type names).fileName :=
    isFileName_fileName _ _ _ _ (MatcherSpec.separator_notMem_of_render hrender)
  rw [hpath, MatcherSpec.artifactPath]
  obtain ⟨dir, hdir, hcomponents⟩ := Path.parent?_join _ hfile
  rw [hdir, Option.getD_some, hcomponents, Path.components_join _ hfile]
  exact ⟨_, List.getLast?_concat, List.dropLast_concat.symm⟩

/-! ## The outcome -/

section Outcome

variable {w : Workspace} {artifact : Artifact} {tree : FileTree}
  (hrendered : (options.renderMatcher introspect type).result = .ok artifact)
include hrendered

theorem generateMatcher_of_replaced
    (h : w.tree.replaceFile (w.faults 0) w.cwd (artifact.path.parent?.getD options.outputDir)
      artifact.path artifact.source = (tree, .ok ())) :
    (options.generateMatcher introspect type w).1 = tree ∧
      (options.generateMatcher introspect type w).2.result = .ok artifact.path := by
  obtain ⟨htree, hresult⟩ := options.generateMatcher_of_ok w hrendered
  rw [htree, hresult, h]
  exact ⟨rfl, rfl⟩

/-- What is left where the device refuses a step does not depend on the text of the matcher. -/
theorem generateMatcher_of_refused {text : String} {failure : PathFailure}
    (h : (w.tree.replaceFile (w.faults 0) w.cwd (artifact.path.parent?.getD options.outputDir)
      artifact.path text).2 = .error failure) :
    (options.generateMatcher introspect type w).1 =
        (w.tree.replaceFile (w.faults 0) w.cwd (artifact.path.parent?.getD options.outputDir)
          artifact.path text).1 ∧
      (options.generateMatcher introspect type w).2.result =
        .error (.file failure.path failure.error) := by
  refine ⟨?_, options.generateMatcher_of_replaceFile w hrendered h⟩
  rw [(options.generateMatcher_of_ok w hrendered).1, replaceFile_fst_congr h]

end Outcome

/-- A matcher that was generated is the one that is rendered, and its file holds it. -/
theorem written_of_generateMatcher {w : Workspace} {path : Path}
    (h : (options.generateMatcher introspect type w).2.result = .ok path) :
    ∃ artifact, (options.renderMatcher introspect type).result = .ok artifact ∧
      path = artifact.path ∧
      (options.generateMatcher introspect type w).1.readText w.cwd path = .ok artifact.source ∧
      WritesWithin [path.location w.cwd] w.tree
        (options.generateMatcher introspect type w).1 := by
  cases hrendered : (options.renderMatcher introspect type).result with
  | error e =>
      rw [(options.generateMatcher_of_error w hrendered).2] at h
      exact absurd h (by simp)
  | ok artifact =>
      cases hreplace : w.tree.replaceFile (w.faults 0) w.cwd
          (artifact.path.parent?.getD options.outputDir) artifact.path artifact.source with
      | mk tree outcome =>
          cases outcome with
          | error failure =>
              rw [(generateMatcher_of_refused hrendered (congrArg Prod.snd hreplace)).2] at h
              exact absurd h (by simp)
          | ok =>
              obtain ⟨htree, hresult⟩ := generateMatcher_of_replaced hrendered hreplace
              obtain rfl := Except.ok.inj (hresult.symm.trans h)
              have hwrites := writesWithin_replaceFile (w.faults 0) w.cwd w.tree
                (artifact.path.parent?.getD options.outputDir) artifact.path artifact.source
              rw [hreplace] at hwrites
              rw [htree]
              exact ⟨artifact, rfl, rfl, (holds_of_replaceFile hreplace).readText, hwrites⟩

/-- A matcher that was not generated leaves directories at most, and its place as it was unless the
way to it passes there. -/
theorem kept_of_generateMatcher {w : Workspace} {e : GenerateError}
    (h : (options.generateMatcher introspect type w).2.result = .error e) :
    AddsDirectories w.tree (options.generateMatcher introspect type w).1 ∧
      ∀ artifact, (options.renderMatcher introspect type).result = .ok artifact →
        ¬ artifact.path.PassesItself w.cwd →
        (options.generateMatcher introspect type w).1.entryAt? (artifact.path.location w.cwd) =
          w.tree.entryAt? (artifact.path.location w.cwd) := by
  cases hrendered : (options.renderMatcher introspect type).result with
  | error cause =>
      rw [(options.generateMatcher_of_error w hrendered).1]
      exact ⟨.refl _, fun _ _ _ => rfl⟩
  | ok artifact =>
      cases hreplace : w.tree.replaceFile (w.faults 0) w.cwd
          (artifact.path.parent?.getD options.outputDir) artifact.path artifact.source with
      | mk tree outcome =>
          cases outcome with
          | ok =>
              rw [(generateMatcher_of_replaced hrendered hreplace).2] at h
              exact absurd h (by simp)
          | error failure =>
              rw [(generateMatcher_of_refused hrendered (congrArg Prod.snd hreplace)).1, hreplace]
              refine ⟨addsDirectories_of_replaceFile_error hreplace, fun other hother hpasses => ?_⟩
              obtain rfl := Except.ok.inj hother
              obtain ⟨-, -, hdir⟩ := components_of_renderMatcher hrendered
              exact entryAt?_of_replaceFile_error hdir hpasses hreplace

end GeneratorOptions

/-- Whatever steps the device refuses, generating the matcher of a type does one of two things.  It
writes what rendering it announces, and touches no other file.  Or it leaves all files as they were,
and nothing in the place of the matcher, unless the way to the matcher passes there by going back.
A matcher that cannot be rendered is not generated for the same reason, and then nothing is touched
at all. -/
theorem generateMatcher_allOrNothing (options : GeneratorOptions) (introspect : Introspector)
    (type : StructType) (w : Workspace) :
    let rendered := (options.renderMatcher introspect type).result
    let after := (options.generateMatcher introspect type w).1
    let result := (options.generateMatcher introspect type w).2.result
    (∀ path, result = .ok path → ∃ artifact, rendered = .ok artifact ∧ path = artifact.path ∧
      after.readText w.cwd path = .ok artifact.source ∧
      WritesWithin [path.location w.cwd] w.tree after) ∧
    (∀ e, result = .error e → AddsDirectories w.tree after ∧
      ∀ artifact, rendered = .ok artifact →
        (¬ artifact.path.PassesItself w.cwd →
          after.entryAt? (artifact.path.location w.cwd) =
            w.tree.entryAt? (artifact.path.location w.cwd)) ∧
        (artifact.path.PassesItself w.cwd → .up ∈ artifact.path.components)) ∧
    ∀ e, rendered = .error e → result = .error e ∧ after = w.tree := by
  intro rendered after result
  refine ⟨fun path hpath => GeneratorOptions.written_of_generateMatcher hpath,
    fun e he => ?_, fun e he => ?_⟩
  · obtain ⟨hadds, hplace⟩ := GeneratorOptions.kept_of_generateMatcher he
    refine ⟨hadds, fun artifact hartifact => ⟨hplace artifact hartifact, fun hpasses => ?_⟩⟩
    obtain ⟨name, hname, -⟩ := GeneratorOptions.components_of_renderMatcher hartifact
    exact hpasses.up_mem hname
  · obtain ⟨htree, hresult⟩ := options.generateMatcher_of_error w he
    exact ⟨hresult, htree⟩

/-- Reads no properties of any type. -/
def readsNothing : Introspector := fun _ => .ok []

/-- A generator that writes to a directory. -/
def generatorFor (outputDir : String) : GeneratorOptions := { outputDir := ⟨outputDir⟩ }

/-- A device that does not let a file be moved. -/
def immovable : Faults := fun _ step => if step = .rename then some .busy else none

/-- A place with a former matcher in it. -/
def formerMatcher : FileTree := ⟨[(["user_matcher.rs"], .file (.text "former"))]⟩

/-- The matcher of the type is rendered without properties. -/
theorem renderMatcher_userType (outputDir : String) :
    ∃ source, ((generatorFor outputDir).renderMatcher readsNothing userType).result =
      .ok ⟨((generatorFor outputDir).specFor userType []).artifactPath ⟨outputDir⟩, source⟩ := by
  have hidentifier : Text.isIdentifier userType.name.toList = true := by decide
  obtain ⟨source, hsource⟩ :=
    ({ outputDir := ⟨outputDir⟩ } : BatchSettings).render_of_not_isReserved isPlainRuntime_default
      hidentifier (List.forall_mem_nil _) (List.forall_mem_nil _) (by decide)
  exact ⟨source, (generatorFor outputDir).renderMatcher_eq_ok_iff.2 ⟨[], rfl, hsource, rfl⟩⟩

/-- A matcher is written on a device that refuses nothing.  One that does not let the file be moved
keeps the former matcher. -/
theorem generateMatcher_userType :
    (∃ artifact, ((generatorFor "").renderMatcher readsNothing userType).result = .ok artifact ∧
      ((generatorFor "").generateMatcher readsNothing userType
        ⟨formerMatcher, [], noFaults⟩).1.readText [] ⟨"user_matcher.rs"⟩ = .ok artifact.source) ∧
    ((generatorFor "").generateMatcher readsNothing userType
      ⟨formerMatcher, [], immovable⟩).1.entryAt? ["user_matcher.rs"] =
        some (.file (.text "former")) := by
  obtain ⟨source, hrendered⟩ := renderMatcher_userType ""
  have hpath : ((generatorFor "").specFor userType []).artifactPath ⟨""⟩ = ⟨"user_matcher.rs"⟩ := by
    decide +kernel
  rw [hpath] at hrendered
  have hreplaced : (formerMatcher.replaceFile noRefusals []
      ((⟨"user_matcher.rs"⟩ : Path).parent?.getD ⟨""⟩) ⟨"user_matcher.rs"⟩ "").2 = .ok () := by
    decide +kernel
  have hkept : (formerMatcher.replaceFile (immovable 0) []
      ((⟨"user_matcher.rs"⟩ : Path).parent?.getD ⟨""⟩) ⟨"user_matcher.rs"⟩ "").2 =
        .error ⟨⟨"user_matcher.rs"⟩, .busy⟩ := by
    decide +kernel
  have hok := (generatorFor "").generateMatcher_of_replaceFile ⟨formerMatcher, [], noFaults⟩
    hrendered hreplaced
  have hfails := (generatorFor "").generateMatcher_of_replaceFile ⟨formerMatcher, [], immovable⟩
    hrendered hkept
  have hwritten := (generateMatcher_allOrNothing (generatorFor "") readsNothing userType
    ⟨formerMatcher, [], noFaults⟩).1 ⟨"user_matcher.rs"⟩ hok
  have hrefused := (generateMatcher_allOrNothing (generatorFor "") readsNothing userType
    ⟨formerMatcher, [], immovable⟩).2.1 (.file ⟨"user_matcher.rs"⟩ .busy) hfails
  obtain ⟨artifact, hartifact, -, hread, -⟩ := hwritten
  exact ⟨⟨artifact, hartifact, hread⟩, hrefused.1.entryAt?_of_some (by decide)⟩

/-- The way to a matcher can make a directory of the matcher's own name.  It is there when the
matcher fails to be written, where nothing was before. -/
theorem failed_generation_leaves_directory :
    let options := generatorFor "user_matcher.rs/.."
    let path := (options.specFor userType []).artifactPath options.outputDir
    let generated := options.generateMatcher readsNothing userType ⟨.empty, [], noFaults⟩
    path = ⟨"user_matcher.rs/../user_matcher.rs"⟩ ∧
      generated.2.result = .error (.file path .isADirectory) ∧
      FileTree.empty.entryAt? (path.location []) = none ∧
      generated.1.entryAt? (path.location []) = some .directory := by
  intro options path generated
  have hpath : path = ⟨"user_matcher.rs/../user_matcher.rs"⟩ := by decide +kernel
  obtain ⟨source, hrendered⟩ : ∃ source,
      (options.renderMatcher readsNothing userType).result = .ok ⟨path, source⟩ :=
    renderMatcher_userType _
  have hfails : (FileTree.empty.replaceFile noRefusals [] (path.parent?.getD options.outputDir) path
      "").2 = .error ⟨path, .isADirectory⟩ := by
    decide +kernel
  have hplace : (FileTree.empty.replaceFile noRefusals [] (path.parent?.getD options.outputDir) path
      "").1.entryAt? (path.location []) = some .directory := by
    decide +kernel
  obtain ⟨htree, hresult⟩ := GeneratorOptions.generateMatcher_of_refused
    (w := ⟨.empty, [], noFaults⟩) hrendered hfails
  have hgenerated : generated =
      options.generateMatcher readsNothing userType ⟨.empty, [], noFaults⟩ := rfl
  rw [hgenerated, hresult, htree]
  exact ⟨hpath, rfl, by decide +kernel, hplace⟩

end StructMatch
