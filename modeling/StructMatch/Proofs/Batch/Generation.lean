import StructMatch.Proofs.Batch.Discovery
import StructMatch.Proofs.Path.Parent

/-!
# Generating all matchers

What a batch leaves behind.  Generating one matcher renders it and replaces its file,
`generated_of_ok`, and generating those of several types writes to their files only, whether it
succeeds or not, `writesWithin_generatedAll`.  After a success each type was rendered from a tree in
which the files of the types before it were written, and its file holds what was rendered unless a
later type has the same file, `generatedAll_append`.
-/

namespace StructMatch

open FileTree

/-! ## The file of a matcher -/

/-- The way from the output directory to the matcher file of a type. -/
def matcherWay (type : StructType) : Location :=
  type.modulePath.segments ++ [snakeCase (type.name ++ "Matcher") ++ ".rs"]

theorem Declares.isFileName_matcherWay {tree : FileTree} {cwd : Location} {root : Path}
    {way : Location} {text : String} {items : List Source.Item} {type : StructType}
    (h : Declares tree cwd root way text items type) (hlawful : tree.Lawful) :
    ∀ name ∈ matcherWay type, IsFileName name := by
  have hname : '/' ∉ type.name.toList :=
    notMem_of_isIdentifier h.isIdentifier (by decide) (by decide)
  intro name hmem
  rcases List.mem_append.1 hmem with hsegment | hfile
  · exact h.isFileName_segments hlawful name hsegment
  · rw [List.mem_singleton.1 hfile]
    exact isFileName_fileName .snake "" type [] hname

/-! ## The place after some replacements -/

namespace Workspace

variable (w : Workspace) (count : Nat) (tree : FileTree)

@[simp]
theorem tree_after : (w.after count tree).tree = tree := rfl

@[simp]
theorem cwd_after : (w.after count tree).cwd = w.cwd := rfl

@[simp]
theorem faults_after (n : Nat) : (w.after count tree).faults n = w.faults (n + count) := rfl

/-- A device that refuses nothing goes on refusing nothing. -/
theorem faults_after_of_noFaults {w : Workspace} (h : w.faults = noFaults) :
    (w.after count tree).faults = noFaults := by
  rw [after, h]
  rfl

end Workspace

/-! ## Writing one specification -/

namespace MatcherSpec

variable (spec : MatcherSpec) (runtime : String) (outputDir : Path) (w : Workspace)

/-- A specification that cannot be rendered touches nothing. -/
theorem emit_of_render_error {e : GenerateError} (h : spec.render runtime = .error e) :
    (spec.emit runtime outputDir w).1 = w.tree ∧
      (spec.emit runtime outputDir w).2.result = .error e := by
  unfold emit
  simp only [h, Logged.result_pure, and_self]

/-- A specification that is rendered replaces the file it belongs in. -/
theorem emit_of_render_ok {source : String} (h : spec.render runtime = .ok source) :
    let replaced := w.tree.replaceFile (w.faults 0) w.cwd
      ((spec.artifactPath outputDir).parent?.getD outputDir) (spec.artifactPath outputDir) source
    (spec.emit runtime outputDir w).1 = replaced.1 ∧
      (spec.emit runtime outputDir w).2.result =
        match replaced.2 with
        | .error failure => .error (.file failure.path failure.error)
        | .ok () => .ok ⟨spec.artifactPath outputDir, source⟩ := by
  intro replaced
  unfold emit
  simp only [h]
  cases hreplaced : replaced with
  | mk tree outcome =>
      have heq : w.tree.replaceFile (w.faults 0) w.cwd
          ((spec.artifactPath outputDir).parent?.getD outputDir) (spec.artifactPath outputDir)
          source = (tree, outcome) := hreplaced
      cases outcome <;> simp only [heq, Logged.result_pure, Logged.result_bind, and_self]

end MatcherSpec

/-! ## Generating one matcher -/

namespace GeneratorOptions

variable (options : GeneratorOptions) {introspect : Introspector} {type : StructType}
  (w : Workspace)

/-- What is rendered for a type is the specification of it with its properties. -/
theorem renderMatcher_eq_ok_iff {artifact : Artifact} :
    (options.renderMatcher introspect type).result = .ok artifact ↔
      ∃ names, (propertiesFor introspect type).result = .ok names ∧
        (options.specFor type names).render options.runtime = .ok artifact.source ∧
        artifact.path = (options.specFor type names).artifactPath options.outputDir := by
  rw [renderMatcher, Logged.result_bind]
  cases hnames : (propertiesFor introspect type).result with
  | error e => simp
  | ok names =>
      simp only [Logged.result_pure, map_eq_ok_iff, Except.ok.injEq, exists_eq_left']
      obtain ⟨path, source⟩ := artifact
      simp only [Artifact.mk.injEq]
      constructor
      · rintro ⟨text, hrender, rfl, rfl⟩
        exact ⟨hrender, rfl⟩
      · rintro ⟨hrender, rfl⟩
        exact ⟨source, hrender, rfl, rfl⟩

/-- A matcher that cannot be rendered touches nothing. -/
theorem generateMatcher_of_error {e : GenerateError}
    (h : (options.renderMatcher introspect type).result = .error e) :
    (options.generateMatcher introspect type w).1 = w.tree ∧
      (options.generateMatcher introspect type w).2.result = .error e := by
  rw [renderMatcher, Logged.result_bind] at h
  unfold generateMatcher
  dsimp only
  cases hnames : (propertiesFor introspect type).result with
  | error other =>
      rw [hnames] at h
      rw [Logged.result_bind]
      exact ⟨rfl, congrArg Except.error (Except.error.inj h)⟩
  | ok names =>
      simp only [hnames, Logged.result_pure] at h
      have hrender : (options.specFor type names).render options.runtime = .error e := by
        cases hsource : (options.specFor type names).render options.runtime with
        | error other =>
            rw [hsource] at h
            exact congrArg Except.error (Except.error.inj h)
        | ok source =>
            rw [hsource] at h
            exact absurd h (by simp [Except.map])
      obtain ⟨htree, hresult⟩ := MatcherSpec.emit_of_render_error _ _ options.outputDir w hrender
      simp only [htree, Logged.result_bind, hresult, Logged.result_pure, true_and]
      rfl

/-- A matcher that is rendered replaces the file it belongs in. -/
theorem generateMatcher_of_ok {artifact : Artifact}
    (h : (options.renderMatcher introspect type).result = .ok artifact) :
    let replaced := w.tree.replaceFile (w.faults 0) w.cwd
      (artifact.path.parent?.getD options.outputDir) artifact.path artifact.source
    (options.generateMatcher introspect type w).1 = replaced.1 ∧
      (options.generateMatcher introspect type w).2.result = match replaced.2 with
        | .error failure => .error (.file failure.path failure.error)
        | .ok () => .ok artifact.path := by
  obtain ⟨names, hnames, hrender, hpath⟩ := options.renderMatcher_eq_ok_iff.1 h
  obtain ⟨htree, hresult⟩ := MatcherSpec.emit_of_render_ok _ _ options.outputDir w hrender
  unfold generateMatcher
  simp only [hnames, htree, Logged.result_bind, hresult, Logged.result_pure, ← hpath, true_and]
  cases (w.tree.replaceFile (w.faults 0) w.cwd (artifact.path.parent?.getD options.outputDir)
    artifact.path artifact.source).2 <;> rfl

/-- The text of a matcher plays no part in whether its file can be written. -/
theorem generateMatcher_of_replaceFile {artifact : Artifact} {text : String}
    {result : Except PathFailure Unit}
    (h : (options.renderMatcher introspect type).result = .ok artifact)
    (hreplace : (w.tree.replaceFile (w.faults 0) w.cwd
      (artifact.path.parent?.getD options.outputDir) artifact.path text).2 = result) :
    (options.generateMatcher introspect type w).2.result =
      (result.mapError fun failure => .file failure.path failure.error).map
        fun _ => artifact.path := by
  rw [(options.generateMatcher_of_ok w h).2, replaceFile_snd_congr hreplace artifact.source]
  cases result <;> rfl

end GeneratorOptions

namespace BatchSettings

variable (settings : BatchSettings)

/-- The path of the matcher file of a type. -/
def artifactPath (type : StructType) : Path := pathBelow settings.outputDir (matcherWay type)

/-- The location of the matcher file of a type. -/
def artifactPlace (cwd : Location) (type : StructType) : Location :=
  (settings.artifactPath type).location cwd

/-- The path of a matcher does not depend on the properties of its type. -/
theorem artifactPath_specFor (type : StructType) (properties : List String) :
    (settings.options.specFor type properties).artifactPath settings.outputDir =
      settings.artifactPath type := by
  rw [artifactPath, matcherWay, pathBelow_concat]
  rfl

theorem artifactPlace_eq (cwd : Location) {type : StructType}
    (h : ∀ name ∈ matcherWay type, IsFileName name) :
    settings.artifactPlace cwd type = settings.outputDir.location cwd ++ matcherWay type :=
  location_pathBelow settings.outputDir cwd h

/-- The directory of the matcher file of a type. -/
def artifactDir (type : StructType) : Path :=
  (settings.artifactPath type).parent?.getD settings.outputDir

/-- The way to the directory of a matcher goes on from the output directory by the modules. -/
theorem components_artifactDir {type : StructType}
    (h : ∀ name ∈ matcherWay type, IsFileName name) :
    (settings.artifactDir type).components =
      settings.outputDir.components ++ type.modulePath.segments.map .name := by
  rw [matcherWay, List.forall_mem_append, List.forall_mem_singleton] at h
  obtain ⟨dir, hdir, hcomponents⟩ :=
    Path.parent?_join (pathBelow settings.outputDir type.modulePath.segments) h.2
  rw [artifactDir, artifactPath, matcherWay, pathBelow_concat, hdir, Option.getD_some, hcomponents,
    components_pathBelow _ h.1]

/-! ## One matcher -/

/-- A matcher is rendered from the properties of its type. -/
theorem renderMatcher_eq_ok_iff {introspect : Introspector} {type : StructType}
    {artifact : Artifact} :
    (settings.options.renderMatcher introspect type).result = .ok artifact ↔
      ∃ names, (GeneratorOptions.propertiesFor introspect type).result = .ok names ∧
        (settings.options.specFor type names).render settings.runtime = .ok artifact.source ∧
        artifact.path = settings.artifactPath type := by
  have hdir : settings.options.outputDir = settings.outputDir := rfl
  simp only [settings.options.renderMatcher_eq_ok_iff, hdir, settings.artifactPath_specFor]
  rfl

/-- The matcher of a type as it is rendered from a tree. -/
def rendered (tree : FileTree) (cwd : Location) (type : StructType) :
    Except GenerateError Artifact :=
  (settings.options.renderMatcher (tree.fieldsOf cwd) type).result

theorem path_of_rendered {tree : FileTree} {cwd : Location} {type : StructType}
    {artifact : Artifact} (h : settings.rendered tree cwd type = .ok artifact) :
    artifact.path = settings.artifactPath type := by
  obtain ⟨-, -, -, hpath⟩ := settings.renderMatcher_eq_ok_iff.1 h
  exact hpath

/-- Rendering depends only on the file that declares the type. -/
theorem rendered_congr {tree tree' : FileTree} {cwd : Location} {type : StructType}
    (h : ∀ declaration, type.declaration? = some declaration →
      tree'.readText cwd declaration.file = tree.readText cwd declaration.file) :
    settings.rendered tree' cwd type = settings.rendered tree cwd type := by
  have hfields : tree'.fieldsOf cwd type = tree.fieldsOf cwd type := by
    unfold fieldsOf
    cases hdeclaration : type.declaration? with
    | none => rfl
    | some declaration => simp only [h declaration hdeclaration]
  unfold rendered GeneratorOptions.renderMatcher GeneratorOptions.propertiesFor tryPropertiesOf
  rw [hfields]

/-- A type is rendered as before when its file can be read and was not written. -/
theorem rendered_of_writesWithin {tree tree' : FileTree} {cwd : Location} {type : StructType}
    {written : List Location} (hwrites : WritesWithin written tree tree')
    (hread : ∀ declaration, type.declaration? = some declaration →
      declaration.file.location cwd ∉ written ∧
        ∃ text, tree.readText cwd declaration.file = .ok text) :
    settings.rendered tree' cwd type = settings.rendered tree cwd type := by
  refine settings.rendered_congr fun declaration hdeclaration => ?_
  obtain ⟨hplace, text, htext⟩ := hread declaration hdeclaration
  rw [htext, hwrites.readText hplace htext]

/-- What generating the matcher of a type comes to. -/
def generated (w : Workspace) (type : StructType) : FileTree × Except GenerateError Path :=
  ((settings.options.generateMatcher (w.tree.fieldsOf w.cwd) type w).1,
    (settings.options.generateMatcher (w.tree.fieldsOf w.cwd) type w).2.result)

theorem generated_eq (w : Workspace) (type : StructType) :
    settings.generated w type =
      match settings.rendered w.tree w.cwd type with
      | .error e => (w.tree, .error e)
      | .ok artifact =>
        let replaced := w.tree.replaceFile (w.faults 0) w.cwd (settings.artifactDir type)
          (settings.artifactPath type) artifact.source
        (replaced.1, match replaced.2 with
          | .error failure => .error (.file failure.path failure.error)
          | .ok () => .ok (settings.artifactPath type)) := by
  unfold generated
  cases h : settings.rendered w.tree w.cwd type with
  | error e =>
      obtain ⟨htree, hresult⟩ := settings.options.generateMatcher_of_error w h
      rw [htree, hresult]
  | ok artifact =>
      obtain ⟨htree, hresult⟩ := settings.options.generateMatcher_of_ok w h
      have hdir : (settings.artifactPath type).parent?.getD settings.options.outputDir =
          settings.artifactDir type := rfl
      rw [htree, hresult, settings.path_of_rendered h, hdir]

/-- A matcher that cannot be rendered touches nothing. -/
theorem generated_of_error {w : Workspace} {type : StructType} {e : GenerateError}
    (h : settings.rendered w.tree w.cwd type = .error e) :
    settings.generated w type = (w.tree, .error e) := by
  rw [generated_eq, h]

/-- A matcher that is rendered replaces the file of its type. -/
theorem generated_of_ok {w : Workspace} {type : StructType} {artifact : Artifact}
    (h : settings.rendered w.tree w.cwd type = .ok artifact) :
    let replaced := w.tree.replaceFile (w.faults 0) w.cwd (settings.artifactDir type)
      (settings.artifactPath type) artifact.source
    settings.generated w type = (replaced.1,
      match replaced.2 with
      | .error failure => .error (.file failure.path failure.error)
      | .ok () => .ok (settings.artifactPath type)) := by
  rw [generated_eq, h]

/-- The text of a matcher plays no part in whether its file can be written. -/
theorem generated_of_replaceFile {w : Workspace} {type : StructType} {artifact : Artifact}
    {text : String} {result : Except PathFailure Unit}
    (h : settings.rendered w.tree w.cwd type = .ok artifact)
    (hreplace : (w.tree.replaceFile (w.faults 0) w.cwd (settings.artifactDir type)
      (settings.artifactPath type) text).2 = result) :
    (settings.generated w type).2 =
      (result.mapError fun failure => .file failure.path failure.error).map
        fun _ => settings.artifactPath type := by
  have hpath := settings.path_of_rendered h
  rw [artifactDir, ← hpath] at hreplace
  rw [← hpath]
  exact settings.options.generateMatcher_of_replaceFile w h hreplace

/-- A matcher is generated only where the device refuses no step but making a directory. -/
theorem refusals_of_generated {w : Workspace} {type : StructType} {path : Path}
    (h : (settings.generated w type).2 = .ok path) {step : ReplacementStep}
    (hstep : ∀ depth, step ≠ .makeDirectory depth) : w.faults 0 step = none := by
  cases hrendered : settings.rendered w.tree w.cwd type with
  | error e =>
      rw [settings.generated_of_error hrendered] at h
      exact absurd h (by simp)
  | ok artifact =>
      rw [settings.generated_of_ok hrendered] at h
      cases hreplace : (w.tree.replaceFile (w.faults 0) w.cwd (settings.artifactDir type)
          (settings.artifactPath type) artifact.source).2 with
      | error failure =>
          rw [hreplace] at h
          exact absurd h (by simp)
      | ok => exact refusals_of_replaceFile hreplace hstep

/-- Generating one matcher writes to its file only. -/
theorem writesWithin_generated (w : Workspace) (type : StructType) :
    WritesWithin [settings.artifactPlace w.cwd type] w.tree (settings.generated w type).1 := by
  cases h : settings.rendered w.tree w.cwd type with
  | error e =>
      rw [settings.generated_of_error h]
      exact .refl _ _
  | ok artifact =>
      rw [settings.generated_of_ok h]
      exact writesWithin_replaceFile _ _ _ _ _ _

theorem lawful_generated {w : Workspace} (hlawful : w.tree.Lawful)
    (hcwd : w.tree.entryAt? w.cwd = some .directory) (type : StructType) :
    (settings.generated w type).1.Lawful := by
  cases h : settings.rendered w.tree w.cwd type with
  | error e =>
      rw [settings.generated_of_error h]
      exact hlawful
  | ok artifact =>
      rw [settings.generated_of_ok h]
      exact hlawful.replaceFile hcwd _ _ _ _

/-- Generating one matcher leaves what has a name that is not on the way to it. -/
theorem entryAt?_generated {w : Workspace} (hlawful : w.tree.Lawful)
    (hcwd : w.tree.entryAt? w.cwd = some .directory) {type : StructType} {name : String}
    (hname : .name name ∉ (settings.artifactDir type).components) {place : Location}
    (hplace : place ++ [name] ≠ settings.artifactPlace w.cwd type) :
    (settings.generated w type).1.entryAt? (place ++ [name]) =
      w.tree.entryAt? (place ++ [name]) := by
  cases h : settings.rendered w.tree w.cwd type with
  | error e => rw [settings.generated_of_error h]
  | ok artifact =>
      rw [settings.generated_of_ok h]
      exact hlawful.entryAt?_replaceFile hcwd hname hplace _ _

/-- A matcher that was generated was rendered before, and its file holds it. -/
theorem holds_generated {w : Workspace} {type : StructType} {path : Path}
    (h : (settings.generated w type).2 = .ok path) :
    path = settings.artifactPath type ∧
      ∃ artifact, settings.rendered w.tree w.cwd type = .ok artifact ∧
        (settings.generated w type).1.Holds w.cwd (settings.artifactDir type)
          (settings.artifactPath type) artifact.source := by
  cases hrendered : settings.rendered w.tree w.cwd type with
  | error e =>
      rw [settings.generated_of_error hrendered] at h
      exact absurd h (by simp)
  | ok artifact =>
      have hgenerated := settings.generated_of_ok hrendered
      rw [hgenerated] at h ⊢
      cases hreplace : w.tree.replaceFile (w.faults 0) w.cwd (settings.artifactDir type)
          (settings.artifactPath type) artifact.source with
      | mk tree outcome =>
          rw [hreplace] at h
          cases outcome with
          | error failure => exact absurd h (by simp)
          | ok => exact ⟨(Except.ok.inj h).symm, artifact, rfl, holds_of_replaceFile hreplace⟩

/-! ## The matchers of several types -/

/-- The tree and the result of generating the matchers of several types. -/
def generatedAll (w : Workspace) (types : List StructType) :
    FileTree × Except BatchError (List Path) :=
  ((settings.generateAll w types).1, (settings.generateAll w types).2.result)

/-- The first failure ends the batch. -/
theorem generatedAll_cons_of_error {w : Workspace} {type : StructType} {rest : List StructType}
    {e : GenerateError} (h : (settings.generated w type).2 = .error e) :
    settings.generatedAll w (type :: rest) =
      ((settings.generated w type).1, .error (.generating type.qualifiedName e)) := by
  have hresult : (settings.options.generateMatcher (w.tree.fieldsOf w.cwd) type w).2.result =
      .error e := h
  rw [generatedAll, generateAll]
  simp only [hresult]
  rfl

/-- After a success the batch goes on with the tree that is left. -/
theorem generatedAll_cons_of_ok {w : Workspace} {type : StructType} {rest : List StructType}
    {path : Path} (h : (settings.generated w type).2 = .ok path) :
    let others := settings.generatedAll (w.after 1 (settings.generated w type).1) rest
    settings.generatedAll w (type :: rest) = (others.1, others.2.map (path :: ·)) := by
  have hresult : (settings.options.generateMatcher (w.tree.fieldsOf w.cwd) type w).2.result =
      .ok path := h
  intro others
  rw [generatedAll, generateAll]
  simp only [hresult]
  rfl

/-- After the first types of a batch were generated, it goes on with the others. -/
theorem generatedAll_append_of_ok {w : Workspace} {before : List StructType}
    {paths : List Path} (h : (settings.generatedAll w before).2 = .ok paths)
    (rest : List StructType) :
    let others := settings.generatedAll
      (w.after before.length (settings.generatedAll w before).1) rest
    settings.generatedAll w (before ++ rest) = (others.1, others.2.map (paths ++ ·)) := by
  induction before generalizing w paths with
  | nil =>
      obtain rfl := Except.ok.inj h
      intro others
      refine Prod.ext rfl ?_
      show others.2 = others.2.map ([] ++ ·)
      cases others.2 <;> rfl
  | cons first before ih =>
      cases hfirst : (settings.generated w first).2 with
      | error e =>
          rw [settings.generatedAll_cons_of_error hfirst] at h
          exact absurd h (by simp)
      | ok path =>
          rw [settings.generatedAll_cons_of_ok hfirst] at h
          obtain ⟨between, hbetween, rfl⟩ := map_eq_ok_iff.1 h
          intro others
          have hothers : others = settings.generatedAll
              ((w.after 1 (settings.generated w first).1).after before.length (settings.generatedAll
                (w.after 1 (settings.generated w first).1) before).1) rest := by
            simp only [others, settings.generatedAll_cons_of_ok hfirst]
            rfl
          rw [List.cons_append, settings.generatedAll_cons_of_ok hfirst, ih hbetween, ← hothers]
          refine Prod.ext rfl ?_
          cases others.2 <;> rfl

/-- A batch writes to the files of its matchers only, whether it succeeds or not. -/
theorem writesWithin_generatedAll (w : Workspace) (types : List StructType) :
    WritesWithin (types.map (settings.artifactPlace w.cwd)) w.tree
      (settings.generatedAll w types).1 := by
  induction types generalizing w with
  | nil => exact .refl _ _
  | cons type rest ih =>
      have hfirst : WritesWithin ((type :: rest).map (settings.artifactPlace w.cwd)) w.tree
          (settings.generated w type).1 :=
        (settings.writesWithin_generated w type).mono (by simp)
      cases h : (settings.generated w type).2 with
      | error e =>
          rw [settings.generatedAll_cons_of_error h]
          exact hfirst
      | ok path =>
          rw [settings.generatedAll_cons_of_ok h]
          exact hfirst.trans ((ih (w.after 1 (settings.generated w type).1)).mono (by simp))

/-- A batch keeps the tree lawful, whether it succeeds or not. -/
theorem lawful_generatedAll {w : Workspace} (hlawful : w.tree.Lawful)
    (hcwd : w.tree.entryAt? w.cwd = some .directory) (types : List StructType) :
    (settings.generatedAll w types).1.Lawful := by
  induction types generalizing w with
  | nil => exact hlawful
  | cons type rest ih =>
      have hfirst := settings.lawful_generated hlawful hcwd type
      cases h : (settings.generated w type).2 with
      | error e =>
          rw [settings.generatedAll_cons_of_error h]
          exact hfirst
      | ok path =>
          rw [settings.generatedAll_cons_of_ok h]
          exact ih hfirst ((settings.writesWithin_generated w type).directory _ hcwd)

/-- A batch leaves what has a name that is not on the way to any matcher. -/
theorem entryAt?_generatedAll {w : Workspace} (hlawful : w.tree.Lawful)
    (hcwd : w.tree.entryAt? w.cwd = some .directory) {types : List StructType} {name : String}
    (hname : ∀ type ∈ types, .name name ∉ (settings.artifactDir type).components)
    {place : Location} (hplace : place ++ [name] ∉ types.map (settings.artifactPlace w.cwd)) :
    (settings.generatedAll w types).1.entryAt? (place ++ [name]) =
      w.tree.entryAt? (place ++ [name]) := by
  induction types generalizing w with
  | nil => rfl
  | cons type rest ih =>
      rw [List.forall_mem_cons] at hname
      rw [List.map_cons, List.mem_cons, not_or] at hplace
      have hfirst := settings.entryAt?_generated hlawful hcwd hname.1 hplace.1
      cases h : (settings.generated w type).2 with
      | error e =>
          rw [settings.generatedAll_cons_of_error h]
          exact hfirst
      | ok path =>
          rw [settings.generatedAll_cons_of_ok h]
          have hrest := ih (w := w.after 1 (settings.generated w type).1)
            (settings.lawful_generated hlawful hcwd type)
            ((settings.writesWithin_generated w type).directory _ hcwd) hname.2 hplace.2
          exact hrest.trans hfirst

/-- A batch that succeeds returns the paths of all matchers in the order of their types. -/
theorem paths_of_generatedAll {w : Workspace} {types : List StructType} {paths : List Path}
    (h : (settings.generatedAll w types).2 = .ok paths) :
    paths = types.map settings.artifactPath := by
  induction types generalizing w paths with
  | nil => exact (Except.ok.inj h).symm
  | cons type rest ih =>
      cases hfirst : (settings.generated w type).2 with
      | error e =>
          rw [settings.generatedAll_cons_of_error hfirst] at h
          exact absurd h (by simp)
      | ok path =>
          rw [settings.generatedAll_cons_of_ok hfirst] at h
          obtain ⟨others, hothers, rfl⟩ := map_eq_ok_iff.1 h
          rw [ih hothers, (settings.holds_generated hfirst).1, List.map_cons]

/-- In a batch that succeeds, every matcher is rendered from the tree in which those before it were
written, and its file holds it in the end unless it is that of a later matcher. -/
theorem generatedAll_append {w : Workspace} {before after : List StructType} {type : StructType}
    {paths : List Path}
    (h : (settings.generatedAll w (before ++ type :: after)).2 = .ok paths) :
    ∃ tree artifact, WritesWithin (before.map (settings.artifactPlace w.cwd)) w.tree tree ∧
      settings.rendered tree w.cwd type = .ok artifact ∧
      (settings.artifactPlace w.cwd type ∉ after.map (settings.artifactPlace w.cwd) →
        (settings.generatedAll w (before ++ type :: after)).1.Holds w.cwd
          (settings.artifactDir type) (settings.artifactPath type) artifact.source) := by
  -- by induction on the types before this one, each of which writes to its own place only
  induction before generalizing w paths with
  | nil =>
      rw [List.nil_append] at h ⊢
      cases hfirst : (settings.generated w type).2 with
      | error e =>
          rw [settings.generatedAll_cons_of_error hfirst] at h
          exact absurd h (by simp)
      | ok path =>
          obtain ⟨-, artifact, hrendered, hholds⟩ := settings.holds_generated hfirst
          refine ⟨w.tree, artifact, .refl _ _, hrendered, fun hplace => ?_⟩
          have hrest := settings.writesWithin_generatedAll
            (w.after 1 (settings.generated w type).1) after
          rw [settings.generatedAll_cons_of_ok hfirst]
          exact hholds.of_writesWithin hrest hplace
  | cons first before ih =>
      rw [List.cons_append] at h ⊢
      cases hfirst : (settings.generated w first).2 with
      | error e =>
          rw [settings.generatedAll_cons_of_error hfirst] at h
          exact absurd h (by simp)
      | ok path =>
          rw [settings.generatedAll_cons_of_ok hfirst] at h ⊢
          obtain ⟨others, hothers, -⟩ := map_eq_ok_iff.1 h
          obtain ⟨tree, artifact, hwrites, hrendered, hholds⟩ := ih hothers
          refine ⟨tree, artifact, ?_, hrendered, hholds⟩
          exact ((settings.writesWithin_generated w first).mono (by simp)).trans
            (hwrites.mono (by simp))

/-! ## A run -/

/-- A run generates the matchers of the types that it discovers. -/
theorem run_of_discover {w : Workspace} {types : List StructType}
    (h : (settings.discover w.tree w.cwd).result = .ok types) :
    ((settings.run w).1, (settings.run w).2.result) = settings.generatedAll w types := by
  unfold run
  simp only [h]
  rw [generatedAll, Logged.result_bind, Logged.result_bind]
  cases (settings.generateAll w types).2.result <;> rfl

/-- Where one type is discovered, a run comes to what generating its matcher comes to. -/
theorem run_of_generated {w : Workspace} {type : StructType} {result : Except GenerateError Path}
    (hdiscover : (settings.discover w.tree w.cwd).result = .ok [type])
    (h : (settings.generated w type).2 = result) :
    (settings.run w).2.result =
      (result.mapError (.generating type.qualifiedName)).map ([·]) := by
  have hrun := settings.run_of_discover hdiscover
  cases result with
  | error e =>
      rw [settings.generatedAll_cons_of_error h] at hrun
      exact (Prod.mk.inj hrun).2
  | ok path =>
      rw [settings.generatedAll_cons_of_ok h] at hrun
      exact (Prod.mk.inj hrun).2

/-- A run that succeeds leaves what generating the matchers of its types leaves. -/
theorem generatedAll_of_run {w : Workspace} {types : List StructType} {paths : List Path}
    (hdiscover : (settings.discover w.tree w.cwd).result = .ok types)
    (hrun : (settings.run w).2.result = .ok paths) :
    (settings.run w).1 = (settings.generatedAll w types).1 ∧
      (settings.generatedAll w types).2 = .ok paths := by
  have hgenerated := settings.run_of_discover hdiscover
  constructor
  · rw [← hgenerated]
  · rw [← hgenerated, hrun]

/-- The matchers of the types that are discovered have proper paths. -/
theorem isFileName_matcherWay {tree : FileTree} {cwd : Location} {types : List StructType}
    (hlawful : tree.Lawful) (h : (settings.discover tree cwd).result = .ok types) :
    ∀ type ∈ types, ∀ name ∈ matcherWay type, IsFileName name := by
  intro type htype
  obtain ⟨root, -, way, text, items, hdeclares⟩ :=
    settings.declares_of_mem_discover hlawful h htype
  exact hdeclares.isFileName_matcherWay hlawful

end BatchSettings

end StructMatch
