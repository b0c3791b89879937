import StructMatch.Code.Rendering
import StructMatch.FileTree.Replacement
import StructMatch.Properties

/-!
# Writing matchers

A matcher is generated for one type in three steps: its properties are read, the specification is
built from them, and the specification is rendered and written.  A type whose fields cannot be read
gets a matcher without properties, but a type with parameters gets none.  Only the last step touches
the file tree, and rendering comes before it, so that nothing is written for a matcher that cannot
be rendered.
-/

namespace StructMatch

/-- The text of a matcher and the file it belongs in. -/
structure Artifact where
  path : Path
  source : String
deriving DecidableEq

/-- Where and how matchers are generated. -/
structure GeneratorOptions where
  outputDir : Path
  naming : Naming := .snake
  runtime : String := defaultRuntime
  generatorName : String := defaultGeneratorName

/-- A place in which files are read and written: the tree, the working directory, and what the
device refuses at each replacement that is to come. -/
structure Workspace where
  tree : FileTree
  cwd : Location
  faults : Faults := noFaults

/-- The place after some replacements, which have left a tree. -/
def Workspace.after (w : Workspace) (count : Nat) (tree : FileTree) : Workspace :=
  ⟨tree, w.cwd, fun n => w.faults (n + count)⟩

namespace MatcherSpec

/-- Renders a specification and replaces the file it belongs in. -/
def emit (spec : MatcherSpec) (runtime : String) (outputDir : Path) (w : Workspace) :
    FileTree × Logged (Except GenerateError Artifact) :=
  match spec.render runtime with
  | .error e => (w.tree, pure (.error e))
  | .ok source =>
    let path := spec.artifactPath outputDir
    let dir := path.parent?.getD outputDir
    match w.tree.replaceFile (w.faults 0) w.cwd dir path source with
    | (tree, .error failure) => (tree, pure (.error (.file failure.path failure.error)))
    | (tree, .ok ()) =>
      (tree, do
        .line .info ("Generated " ++ path.text ++ " for " ++ spec.target.qualifiedName)
        return .ok ⟨path, source⟩)

end MatcherSpec

namespace GeneratorOptions

variable (options : GeneratorOptions)

/-- The properties that a type gets matchers for. -/
def propertiesFor (introspect : Introspector) (type : StructType) :
    Logged (Except GenerateError (List String)) :=
  match tryPropertiesOf introspect type with
  | .ok names => pure (.ok names)
  | .error (.generic name) => pure (.error (.generic name))
  | .error error => do
    reportUnreadable type error
    return .ok []

/-- The specification of the matcher for a type. -/
def specFor (type : StructType) (properties : List String) : MatcherSpec :=
  .build options.naming options.generatorName type properties

/-- The matcher of a type, without writing it. -/
def renderMatcher (introspect : Introspector) (type : StructType) :
    Logged (Except GenerateError Artifact) := do
  match ← propertiesFor introspect type with
  | .error e => return .error e
  | .ok properties =>
    let spec := options.specFor type properties
    return (spec.render options.runtime).map fun source =>
      ⟨spec.artifactPath options.outputDir, source⟩

/-- Writes the matcher of a type. -/
def generateMatcher (introspect : Introspector) (type : StructType) (w : Workspace) :
    FileTree × Logged (Except GenerateError Path) :=
  let properties := propertiesFor introspect type
  match properties.result with
  | .error e => (w.tree, do
    let _ ← properties
    return .error e)
  | .ok names =>
    let (tree, emitted) := (options.specFor type names).emit options.runtime options.outputDir w
    (tree, do
      let _ ← properties
      return (← emitted).map (·.path))

end GeneratorOptions

end StructMatch
