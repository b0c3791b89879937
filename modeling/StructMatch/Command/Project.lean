import StructMatch.Batch.ConfigFile
import StructMatch.Batch.Run
import StructMatch.Command.Arguments
import StructMatch.Text.Escape

/-!
# Projects

A project lies in a directory with the file `Cargo.toml`.  A call may be made anywhere inside of the
project, so its root is looked for from the working directory upwards, and the nearest one counts.
-/

namespace StructMatch.Command

/-- The file that marks the root of a project. -/
def projectMark : String := "Cargo.toml"

/-- Whether a path leads to the root of a project. -/
def isProjectRoot (tree : FileTree) (cwd : Location) (path : Path) : Bool :=
  tree.hasEntry cwd (path.join ⟨projectMark⟩)

/-- The root of the project that a path lies in: the path itself or the nearest one on the way
up. -/
def projectRoot? (tree : FileTree) (cwd : Location) (path : Path) : Option Path :=
  if isProjectRoot tree cwd path then some path
  else
    match _ : path.parent? with
    | none => none
    | some above => projectRoot? tree cwd above
termination_by path.text.length
decreasing_by exact Path.length_parent?_lt ‹_›

/-- Why a call failed. -/
inductive CallError where
  /-- Neither the working directory nor one above it is the root of a project. -/
  | noProject (start : Location)
  | config (cause : ConfigError)
  | batch (cause : BatchError)
  /-- Some of the files do not hold what they should. -/
  | needAttention (problems total : Nat)
deriving DecidableEq

/-- The text of a failure. -/
def CallError.message : CallError → String
  | noProject start =>
    "Could not find Cargo.toml in " ++ Text.quotePath (Location.path start).text ++
      " or any parent directory. Are you in a Rust project?"
  | config cause => cause.message
  | batch cause => cause.message
  | needAttention problems total =>
    toString problems ++ " of " ++ toString total ++ " matcher files need attention"

/-- A project with its configuration. -/
structure Project where
  root : Path
  config : Config

namespace Project

/-- The project that a location lies in. -/
def find (tree : FileTree) (start : Location) : Except CallError Project :=
  match projectRoot? tree start (Location.path start) with
  | none => .error (.noProject start)
  | some root =>
    match Config.loadOrDefault tree start root with
    | .error e => .error (.config e)
    | .ok config => .ok ⟨root, config⟩

/-- A path as it is shown: from the root of the project on, if the path lies inside of it. -/
def shown (project : Project) (path : Path) : String :=
  ((path.after? project.root).getD path).text

end Project

/-- The configuration with the settings that the options of a call replace. -/
def SourceOptions.apply (options : SourceOptions) (config : Config) : Config where
  generator := { config.generator with
    outputDir := options.outputDir?.getD config.generator.outputDir
    naming := options.naming?.getD config.generator.naming }
  scan := {
    sourceDirs :=
      if options.sourceDirs.isEmpty then config.scan.sourceDirs else options.sourceDirs
    packages := if options.packages.isEmpty then config.scan.packages else options.packages }

/-- The settings of the batch that a call asks for. -/
def Project.settings (project : Project) (options : SourceOptions) : BatchSettings :=
  .ofConfig (options.apply project.config) project.root

end StructMatch.Command
