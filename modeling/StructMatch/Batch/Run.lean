import StructMatch.Batch.Scan
import StructMatch.Batch.Settings
import StructMatch.Code.Emission

/-!
# Running a batch

A batch discovers the types of all directories that it scans, and generates their matchers in the
order of their full paths.  The first failure ends it.  A check compares the files that are there
with those that a run would write, and reports as orphaned every other file in the output directory
that names the same generator.
-/

namespace StructMatch

/-- Why a batch ended early. -/
inductive BatchError where
  /-- A directory to scan is none. -/
  | notADirectory (root : Path)
  | generating (type : String) (cause : GenerateError)
  | rendering (type : String) (cause : GenerateError)
  | unreadable (path : Path) (cause : FileError)
deriving DecidableEq

/-- The text of the failure of one matcher with its own cause after it, if it has one. -/
def GenerateError.chain (e : GenerateError) : String :=
  match e with
  | .file _ cause => e.message ++ ": " ++ cause.message
  | _ => e.message

/-- The text of a failure, from the outermost cause on. -/
def BatchError.message : BatchError → String
  | notADirectory root =>
    "Failed to scan " ++ root.text ++ ": " ++ root.text ++ " is not a directory"
  | generating type cause => "Failed to generate matcher for " ++ type ++ ": " ++ cause.chain
  | rendering type cause => "Failed to render matcher for " ++ type ++ ": " ++ cause.chain
  | unreadable path cause => "Failed to read " ++ path.text ++ ": " ++ cause.message

/-- How a file compares to the matcher that it should hold. -/
inductive CheckStatus where
  | upToDate
  | stale
  | missing
  /-- The type that the file is based on was not found. -/
  | orphaned
deriving DecidableEq

/-- A status in words. -/
def CheckStatus.text : CheckStatus → String
  | upToDate => "up to date"
  | stale => "stale"
  | missing => "missing"
  | orphaned => "orphaned"

/-- Whether a status calls for action. -/
def CheckStatus.isProblem (status : CheckStatus) : Bool := status ≠ .upToDate

/-- The status of one file. -/
structure CheckReport where
  typeName : String
  file : Path
  status : CheckStatus
deriving DecidableEq

namespace BatchSettings

variable (settings : BatchSettings)

/-- How single matchers are generated. -/
def options : GeneratorOptions :=
  ⟨settings.outputDir, settings.naming, settings.runtime, settings.generatorName⟩

/-- The types of the directories, one directory after the other. -/
def scanAll (tree : FileTree) (cwd : Location) :
    List Path → Logged (Except BatchError (List StructType))
  | [] => return .ok []
  | root :: rest =>
    match scanDirectory tree cwd root "crate" settings.effectivePackages with
    | none => return .error (.notADirectory root)
    | some scan => do
      let types ← scan
      return (← scanAll tree cwd rest).map (types ++ ·)

/-- The types that matchers are generated for, in the order of their full paths. -/
def discover (tree : FileTree) (cwd : Location) : Logged (Except BatchError (List StructType)) := do
  return (← settings.scanAll tree cwd settings.effectiveScanPaths).map sortedByName

/-- Generates the matchers of types, one after the other. -/
def generateAll (w : Workspace) :
    List StructType → FileTree × Logged (Except BatchError (List Path))
  | [] => (w.tree, return .ok [])
  | type :: rest =>
    let (tree, generated) := settings.options.generateMatcher (w.tree.fieldsOf w.cwd) type w
    match generated.result with
    | .error e => (tree, do
      let _ ← generated
      return .error (.generating type.qualifiedName e))
    | .ok path =>
      let (tree, others) := generateAll (w.after 1 tree) rest
      (tree, do
        let _ ← generated
        return (← others).map (path :: ·))

/-- Generates the matchers of all types. -/
def run (w : Workspace) : FileTree × Logged (Except BatchError (List Path)) :=
  let discovered := settings.discover w.tree w.cwd
  match discovered.result with
  | .error e => (w.tree, do
    let _ ← discovered
    return .error e)
  | .ok types =>
    let (tree, generated) := settings.generateAll w types
    (tree, do
      let _ ← discovered
      match ← generated with
      | .error e => return .error e
      | .ok paths =>
        .line .info ("Generated " ++ toString paths.length ++ " matchers in " ++
          settings.outputDir.text)
        return .ok paths)

/-! ## Checking -/

/-- The status of the file of a matcher, unless it cannot be read. -/
def statusOf (tree : FileTree) (cwd : Location) (artifact : Artifact) :
    Except FileError CheckStatus :=
  match tree.readText cwd artifact.path with
  | .ok text => .ok (if text = artifact.source then .upToDate else .stale)
  | .error .notFound => .ok .missing
  | .error e => .error e

/-- The reports for types, one after the other. -/
def reportsFor (tree : FileTree) (cwd : Location) :
    List StructType → Logged (Except BatchError (List CheckReport))
  | [] => return .ok []
  | type :: rest => do
    match ← settings.options.renderMatcher (tree.fieldsOf cwd) type with
    | .error e => return .error (.rendering type.qualifiedName e)
    | .ok artifact =>
      match statusOf tree cwd artifact with
      | .error e => return .error (.unreadable artifact.path e)
      | .ok status =>
        return (← reportsFor tree cwd rest).map
          (⟨type.qualifiedName, artifact.path, status⟩ :: ·)

/-- The report for a file in the output directory, if it names this generator. -/
def orphanIn? (file : Path) (text : String) : Option CheckReport :=
  match Provenance.read? text with
  | some origin =>
    if origin.generatedBy = settings.generatorName then some ⟨origin.basedOn, file, .orphaned⟩
    else none
  | none => none

/-- The reports for the files that no type accounts for. -/
def orphansAmong (expected : List Path) :
    List (Location × Content) → Except BatchError (List CheckReport)
  | [] => .ok []
  | (way, content) :: rest =>
    let file := pathBelow settings.outputDir way
    if !way.getLast?.any isSourceName || expected.any fun p => p.components = file.components then
      orphansAmong expected rest
    else
      match content with
      | .bytes _ => .error (.unreadable file .invalidText)
      | .text text =>
        (orphansAmong expected rest).map ((settings.orphanIn? file text).toList ++ ·)

/-- The reports for the files in the output directory that no type accounts for. -/
def orphans (tree : FileTree) (cwd : Location) (expected : List Path) :
    Except BatchError (List CheckReport) :=
  if tree.isDirectory cwd settings.outputDir then
    settings.orphansAmong expected (tree.walk cwd settings.outputDir)
  else .ok []

/-- Compares the files that are there with those that a run would write. -/
def check (tree : FileTree) (cwd : Location) :
    Logged (Except BatchError (List CheckReport)) := do
  match ← settings.discover tree cwd with
  | .error e => return .error e
  | .ok types =>
    match ← settings.reportsFor tree cwd types with
    | .error e => return .error e
    | .ok reports =>
      return (settings.orphans tree cwd (reports.map (·.file))).map (reports ++ ·)

end BatchSettings

end StructMatch
