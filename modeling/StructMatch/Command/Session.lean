import StructMatch.Command.Project
import StructMatch.Console.Json
import StructMatch.Console.Table

/-!
# Calls of the program

A call reads its arguments, finds the project, and generates or checks its matchers.  What it writes
goes to two channels: results and remarks to the first one, failures and details to the second one.
Results are a table or a JSON document.  A document stands alone, without remarks beside it, and a
quiet call writes nothing but failures.
-/

namespace StructMatch.Command

open Console

/-! ## Texts of a call -/

/-- The kind of a remark. -/
inductive Tone where
  | success
  | failure
  | warning
  | info
  | detail
deriving DecidableEq

/-- The sign before a remark. -/
def Tone.icon : Tone → String
  | success => "✓"
  | failure => "✗"
  | warning => "⚠"
  | info => "ℹ"
  | detail => "→"

/-- The line of a remark. -/
def Tone.line (tone : Tone) (text : String) : String := tone.icon ++ " " ++ text ++ "\n"

namespace Presentation

variable (p : Presentation)

/-- Whether there are remarks beside the results. -/
def showsRemarks : Bool := !p.quiet && p.format ≠ .json

/-- A remark on the results. -/
def remark (tone : Tone) (text : String) : String := if p.showsRemarks then tone.line text else ""

/-- A remark that is shown only on demand. -/
def detail (text : String) : String :=
  if p.verbose && !p.quiet then Tone.detail.line text else ""

/-- The lines of a log that are shown: without demand for details, only those that tell of a
trouble. -/
def shownLog (log : List LogLine) : List LogLine :=
  log.filter fun line => p.verbose || line.level = .error || line.level = .warn

/-- The text above the results. -/
def heading (text : String) : String :=
  if p.showsRemarks then
    "\n" ++ text ++ "\n" ++
      (if p.noColor then replicated '=' text.utf8ByteSize ++ "\n" else "")
  else ""

/-- The results, as a table or as a document. -/
def results (table : Table) (document : Json) : String :=
  if p.quiet then ""
  else
    match p.format with
    | .json => document.render ++ "\n"
    | .table => (if p.noColor then TableStyle.ascii else TableStyle.boxes).draw table ++ "\n"

end Presentation

/-- What a call leaves behind beside its files. -/
structure Outcome where
  code : Nat
  /-- The text on the channel for results. -/
  out : String := ""
  /-- The text on the channel for failures. -/
  err : String := ""
  /-- The lines of the log that are shown. -/
  log : List LogLine := []

/-- The code of a failure. -/
def CallError.code : CallError → Nat
  | batch (.generating _ cause) | batch (.rendering _ cause) => if cause.isFatal then 101 else 1
  | _ => 1

/-- The outcome of a call that fails after it has written the given texts. -/
def Outcome.ofError (error : CallError) (out err : String) (log : List LogLine) : Outcome where
  code := error.code
  out := out
  err := err ++ Tone.failure.line error.message
  log := log

/-! ## Generating -/

/-- The table of written files. -/
def writtenTable (files : List String) : Table where
  header := ["#", "Generated file"]
  rows := files.mapIdx fun i file => [toString (i + 1), file]

/-- The document of written files. -/
def writtenDocument (files : List String) : Json := .record [("files", .list (files.map .text))]

/-- What a call says about written files. -/
def writtenReport (p : Presentation) (files : List String) : String :=
  let results := p.results (writtenTable files) (writtenDocument files)
  if files.isEmpty then
    p.remark .warning "No structs found in the configured packages" ++ results
  else
    results ++ p.remark .success ("Generated " ++ toString files.length ++ " matchers")

/-- Generates the matchers of the project that the working directory lies in. -/
def generate (w : Workspace) (source : SourceOptions) (p : Presentation) : FileTree × Outcome :=
  match Project.find w.tree w.cwd with
  | .error e => (w.tree, .ofError e "" "" [])
  | .ok project =>
    let configFile := Config.fileIn project.root
    let err :=
      if w.tree.hasEntry w.cwd configFile then ""
      else p.detail ("No " ++ configFile.text ++ " found, using defaults")
    let out := p.heading "Generating matchers"
    let (tree, written) := (project.settings source).run w
    match written.result with
    | .error e => (tree, .ofError (.batch e) out err (p.shownLog written.log))
    | .ok paths =>
      (tree, ⟨0, out ++ writtenReport p (paths.map project.shown), err, p.shownLog written.log⟩)

/-! ## Checking -/

/-- The name of a status in a document. -/
def statusName : CheckStatus → String
  | .upToDate => "up_to_date"
  | .stale => "stale"
  | .missing => "missing"
  | .orphaned => "orphaned"

/-- The reports of a check with the paths as they are shown. -/
structure CheckSummary where
  files : List (String × String × CheckStatus)

namespace CheckSummary

/-- The reports of a check in a project. -/
def ofReports (project : Project) (reports : List CheckReport) : CheckSummary :=
  ⟨reports.map fun report => (report.typeName, project.shown report.file, report.status)⟩

variable (summary : CheckSummary)

/-- How many of the files need attention. -/
def problems : Nat := summary.files.countP fun file => file.2.2.isProblem

/-- How many of the files hold what they should. -/
def upToDate : Nat := summary.files.length - summary.problems

/-- The table of a summary. -/
def table : Table where
  header := ["Type", "File", "Status"]
  rows := summary.files.map fun (type, file, status) => [type, file, status.text]

/-- The document of a summary. -/
def document : Json :=
  .record [("up_to_date", .count summary.upToDate), ("problems", .count summary.problems),
    ("files", .list (summary.files.map fun (type, file, status) =>
      .record [("type_name", .text type), ("file", .text file),
        ("status", .text (statusName status))]))]

end CheckSummary

/-- Checks the matchers of the project that the working directory lies in. -/
def check (tree : FileTree) (cwd : Location) (source : SourceOptions) (p : Presentation) :
    Outcome :=
  match Project.find tree cwd with
  | .error e => .ofError e "" "" []
  | .ok project =>
    let heading := p.heading "Checking generated matchers"
    let checked := (project.settings source).check tree cwd
    let log := p.shownLog checked.log
    match checked.result with
    | .error e => .ofError (.batch e) heading "" log
    | .ok reports =>
      let summary := CheckSummary.ofReports project reports
      let out := heading ++ p.results summary.table summary.document
      if summary.problems = 0 then
        let praise := "All " ++ toString summary.upToDate ++ " matchers are up to date"
        ⟨0, out ++ p.remark .success praise, "", log⟩
      else
        let advice := "Run 'beanmatch-build generate' to bring them up to date"
        .ofError (.needAttention summary.problems summary.files.length)
          (out ++ p.remark .info advice) "" log

/-! ## Calls -/

/-- The directories that a call reads and writes, once its project and its arguments are known. -/
def directories (tree : FileTree) (cwd : Location) (arguments : List String) : List Path :=
  match Request.parse? arguments, Project.find tree cwd with
  | some (.run _ source _), .ok project =>
    let settings := project.settings source
    settings.outputDir :: settings.effectiveScanPaths
  | _, _ => []

/-- The name of the program and its version. -/
def versionText : String := "beanmatch-build 0.1.0\n"

/-- How the program is called. -/
def usageText : String :=
  "Usage: beanmatch-build [--output table|json] [-q] [-v] [--no-color] generate|check\n" ++
    "         [--source-dir DIR]... [--output-dir DIR] [--package MODULE]...\n" ++
    "         [--naming snake|camel]\n"

/-- Carries out a call with the given arguments. -/
def execute (w : Workspace) (arguments : List String) : FileTree × Outcome :=
  match Request.parse? arguments with
  | none => (w.tree, { code := 2, err := usageText })
  | some .version => (w.tree, { code := 0, out := versionText })
  | some .help => (w.tree, { code := 0, out := usageText })
  | some (.run .generate source p) => generate w source p
  | some (.run .check source p) => (w.tree, check w.tree w.cwd source p)

end StructMatch.Command
