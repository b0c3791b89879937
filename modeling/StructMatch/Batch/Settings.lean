import StructMatch.Code.Rendering

/-!
# Settings of a batch

A batch generates the matchers of all structs that it finds.  Its settings come from a
configuration, from calls that change one setting each, or from both.  Packages that come from a
configuration give way to the first package that is named by a call, while all other lists only
grow.
-/

namespace StructMatch

/-- The settings of the generator in a configuration. -/
structure GeneratorSettings where
  outputDir : String := "src/generated"
  runtime : String := defaultRuntime
  naming : Naming := .snake
  generatorName : String := defaultGeneratorName
deriving DecidableEq

/-- The settings of the scan in a configuration. -/
structure ScanSettings where
  sourceDirs : List String := ["src"]
  packages : List String := ["crate"]
deriving DecidableEq

/-- A configuration. -/
structure Config where
  generator : GeneratorSettings := {}
  scan : ScanSettings := {}
deriving DecidableEq

/-- The settings of a batch. -/
structure BatchSettings where
  scanPaths : List Path := []
  packages : List String := []
  /-- Whether the packages give way to the first one that is named. -/
  packagesAreDefaults : Bool := false
  outputDir : Path := ⟨"src/generated"⟩
  naming : Naming := .snake
  runtime : String := defaultRuntime
  generatorName : String := defaultGeneratorName

/-- A change of one setting. -/
inductive SettingCall where
  | scanPath (path : Path)
  | package (name : String)
  | outputDir (path : Path)
  | naming (naming : Naming)
  | runtime (path : String)
  | generatorName (name : String)
deriving DecidableEq

namespace BatchSettings

/-- The settings of a configuration, with its paths taken from the root of the project. -/
def ofConfig (config : Config) (projectRoot : Path) : BatchSettings where
  scanPaths := config.scan.sourceDirs.map fun dir => projectRoot.join ⟨dir⟩
  packages := config.scan.packages
  packagesAreDefaults := true
  outputDir := projectRoot.join ⟨config.generator.outputDir⟩
  naming := config.generator.naming
  runtime := config.generator.runtime
  generatorName := config.generator.generatorName

/-- Changes one setting. -/
def call (settings : BatchSettings) : SettingCall → BatchSettings
  | .scanPath path => { settings with scanPaths := settings.scanPaths ++ [path] }
  | .package name =>
    let kept := if settings.packagesAreDefaults then [] else settings.packages
    { settings with packages := kept ++ [name], packagesAreDefaults := false }
  | .outputDir path => { settings with outputDir := path }
  | .naming naming => { settings with naming := naming }
  | .runtime path => { settings with runtime := path }
  | .generatorName name => { settings with generatorName := name }

/-- The directories that are scanned. -/
def effectiveScanPaths (settings : BatchSettings) : List Path :=
  if settings.scanPaths.isEmpty then [⟨"src/"⟩] else settings.scanPaths

/-- The packages that are scanned. -/
def effectivePackages (settings : BatchSettings) : List String :=
  if settings.packages.isEmpty then ["crate"] else settings.packages

end BatchSettings

end StructMatch
