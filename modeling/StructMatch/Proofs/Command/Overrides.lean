import Mathlib.Data.List.Basic
import StructMatch.Command.Project

/-!
# Settings that are overridden

The settings of a configuration are overridden in two ways, by calls that change one setting each
and by the options of the program.  Calls that change different settings do not meddle with each
other, so what comes out depends only on the arguments that each setting is given, `foldl_call`.
What a batch does is decided by the settings that take effect, `behavesLike_of_effective`, and both
ways lead to the same ones, `overrides_agree`.  A list that is left empty does not take effect as it
is, even if it is configured so, `emptyConfig_effect`.
-/

namespace StructMatch

/-! ## Settings after calls -/

/-- The arguments of calls, sorted by the setting that they change. -/
structure SettingArguments where
  scanPaths : List Path
  packages : List String
  outputDirs : List Path
  namings : List Naming
  runtimes : List String
  generatorNames : List String

/-- The arguments of calls, those for one setting in the order of the calls. -/
def SettingArguments.ofCalls (calls : List SettingCall) : SettingArguments where
  scanPaths := calls.filterMap fun | .scanPath path => some path | _ => none
  packages := calls.filterMap fun | .package name => some name | _ => none
  outputDirs := calls.filterMap fun | .outputDir path => some path | _ => none
  namings := calls.filterMap fun | .naming naming => some naming | _ => none
  runtimes := calls.filterMap fun | .runtime path => some path | _ => none
  generatorNames := calls.filterMap fun | .generatorName name => some name | _ => none

/-- The arguments with that of a call before them. -/
def SettingArguments.cons (given : SettingArguments) : SettingCall → SettingArguments
  | .scanPath path => { given with scanPaths := path :: given.scanPaths }
  | .package name => { given with packages := name :: given.packages }
  | .outputDir path => { given with outputDirs := path :: given.outputDirs }
  | .naming naming => { given with namings := naming :: given.namings }
  | .runtime path => { given with runtimes := path :: given.runtimes }
  | .generatorName name => { given with generatorNames := name :: given.generatorNames }

theorem SettingArguments.ofCalls_cons (call : SettingCall) (calls : List SettingCall) :
    ofCalls (call :: calls) = (ofCalls calls).cons call := by
  cases call <;> rfl

namespace BatchSettings

variable (settings : BatchSettings)

/-- The settings with the arguments of calls.  Lists go on with what they are given, once the
packages that are defaults have given way, and of the other arguments the last one counts. -/
def withArguments (given : SettingArguments) : BatchSettings where
  scanPaths := settings.scanPaths ++ given.scanPaths
  packages :=
    bif given.packages.isEmpty then settings.packages
    else (bif settings.packagesAreDefaults then [] else settings.packages) ++ given.packages
  packagesAreDefaults := settings.packagesAreDefaults && given.packages.isEmpty
  outputDir := given.outputDirs.getLast?.getD settings.outputDir
  naming := given.namings.getLast?.getD settings.naming
  runtime := given.runtimes.getLast?.getD settings.runtime
  generatorName := given.generatorNames.getLast?.getD settings.generatorName

/-- What a call is given counts before what those after it are given. -/
theorem withArguments_call (call : SettingCall) (given : SettingArguments) :
    (settings.call call).withArguments given = settings.withArguments (given.cons call) := by
  cases call with
  | package name =>
      cases hdefaults : settings.packagesAreDefaults <;> cases hpackages : given.packages <;>
        simp [withArguments, BatchSettings.call, SettingArguments.cons, hdefaults, hpackages]
  | _ =>
      simp [withArguments, BatchSettings.call, SettingArguments.cons, List.getLast?_cons]

/-- Calls, one after the other, leave the settings with all their arguments. -/
theorem foldl_call (calls : List SettingCall) :
    calls.foldl call settings = settings.withArguments (.ofCalls calls) := by
  induction calls generalizing settings with
  | nil => simp [withArguments, SettingArguments.ofCalls]
  | cons call calls ih =>
      rw [List.foldl_cons, ih, withArguments_call, SettingArguments.ofCalls_cons]

/-- How settings come about from a configuration and the arguments of calls.  Lists that are left
empty on both sides take effect as their defaults. -/
structure Overridden (config : Config) (root : Path) (given : SettingArguments)
    (settings : BatchSettings) : Prop where
  packages : settings.effectivePackages =
    if given.packages ≠ [] then given.packages
    else if config.scan.packages ≠ [] then config.scan.packages else ["crate"]
  scanPaths : settings.effectiveScanPaths =
    let paths := config.scan.sourceDirs.map (fun dir => root.join ⟨dir⟩) ++ given.scanPaths
    if paths ≠ [] then paths else [⟨"src/"⟩]
  outputDir : settings.outputDir =
    given.outputDirs.getLast?.getD (root.join ⟨config.generator.outputDir⟩)
  naming : settings.naming = given.namings.getLast?.getD config.generator.naming
  runtime : settings.runtime = given.runtimes.getLast?.getD config.generator.runtime
  generatorName : settings.generatorName =
    given.generatorNames.getLast?.getD config.generator.generatorName

/-- The settings of a configuration with the arguments of calls. -/
theorem overridden_withArguments (config : Config) (root : Path) (given : SettingArguments) :
    Overridden config root given ((ofConfig config root).withArguments given) := by
  refine ⟨?_, ?_, rfl, rfl, rfl, rfl⟩
  · cases hnamed : given.packages <;> cases hconfigured : config.scan.packages <;>
      simp [effectivePackages, withArguments, ofConfig, hnamed, hconfigured]
  · simp only [effectiveScanPaths, withArguments, ofConfig, List.isEmpty_iff, ite_not]

/-! ## Settings that take effect -/

/-- Whether batches with two settings find, write and report the same. -/
structure BehavesLike (settings other : BatchSettings) : Prop where
  discover : ∀ tree cwd, settings.discover tree cwd = other.discover tree cwd
  run : ∀ w, settings.run w = other.run w
  check : ∀ tree cwd, settings.check tree cwd = other.check tree cwd

/-- What a batch does is decided by the directories, the packages and the options that take
effect. -/
theorem behavesLike_of_effective {settings other : BatchSettings}
    (hscanPaths : settings.effectiveScanPaths = other.effectiveScanPaths)
    (hpackages : settings.effectivePackages = other.effectivePackages)
    (hoptions : settings.options = other.options) : BehavesLike settings other := by
  have hdir : settings.outputDir = other.outputDir :=
    congrArg GeneratorOptions.outputDir hoptions
  have hname : settings.generatorName = other.generatorName :=
    congrArg GeneratorOptions.generatorName hoptions
  have hscan (tree : FileTree) (cwd : Location) (roots : List Path) :
      settings.scanAll tree cwd roots = other.scanAll tree cwd roots := by
    induction roots with
    | nil => rfl
    | cons root roots ih => rw [scanAll, scanAll, hpackages, ih]
  have hdiscover (tree : FileTree) (cwd : Location) :
      settings.discover tree cwd = other.discover tree cwd := by
    rw [discover, discover, hscanPaths, hscan]
  have hgenerate (types : List StructType) (w : Workspace) :
      settings.generateAll w types = other.generateAll w types := by
    induction types generalizing w with
    | nil => rfl
    | cons type types ih => simp only [generateAll, hoptions, ih]
  have hreports (tree : FileTree) (cwd : Location) (types : List StructType) :
      settings.reportsFor tree cwd types = other.reportsFor tree cwd types := by
    induction types with
    | nil => rfl
    | cons type types ih => simp only [reportsFor, hoptions, ih]
  have horphans (expected : List Path) (files : List (Location × Content)) :
      settings.orphansAmong expected files = other.orphansAmong expected files := by
    induction files with
    | nil => rfl
    | cons file files ih => simp only [orphansAmong, orphanIn?, hdir, hname, ih]
  refine ⟨hdiscover, fun w => ?_, fun tree cwd => ?_⟩
  · unfold run
    simp only [hdiscover, hgenerate, hdir]
  · unfold check orphans
    simp only [hdiscover, hreports, horphans, hdir]

end BatchSettings

/-! ## The two ways -/

open BatchSettings Command

/-- Calls that name packages and a naming style. -/
def callsFor (packages : List String) (naming : Naming) : List SettingCall :=
  packages.map .package ++ [.naming naming]

theorem ofCalls_callsFor (packages : List String) (naming : Naming) :
    SettingArguments.ofCalls (callsFor packages naming) =
      ⟨[], packages, [], [naming], [], []⟩ := by
  simp [SettingArguments.ofCalls, callsFor, List.filterMap_map]

/-- What calls and options make of a configuration.  After calls the settings are the arguments of
the calls and, where these are silent, the configured ones; it only counts in which order the calls
that change the same setting come.  Options that name packages and a naming style lead to the same
batch as calls that do. -/
theorem overrides_agree (config : Config) (root : Path) (calls : List SettingCall) :
    Overridden config root (.ofCalls calls) (calls.foldl call (ofConfig config root)) ∧
    (∀ others, SettingArguments.ofCalls others = SettingArguments.ofCalls calls →
      others.foldl call (ofConfig config root) = calls.foldl call (ofConfig config root)) ∧
    ∀ packages naming, packages ≠ [] →
      BehavesLike
        (ofConfig (SourceOptions.apply { packages := packages, naming? := some naming } config)
          root)
        ((callsFor packages naming).foldl call (ofConfig config root)) := by
  refine ⟨?_, fun others hothers => ?_, fun packages naming hpackages => ?_⟩
  · rw [foldl_call]
    exact overridden_withArguments config root _
  · rw [foldl_call, foldl_call, hothers]
  · rw [foldl_call, ofCalls_callsFor]
    obtain ⟨first, rest, rfl⟩ := List.exists_cons_of_ne_nil hpackages
    refine behavesLike_of_effective ?_ ?_ ?_
    · simp [effectiveScanPaths, withArguments, ofConfig, SourceOptions.apply]
    · simp [effectivePackages, withArguments, ofConfig, SourceOptions.apply]
    · simp [options, withArguments, ofConfig, SourceOptions.apply]

/-- A configuration with a package and a directory of its own. -/
def modelsConfig : Config :=
  { scan := { sourceDirs := ["lib"], packages := ["crate::models"] } }

/-- Calls for three settings, two of which are changed twice. -/
def mixedCalls : List SettingCall :=
  [.package "crate::api", .naming .camel, .scanPath ⟨"extra"⟩, .package "crate::web",
    .naming .snake]

/-- The first package that is named replaces the configured one, and the second one is added,
whatever is called in between. -/
theorem overrides_agree_modelsConfig :
    (mixedCalls.foldl call (ofConfig modelsConfig ⟨"app"⟩)).effectivePackages =
      ["crate::api", "crate::web"] ∧
    (mixedCalls.foldl call (ofConfig modelsConfig ⟨"app"⟩)).effectiveScanPaths =
      [⟨"app/lib"⟩, ⟨"extra"⟩] ∧
    (mixedCalls.foldl call (ofConfig modelsConfig ⟨"app"⟩)).naming = .snake ∧
    [SettingCall.scanPath ⟨"extra"⟩, .naming .camel, .naming .snake, .package "crate::api",
      .package "crate::web"].foldl call (ofConfig modelsConfig ⟨"app"⟩) =
      mixedCalls.foldl call (ofConfig modelsConfig ⟨"app"⟩) ∧
    BehavesLike
      (ofConfig (SourceOptions.apply { packages := ["crate::api"], naming? := some .camel }
        modelsConfig) ⟨"app"⟩)
      ((callsFor ["crate::api"] .camel).foldl call (ofConfig modelsConfig ⟨"app"⟩)) := by
  obtain ⟨hoverridden, horder, hoptions⟩ := overrides_agree modelsConfig ⟨"app"⟩ mixedCalls
  exact ⟨hoverridden.packages, hoverridden.scanPaths.trans (by decide), hoverridden.naming,
    horder _ rfl, hoptions _ _ (by decide)⟩

/-- A configuration that leaves both lists empty. -/
def emptyConfig : Config := { scan := { sourceDirs := [], packages := [] } }

/-- Lists that are left empty do not take effect as they are configured. -/
theorem emptyConfig_effect :
    (ofConfig emptyConfig ⟨"app"⟩).effectivePackages = ["crate"] ∧
    (ofConfig emptyConfig ⟨"app"⟩).effectivePackages ≠ emptyConfig.scan.packages ∧
    (ofConfig emptyConfig ⟨"app"⟩).effectiveScanPaths = [⟨"src/"⟩] ∧
    (ofConfig emptyConfig ⟨"app"⟩).effectiveScanPaths ≠
      emptyConfig.scan.sourceDirs.map fun dir => (⟨"app"⟩ : Path).join ⟨dir⟩ :=
  ⟨rfl, by decide, rfl, by decide⟩

end StructMatch
