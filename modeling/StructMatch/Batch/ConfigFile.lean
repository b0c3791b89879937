import StructMatch.Batch.Settings
import StructMatch.FileTree.Basic
import StructMatch.Toml.Document

/-!
# Configuration files

A configuration is a TOML document with the tables `generator` and `scan`.  A setting that is left
out has its default, and entries that name no setting are ignored.

Settings may also be given without their names: an array in the place of one of the two tables holds
them in their order, and may end early.
-/

namespace StructMatch

open Toml

/-- The name of the configuration file in the root of a project. -/
def configFileName : String := "beanmatch.toml"

/-- Why there is no configuration. -/
inductive ConfigError where
  | unreadable (file : Path) (cause : FileError)
  | malformed (file : Path)
deriving DecidableEq

/-- The text of a failure. -/
def ConfigError.message : ConfigError → String
  | unreadable file cause => "Failed to read " ++ file.text ++ ": " ++ cause.message
  | malformed file => "Failed to parse " ++ file.text ++ ": TOML parse error"

/-! ## Settings in a document -/

/-- The setting with a name, which is also the setting at a position. -/
abbrev SettingSource := Nat → String → Option Value

/-- Where a value holds its settings, if it is one that can hold any.  A date holds none. -/
def settingSource? : Value → Option SettingSource
  | .table _ entries => some fun _ name => entries.lookup name
  | .array items => some fun position _ => items[position]?
  | .tables earlier last => some fun position _ =>
    (earlier ++ [last])[position]?.map (Value.table .header)
  | .moment _ => some fun _ _ => none
  | _ => none

/-- What a setting says, or the default if it is left out. -/
def settingOr {α : Type} (default : α) (read : Value → Option α) : Option Value → Option α
  | none => some default
  | some value => read value

/-- The text that a setting is. -/
def textSetting? : Value → Option String
  | .text text => some text
  | _ => none

/-- The texts that a setting lists. -/
def textsSetting? : Value → Option (List String)
  | .array items => items.mapM textSetting?
  | _ => none

/-- Whether a value is empty. -/
def isEmptyValue : Value → Bool
  | .table _ [] => true
  | .array [] => true
  | _ => false

/-- The naming style that a setting chooses: its name, or a table with nothing but an empty entry of
that name. -/
def namingSetting? : Value → Option Naming
  | .text name => Naming.ofText? name
  | .table _ [(name, value)] => if isEmptyValue value then Naming.ofText? name else none
  | _ => none

/-- The settings of the generator that a value holds. -/
def GeneratorSettings.ofValue? (value : Value) : Option GeneratorSettings := do
  let zero : GeneratorSettings := {}
  let setting ← settingSource? value
  return {
    outputDir := ← settingOr zero.outputDir textSetting? (setting 0 "output_dir")
    runtime := ← settingOr zero.runtime textSetting? (setting 1 "runtime_crate")
    naming := ← settingOr zero.naming namingSetting? (setting 2 "naming")
    generatorName := ← settingOr zero.generatorName textSetting? (setting 3 "generator_name") }

/-- The settings of the scan that a value holds. -/
def ScanSettings.ofValue? (value : Value) : Option ScanSettings := do
  let zero : ScanSettings := {}
  let setting ← settingSource? value
  return {
    sourceDirs := ← settingOr zero.sourceDirs textsSetting? (setting 0 "source_dirs")
    packages := ← settingOr zero.packages textsSetting? (setting 1 "packages") }

namespace Config

/-- The configuration that the entries of a document describe. -/
def ofEntries? (entries : Entries) : Option Config := do
  return {
    generator := ← settingOr {} GeneratorSettings.ofValue? (entries.lookup "generator")
    scan := ← settingOr {} ScanSettings.ofValue? (entries.lookup "scan") }

/-- The configuration that a text describes. -/
def parse? (text : String) : Option Config := (Toml.parse? text).bind ofEntries?

/-! ## Configuration files -/

/-- The configuration in a file. -/
def load (tree : FileTree) (cwd : Location) (file : Path) : Except ConfigError Config :=
  match tree.readText cwd file with
  | .error cause => .error (.unreadable file cause)
  | .ok text =>
    match parse? text with
    | some config => .ok config
    | none => .error (.malformed file)

/-- The configuration file of a project. -/
def fileIn (projectRoot : Path) : Path := projectRoot.join ⟨configFileName⟩

/-- The configuration of a project.  Without a configuration file all settings have their
defaults. -/
def loadOrDefault (tree : FileTree) (cwd : Location) (projectRoot : Path) :
    Except ConfigError Config :=
  if tree.hasEntry cwd (fileIn projectRoot) then load tree cwd (fileIn projectRoot) else .ok {}

end Config

end StructMatch
