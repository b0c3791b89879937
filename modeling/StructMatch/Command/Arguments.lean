import StructMatch.Naming

/-!
# Command line arguments

The program is called with a verb and options.  Some options describe how results are shown and may
stand before or after the verb; after it they count more.  The other options, which replace settings
of the configuration, stand after the verb.

Arguments are read from the first to the last.  An option that has a value takes it from the same
argument, after an equals sign, or from the next argument, which must not look like an option.  Most
options are given at most once on either side of the verb.  Nothing but options follows the verb.
-/

namespace StructMatch.Command

/-- What the program is asked to do. -/
inductive Verb where
  | generate
  | check
deriving DecidableEq

/-- The verb of a name. -/
def Verb.ofText? (name : String) : Option Verb :=
  if name = "generate" then some .generate else if name = "check" then some .check else none

/-- How results are shown. -/
inductive OutputFormat where
  | table
  | json
deriving DecidableEq

/-- The format of a name. -/
def OutputFormat.ofText? (name : String) : Option OutputFormat :=
  if name = "table" then some .table else if name = "json" then some .json else none

/-- The options without a value. -/
inductive Flag where
  | quiet
  | verbose
  | noColor
deriving DecidableEq

/-- The options with a value. -/
inductive Field where
  | output
  | sourceDir
  | outputDir
  | package
  | naming
deriving DecidableEq

/-- Whether an option may stand before the verb. -/
def Field.isGlobal (field : Field) : Bool := field = .output

/-- An option that was given. -/
inductive Given where
  | flag (flag : Flag)
  | format (format : OutputFormat)
  | sourceDir (dir : String)
  | outputDir (dir : String)
  | package (module : String)
  | naming (naming : Naming)
deriving DecidableEq

/-- The field with a value, unless the value does not fit. -/
def Field.given? (field : Field) (value : String) : Option Given :=
  match field with
  | output => (OutputFormat.ofText? value).map .format
  | sourceDir => if value.isEmpty then none else some (.sourceDir value)
  | outputDir => if value.isEmpty then none else some (.outputDir value)
  | package => some (.package value)
  | naming => (Naming.ofText? value).map .naming

/-- Whether two options exclude each other. -/
def Given.excludes : Given → Given → Bool
  | .flag a, .flag b => a = b
  | .format _, .format _ => true
  | .outputDir _, .outputDir _ => true
  | .naming _, .naming _ => true
  | _, _ => false

/-- The meaning of a single option name. -/
inductive OptionName where
  | flag (flag : Flag)
  | field (field : Field)
  | help
  | version
deriving DecidableEq

/-- The options by their long names. -/
def longNames : List (String × OptionName) :=
  [("output", .field .output), ("quiet", .flag .quiet), ("verbose", .flag .verbose),
    ("no-color", .flag .noColor), ("source-dir", .field .sourceDir),
    ("output-dir", .field .outputDir), ("package", .field .package), ("naming", .field .naming),
    ("help", .help), ("version", .version)]

/-- The options by their short names. -/
def shortNames : List (Char × OptionName) :=
  [('q', .flag .quiet), ('v', .flag .verbose), ('h', .help), ('V', .version)]

/-- Whether an option may stand before the verb, or else after it. -/
def OptionName.fits (beforeVerb : Bool) : OptionName → Bool
  | flag _ => true
  | field f => !beforeVerb || f.isGlobal
  | help => true
  | version => beforeVerb

/-- Why the options before or after the verb end. -/
inductive Stop where
  | nothingLeft
  | verb (verb : Verb) (rest : List String)
  /-- The word `help`, with what follows it. -/
  | helpOn (rest : List String)
  | help
  | version
deriving DecidableEq

/-- What an argument looks like. -/
inductive Shape where
  /-- Two dashes, after which there are no options. -/
  | separator
  | long (name : String) (value? : Option String)
  | short (names : List Char)
  | word (text : String)
deriving DecidableEq

/-- The shape of an argument.  A single dash is a word. -/
def shapeOf (argument : String) : Shape :=
  match argument.toList with
  | ['-', '-'] => .separator
  | '-' :: '-' :: cs =>
    let name := cs.takeWhile (· ≠ '=')
    .long (String.ofList name) <|
      match cs.drop name.length with
      | _ :: value => some (String.ofList value)
      | [] => none
  | '-' :: c :: cs => .short (c :: cs)
  | _ => .word argument

/-- The options with one more, unless it excludes one of them. -/
def withOption (given : List Given) (one : Given) : Option (List Given) :=
  if given.any one.excludes then none else some (given ++ [one])

/-- Adds the flags that are written together after one dash, up to one that ends the reading. -/
def readShort (beforeVerb : Bool) (given : List Given) :
    List Char → Option (List Given × Option Stop)
  | [] => some (given, none)
  | c :: cs =>
    match shortNames.lookup c with
    | some (.flag flag) => do readShort beforeVerb (← withOption given (.flag flag)) cs
    | some .help => some (given, some .help)
    | some .version => if beforeVerb then some (given, some .version) else none
    | _ => none

/-- Reads the options before or after the verb, and tells why they end. -/
def readOptions (beforeVerb : Bool) (given : List Given) :
    List String → Option (List Given × Stop)
  | [] => some (given, .nothingLeft)
  | argument :: rest =>
    match shapeOf argument with
    | .separator => if rest.isEmpty then some (given, .nothingLeft) else none
    | .word text =>
      if !beforeVerb then none
      else if text = "help" then some (given, .helpOn rest)
      else (Verb.ofText? text).map fun verb => (given, .verb verb rest)
    | .short names => do
      match ← readShort beforeVerb given names with
      | (given, some stop) => some (given, stop)
      | (given, none) => readOptions beforeVerb given rest
    | .long name value? =>
      match (longNames.lookup name).filter (·.fits beforeVerb), value?, rest with
      | some (.flag flag), none, rest => do
        readOptions beforeVerb (← withOption given (.flag flag)) rest
      | some .help, none, _ => some (given, .help)
      | some .version, none, _ => some (given, .version)
      | some (.field field), some value, rest => do
        readOptions beforeVerb (← withOption given (← field.given? value)) rest
      | some (.field field), none, next :: rest =>
        match shapeOf next with
        | .word value => do readOptions beforeVerb (← withOption given (← field.given? value)) rest
        | _ => none
      | _, _, _ => none

/-! ## Requests -/

/-- The options that replace settings of the configuration. -/
structure SourceOptions where
  sourceDirs : List String := []
  outputDir? : Option String := none
  packages : List String := []
  naming? : Option Naming := none
deriving DecidableEq

/-- The options that replace settings, as they were given. -/
def SourceOptions.ofGiven (given : List Given) : SourceOptions where
  sourceDirs := given.filterMap fun | .sourceDir dir => some dir | _ => none
  outputDir? := given.findSome? fun | .outputDir dir => some dir | _ => none
  packages := given.filterMap fun | .package module => some module | _ => none
  naming? := given.findSome? fun | .naming naming => some naming | _ => none

/-- How the results of a call are shown. -/
structure Presentation where
  format : OutputFormat := .table
  quiet : Bool := false
  verbose : Bool := false
  noColor : Bool := false
deriving DecidableEq

/-- The presentation that options ask for, the first of them counting most. -/
def Presentation.ofGiven (given : List Given) : Presentation where
  format := (given.findSome? fun | .format format => some format | _ => none).getD .table
  quiet := given.contains (.flag .quiet)
  verbose := given.contains (.flag .verbose)
  noColor := given.contains (.flag .noColor)

/-- What the arguments of a call ask for. -/
inductive Request where
  | run (verb : Verb) (source : SourceOptions) (presentation : Presentation)
  | help
  | version
deriving DecidableEq

/-- What arguments ask for, if they can be understood. -/
def Request.parse? (arguments : List String) : Option Request := do
  let (before, stop) ← readOptions true [] arguments
  match stop with
  | .nothingLeft => none
  | .help => some .help
  | .version => some .version
  | .helpOn [] => some .help
  | .helpOn [topic] => if topic = "help" || (Verb.ofText? topic).isSome then some .help else none
  | .helpOn _ => none
  | .verb verb rest => do
    let (after, stop) ← readOptions false [] rest
    match stop with
    | .nothingLeft => some (.run verb (.ofGiven after) (.ofGiven (after ++ before)))
    | .help => some .help
    | _ => none

end StructMatch.Command
