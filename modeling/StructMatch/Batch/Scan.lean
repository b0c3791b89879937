import StructMatch.Introspection
import StructMatch.Log
import StructMatch.Provenance

/-!
# Finding structs in source files

A scan goes through the source files below a directory and finds the structs that they declare in
their modules.  Structs with parameters, structs for tests and structs inside of function bodies are
left out, and so are files that were generated themselves, hidden files and directories, and
directories with the name `target`.

The module of a file follows from its way below the directory: each directory on it is a module, and
so is the file itself, unless its name says that it belongs to the directory.  Of several structs
with the same full path the first one counts.
-/

namespace StructMatch

open Source

/-! ## The structs of a file -/

mutual

/-- The structs of an item with the inline modules around them. -/
def itemStructs (modules : List String) : Item → List (List String × Text.Word)
  | .struct item => if item.isGeneric || item.isTestOnly then [] else [(modules, item.name)]
  | .module (.mk name isTestOnly content) =>
    match content with
    | none => []
    | some items => if isTestOnly then [] else itemsStructs (modules ++ [name.plain]) items
  | .other => []

/-- The structs of several items with the inline modules around them. -/
def itemsStructs (modules : List String) : List Item → List (List String × Text.Word)
  | [] => []
  | item :: rest => itemStructs modules item ++ itemsStructs modules rest

end

/-- The names that a file has when it belongs to the module of its directory. -/
def directoryFileNames : List String := ["mod", "lib", "main"]

/-- The module of a file by its way below a directory. -/
def moduleOfFile (base : ModulePath) (way : Location) : ModulePath :=
  let dirs := way.dropLast
  let stem := (splitExtension (way.getLast?.getD "")).1
  let parts := if directoryFileNames.contains stem then dirs else dirs ++ [stem]
  parts.foldl ModulePath.child base

/-- The path of a file by its way below a directory. -/
def pathBelow (root : Path) (way : Location) : Path :=
  way.foldl (fun path name => path.join ⟨name⟩) root

/-- The types that the items of a file declare. -/
def typesOfItems (base : ModulePath) (file : Path) (way : Location) (items : List Item) :
    List StructType :=
  (itemsStructs [] items).map fun (modules, name) =>
    { name := name.plain
      modulePath := modules.foldl ModulePath.child (moduleOfFile base way)
      declaration? := some ⟨file, modules⟩ }

/-- The types that a file declares.  A file that cannot be read is skipped. -/
def scanFile (root : Path) (base : ModulePath) (way : Location) (content : Content) :
    Logged (List StructType) :=
  let file := pathBelow root way
  match content with
  | .bytes _ => do
    .line .warn ("Skipping " ++ file.text ++ ": Failed to read " ++ file.text ++ ": " ++
      FileError.invalidText.message)
    return []
  | .text text =>
    match Provenance.read? text with
    | some origin => do
      .line .debug ("Skipping " ++ file.text ++ " (generated by " ++ origin.generatedBy ++
        " from " ++ origin.basedOn ++ ")")
      return []
    | none =>
      match readFile? text with
      | none => do
        .line .warn ("Skipping " ++ file.text ++ ": Failed to parse " ++ file.text ++
          ": syntax error")
        return []
      | some items => return typesOfItems base file way items

/-! ## The structs of a directory -/

/-- Whether the name is that of a source file. -/
def isSourceName (name : String) : Bool := (splitExtension name).2 = some "rs"

/-- Whether a scan reaches a file and takes it for a source file. -/
def isScanned (way : Location) : Bool :=
  way.all (fun name => name.toList.head? ≠ some '.') && !way.dropLast.contains "target" &&
    way.getLast?.any isSourceName

/-- The first type of each full path. -/
def firstByName : List StructType → List StructType
  | [] => []
  | type :: rest =>
    type :: (firstByName rest).filter fun other => other.qualifiedName ≠ type.qualifiedName

/-- The first type of each full path, in the order of the paths. -/
def sortedByName (types : List StructType) : List StructType :=
  (firstByName types).mergeSort fun a b => decide (a.qualifiedName ≤ b.qualifiedName)

/-- The modules that packages name.  Blank names are none. -/
def packageRoots (packages : List String) : List ModulePath :=
  (packages.filter fun package => !(Text.trim package.toList).isEmpty).map ModulePath.parse

/-- The types of files that lie in one of the packages.  The files are given in the order in which
they were come upon. -/
def scanFiles (root : Path) (base : ModulePath) (packages : List String)
    (files : List (Location × Content)) : Logged (List StructType) := do
  let roots := packageRoots packages
  if roots.isEmpty then return []
  else
    let found ← (files.filter fun file => isScanned file.1).mapM fun (way, content) =>
      scanFile root base way content
    let types := found.flatten
    for package in roots do
      if !types.any (·.modulePath.startsWith package) then
        .line .warn ("Package " ++ package.display ++ " matched no types under " ++ root.text)
    return sortedByName (types.filter fun type => roots.any type.modulePath.startsWith)

/-- The types below a directory that lie in one of the packages, if it is a directory. -/
def scanDirectory (tree : FileTree) (cwd : Location) (root : Path) (crateModule : String)
    (packages : List String) : Option (Logged (List StructType)) :=
  if tree.isDirectory cwd root then
    some (scanFiles root (.parse crateModule) packages (tree.walk cwd root))
  else none

end StructMatch
