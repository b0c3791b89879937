import StructMatch.FileTree.Failure
import StructMatch.Path

/-!
# File trees

A file tree says for each location whether a directory or a file with some content is there.  A
location is the list of names that lead to it from the root, and the root is always a directory.
Paths are resolved against a working directory, one component after the other, and each of them has
to lead through a directory.
-/

namespace StructMatch

/-- A place in a file tree by the names that lead to it from the root. -/
abbrev Location := List String

/-- The absolute path of a location. -/
def Location.path (location : Location) : Path := ⟨"/" ++ "/".intercalate location⟩

/-- What a file holds. -/
inductive Content where
  | text (text : String)
  /-- Bytes that are not the encoding of a text. -/
  | bytes (bytes : List UInt8)
deriving DecidableEq

/-- What is found at a location. -/
inductive Entry where
  | directory
  | file (content : Content)
deriving DecidableEq

/-- The directories and files below the root. -/
structure FileTree where
  entries : List (Location × Entry)

namespace FileTree

/-- The tree in which nothing lies below the root. -/
def empty : FileTree := ⟨[]⟩

/-- What is at a location. -/
def entryAt? (tree : FileTree) (location : Location) : Option Entry :=
  if location = [] then some .directory else tree.entries.lookup location

/-- Puts an entry at a location, in the place of what was there. -/
def put (tree : FileTree) (location : Location) (entry : Entry) : FileTree :=
  ⟨(location, entry) :: tree.entries.filter fun e => e.1 ≠ location⟩

/-- Takes away what is at a location and everything below it. -/
def remove (tree : FileTree) (location : Location) : FileTree :=
  ⟨tree.entries.filter fun e => !location.isPrefixOf e.1⟩

/-- The directory of a location and those above it are made where nothing is. -/
def putParents (tree : FileTree) (location : Location) : FileTree :=
  (List.range location.length).foldl
    (fun tree n =>
      if (tree.entryAt? (location.take n)).isSome then tree
      else tree.put (location.take n) .directory)
    tree

/-! ## Paths -/

/-- Goes one component further.  Only from a directory there is a way on. -/
def step (tree : FileTree) (location : Location) (component : Component) :
    Except FileError Location :=
  match component with
  | .root => .ok []
  | .here => .ok location
  | .up => onDirectory location.dropLast
  | .name name => onDirectory (location ++ [name])
where
  /-- The next location, if the current one is a directory. -/
  onDirectory (next : Location) : Except FileError Location :=
    match tree.entryAt? location with
    | some .directory => .ok next
    | some (.file _) => .error .notADirectory
    | none => .error .notFound

/-- The location that a list of components leads to. -/
def locate (tree : FileTree) (cwd : Location) (components : List Component) :
    Except FileError Location :=
  components.foldlM tree.step cwd

/-- What a path leads to. -/
def find (tree : FileTree) (cwd : Location) (path : Path) : Except FileError Entry :=
  if path.text.isEmpty then .error .notFound
  else
    match tree.locate cwd path.components with
    | .error e => .error e
    | .ok location =>
      match tree.entryAt? location with
      | none => .error .notFound
      | some .directory => .ok .directory
      | some (.file content) =>
        if path.endsInDirectory then .error .notADirectory else .ok (.file content)

/-- Whether a path leads to a directory. -/
def isDirectory (tree : FileTree) (cwd : Location) (path : Path) : Bool :=
  match tree.find cwd path with
  | .ok .directory => true
  | _ => false

/-- Whether a path leads to anything. -/
def hasEntry (tree : FileTree) (cwd : Location) (path : Path) : Bool :=
  match tree.find cwd path with
  | .ok _ => true
  | .error _ => false

/-- The text of the file that a path leads to. -/
def readText (tree : FileTree) (cwd : Location) (path : Path) : Except FileError String :=
  match tree.find cwd path with
  | .error e => .error e
  | .ok .directory => .error .isADirectory
  | .ok (.file (.bytes _)) => .error .invalidText
  | .ok (.file (.text text)) => .ok text

/-! ## Walking -/

/-- The order of a walk: a directory comes before what lies in it, and names are compared by their
characters. -/
def walkOrder : Location → Location → Bool
  | [], _ => true
  | _ :: _, [] => false
  | a :: as, b :: bs => if a = b then walkOrder as bs else decide (a < b)

/-- The files below a location, each with its way there, in the order of a walk that goes through
the names of each directory in ascending order. -/
def filesBelow (tree : FileTree) (location : Location) : List (Location × Content) :=
  (tree.entries.filterMap fun (place, entry) =>
    match entry with
    | .directory => none
    | .file content =>
      if location.isPrefixOf place && place ≠ location then
        some (place.drop location.length, content)
      else none).mergeSort fun a b => walkOrder a.1 b.1

/-- The files below the directory that a path leads to. -/
def walk (tree : FileTree) (cwd : Location) (path : Path) : List (Location × Content) :=
  match tree.locate cwd path.components with
  | .ok location => tree.filesBelow location
  | .error _ => []

end FileTree

end StructMatch
