import StructMatch.Command.Session

/-!
# The program

Reads from the disk what a call needs, carries the call out, writes the changed files back, and
prints what the call has to say.
-/

open StructMatch

namespace StructMatch.Disk

/-- What a file with the given bytes holds. -/
def contentOf (bytes : ByteArray) : Content :=
  match String.fromUTF8? bytes with
  | some text => .text text
  | none => .bytes bytes.toList

/-- The place of a location on the disk. -/
def entryAt (location : Location) : IO.FS.DirEntry :=
  ⟨⟨(Location.path location.dropLast).text⟩, location.getLast?.getD ""⟩

/-- Adds the file at a location, if there is one. -/
def loadFile (tree : FileTree) (location : Location) : IO FileTree := do
  match ← (IO.FS.readBinFile (entryAt location).path).toBaseIO with
  | .ok bytes => return tree.put location (.file (contentOf bytes))
  | .error _ => return tree

/-- Adds what lies at a location and below it. -/
partial def loadBelow (tree : FileTree) (location : Location) : IO FileTree := do
  let entry := entryAt location
  if ← entry.path.isDir then
    let mut tree := tree.put location .directory
    for inner in ← entry.path.readDir do
      tree ← loadBelow tree (location ++ [inner.fileName])
    return tree
  else loadFile tree location

/-- Adds what lies on the way to a location. -/
def loadAbove (tree : FileTree) (location : Location) : IO FileTree := do
  let mut tree := tree
  for n in [1:location.length] do
    let above := location.take n
    if ← (entryAt above).path.isDir then
      if (tree.entryAt? above).isNone then tree := tree.put above .directory
    else tree ← loadFile tree above
  return tree

/-- The location that an absolute path names. -/
def locationOf (path : Path) : Location :=
  path.components.foldl (fun location component =>
    match component with
    | .root => []
    | .here => location
    | .up => location.dropLast
    | .name name => location ++ [name]) []

/-- Adds what decides about the project that a location lies in. -/
def loadProject (tree : FileTree) (cwd : Location) : IO FileTree := do
  let mut tree ← loadAbove tree (cwd ++ [Command.projectMark])
  for n in [0:cwd.length + 1] do
    for name in [Command.projectMark, configFileName] do
      let location := cwd.take n ++ [name]
      if ← (entryAt location).path.isDir then tree := tree.put location .directory
      else tree ← loadFile tree location
  return tree

/-- Writes one file by way of a temporary file beside it. -/
def storeFile (location : Location) (text : String) : IO Unit := do
  let entry := entryAt location
  let temporary : IO.FS.DirEntry := { entry with fileName := ".tmp" ++ entry.fileName }
  IO.FS.createDirAll entry.root
  IO.FS.writeFile temporary.path text
  IO.FS.rename temporary.path entry.path

/-- Writes the files that differ between two trees. -/
def store (before after : FileTree) : IO Unit := do
  for (location, entry) in after.entries do
    if before.entryAt? location ≠ some entry then
      match entry with
      | .file (.text text) => storeFile location text
      | .file (.bytes _) => pure ()
      | .directory => IO.FS.createDirAll (entryAt location).path

end StructMatch.Disk

open StructMatch.Disk in
/-- Carries out a call of the program. -/
def main (arguments : List String) : IO UInt32 := do
  let cwd := locationOf ⟨(← IO.currentDir).toString⟩
  let mut tree ← loadProject .empty cwd
  for directory in Command.directories tree cwd arguments do
    let location := locationOf directory
    tree ← loadAbove tree location
    tree ← loadBelow tree location
  let (after, outcome) := Command.execute ⟨tree, cwd, noFaults⟩ arguments
  store tree after
  for line in outcome.log do
    IO.eprintln ("[" ++ line.level.text ++ "] " ++ line.message)
  IO.print outcome.out
  IO.eprint outcome.err
  return outcome.code.toUInt32
