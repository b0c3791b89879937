import StructMatch.FileTree.Basic

/-!
# Replacing files

A file is replaced in one stroke: its directory is made, the text goes to a temporary file beside
it, and the temporary file takes the name of the target.  Any of these steps may fail, and then the
temporary file goes away and the target stays as it was.
-/

namespace StructMatch

/-- The steps of replacing a file. -/
inductive ReplacementStep where
  /-- Making the directory that is reached after so many components of the path. -/
  | makeDirectory (depth : Nat)
  | makeTemporary
  | write
  | setPermissions
  | rename
deriving DecidableEq

/-- Which steps of one replacement the device refuses, and why. -/
abbrev Refusals := ReplacementStep → Option FileError

/-- No step is refused. -/
def noRefusals : Refusals := fun _ => none

/-- What the device refuses at each of several replacements, the first of which has the number 0. -/
abbrev Faults := Nat → Refusals

/-- A device that refuses nothing. -/
def noFaults : Faults := fun _ => noRefusals

/-- A failed operation on a path. -/
structure PathFailure where
  path : Path
  error : FileError
deriving DecidableEq

namespace FileTree

/-- Makes one directory, in a directory that is there. -/
def makeDirectory (refusals : Refusals) (tree : FileTree) (cwd : Location)
    (components : List Component) : Except FileError FileTree :=
  match tree.locate cwd components with
  | .error e => .error e
  | .ok location =>
    match tree.entryAt? location, refusals (.makeDirectory components.length) with
    | some _, _ => .error .alreadyExists
    | none, some e => .error e
    | none, none => .ok (tree.put location .directory)

/-- A directory that is there already is as good as one just made. -/
def acceptDirectory (cwd : Location) (tree : FileTree) (components : List Component) :
    Except FileError FileTree → FileTree × Except FileError Unit
  | .ok made => (made, .ok ())
  | .error e =>
    match (tree.locate cwd components).map tree.entryAt? with
    | .ok (some .directory) => (tree, .ok ())
    | _ => (tree, .error e)

/-- Makes a directory and those above it that are missing.  The components are reversed, the
directory to make being the first.  What was made remains, even when the whole fails. -/
def makeDirectories (refusals : Refusals) (cwd : Location) (tree : FileTree) :
    List Component → FileTree × Except FileError Unit
  | [] => (tree, .ok ())
  | component :: above =>
    let components := (component :: above).reverse
    match tree.makeDirectory refusals cwd components with
    | .error .notFound =>
      match makeDirectories refusals cwd tree above with
      | (made, .ok ()) =>
        acceptDirectory cwd made components (made.makeDirectory refusals cwd components)
      | (made, .error e) => (made, .error e)
    | outcome => acceptDirectory cwd tree components outcome

/-- A name that no entry has: it is longer than all names in the tree. -/
def freshName (tree : FileTree) : String :=
  ".tmp" ++ String.ofList (List.replicate (tree.entries.foldl longest 0) 'x')
where
  /-- The greater of a length and the length of an entry's longest name. -/
  longest (n : Nat) (entry : Location × Entry) : Nat :=
    entry.1.foldl (fun n name => max n name.length) n

/-- The location that a file can be moved to. -/
def renameTarget (tree : FileTree) (cwd : Location) (path : Path) : Except FileError Location :=
  match path.components.getLast? with
  | some (.name name) =>
    match tree.locate cwd path.components.dropLast with
    | .error e => .error e
    | .ok above =>
      match tree.entryAt? above with
      | none => .error .notFound
      | some (.file _) => .error .notADirectory
      | some .directory =>
        let text := path.text.toList
        if text.getLast? = some '/' then .error .notADirectory
        else if path.endsInDirectory then .error .busy
        else
          match tree.entryAt? (above ++ [name]) with
          | some .directory => .error .isADirectory
          | _ => .ok (above ++ [name])
  | _ => .error .busy

/-- Replaces the file at a path, whose directory is `dir`. -/
@[irreducible]
def replaceFile (refusals : Refusals) (cwd : Location) (tree : FileTree) (dir path : Path)
    (text : String) : FileTree × Except PathFailure Unit :=
  let fail := fun (tree : FileTree) (path : Path) (e : FileError) =>
    (tree, (Except.error ⟨path, e⟩ : Except PathFailure Unit))
  match makeDirectories refusals cwd tree dir.components.reverse with
  | (tree, .error e) => fail tree dir e
  | (tree, .ok ()) =>
    match refusals .makeTemporary, tree.locate cwd dir.components with
    | some e, _ => fail tree dir e
    | none, .error e => fail tree dir e
    | none, .ok above =>
      let temporary := above ++ [tree.freshName]
      let temporaryPath := dir.join ⟨tree.freshName⟩
      let made := tree.put temporary (.file (.text ""))
      match refusals .write with
      | some e => fail (made.remove temporary) temporaryPath e
      | none =>
        let written := made.put temporary (.file (.text text))
        match refusals .setPermissions with
        | some e => fail (written.remove temporary) temporaryPath e
        | none =>
          match refusals .rename, written.renameTarget cwd path with
          | some e, _ => fail (written.remove temporary) path e
          | none, .error e => fail (written.remove temporary) path e
          | none, .ok target =>
            ((written.remove temporary).put target (.file (.text text)), .ok ())

end FileTree

end StructMatch
