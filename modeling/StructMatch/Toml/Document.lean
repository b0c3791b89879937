import StructMatch.Toml.Scalar

/-!
# Reading TOML documents

A document is a list of lines, each of which assigns a value to a key or is the header of a table.
The lines are read first, and the entries of the document are built from them.

Values and keys may be nested, but not without limit: there are less than `depthLimit` brackets
around any value, and each key has less than `depthLimit` parts.
-/

namespace StructMatch.Toml

open Reading

/-- What the nesting of values and the parts of a key stay below. -/
def depthLimit : Nat := 80

/-! ## Keys -/

/-- Whether the character may stand in a key without quotes. -/
def isBare (c : Char) : Bool := c.isAlphanum || c = '-' || c = '_'

/-- Takes one part of a key. -/
def keyPart : Reading String := do
  match ← peek with
  | some '"' => lineText basic
  | some '\'' => lineText literal
  | _ =>
    let name ← run isBare
    require (!name.isEmpty)
    return String.ofList name

/-- Takes the parts of a key with the points between them, at most the given number. -/
def keyParts : Nat → Reading (List String)
  | 0 => failure
  | n + 1 => do
    blanks
    let part ← keyPart
    blanks
    if ← markIfAny "." then return part :: (← keyParts n) else return [part]

/-- Takes a key. -/
def key : Reading Key := do
  match (← keyParts (depthLimit - 1)).reverse with
  | [] => failure
  | last :: parts => return ⟨parts.reverse, last⟩

/-! ## Values -/

mutual

/-- Takes a value inside of some brackets.  The first number bounds the steps. -/
def value : Nat → Nat → Reading Value
  | 0, _ => failure
  | n + 1, depth => do
    match ← peek with
    | some '[' =>
      require (depth + 1 < depthLimit)
      mark "["
      return .array (← arrayItems n (depth + 1))
    | some '\x7b' =>
      require (depth + 1 < depthLimit)
      mark "\x7b"
      let assignments ← inlineAssignments n (depth + 1)
      return .table .inline (← liftM (inlineEntries? assignments))
    | _ => scalar

/-- Takes the items of an array up to its closing bracket. -/
def arrayItems : Nat → Nat → Reading (List Value)
  | 0, _ => failure
  | n + 1, depth => do
    layout
    if ← markIfAny "]" then return []
    else
      let item ← value n depth
      layout
      if ← markIfAny "," then return item :: (← arrayItems n depth)
      else
        mark "]"
        return [item]

/-- Takes the assignments of a table on one line up to its closing bracket. -/
def inlineAssignments : Nat → Nat → Reading (List (Key × Value))
  | 0, _ => failure
  | n + 1, depth => do
    blanks
    if ← markIfAny "\x7d" then return []
    else furtherAssignments n depth

/-- Takes assignments, of which there is at least one. -/
def furtherAssignments : Nat → Nat → Reading (List (Key × Value))
  | 0, _ => failure
  | n + 1, depth => do
    let assignment ← assignment n depth
    if ← markIfAny "," then return assignment :: (← furtherAssignments n depth)
    else
      mark "\x7d"
      return [assignment]

/-- Takes a key and its value. -/
def assignment : Nat → Nat → Reading (Key × Value)
  | 0, _ => failure
  | n + 1, depth => do
    let key ← key
    mark "="
    blanks
    let value ← value n depth
    blanks
    return (key, value)

end

/-! ## Documents -/

/-- Takes a statement with the rest of its line. -/
def statement : Reading Statement := do
  let read ←
    if ← markIfAny "[[" then do
      let key ← key
      mark "]]"
      pure (Statement.nextTable key)
    else if ← markIfAny "[" then do
      let key ← key
      mark "]"
      pure (Statement.table key)
    else do
      let (key, value) ← assignment (3 * (← get).length + 3) 0
      pure (Statement.assign key value)
  trailing
  return read

/-- Takes all statements of a document.  The number bounds the lines. -/
def statements : Nat → Reading (List Statement)
  | 0 => failure
  | n + 1 => do
    blanks
    match ← peek with
    | none => return []
    | some '#' => comment; lineEndOrEnd; statements n
    | some '\n' => lineEnd; statements n
    | some '\r' => lineEnd; statements n
    | _ => return (← statement) :: (← statements n)

/-- The entries of the document that a text holds.  It may begin with a byte order mark. -/
def parse? (text : String) : Option Entries := do
  let cs := match text.toList with
    | '\uFEFF' :: cs => cs
    | cs => cs
  let (lines, _) ← statements (cs.length + 1) cs
  document? lines

end StructMatch.Toml
