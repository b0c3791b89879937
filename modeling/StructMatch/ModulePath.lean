import StructMatch.Text.Blank

/-!
# Module paths

A module path is the list of modules that lead from the root of a crate to a module.  Its text
begins with `crate` and joins the segments by `::`.  Reading a path is lenient: blanks around a
segment, empty segments and leading `crate` segments do not count.
-/

namespace StructMatch

/-- A module by its path from the crate root. -/
structure ModulePath where
  segments : List String
deriving DecidableEq

/-- The pieces of a text between the separators `::`. -/
def splitPath (cs : List Char) : List (List Char) := go [] cs
where
  /-- Splits the rest of a text, with the current piece collected in reverse. -/
  go (piece : List Char) : List Char → List (List Char)
    | [] => [piece.reverse]
    | ':' :: ':' :: cs => piece.reverse :: go [] cs
    | c :: cs => go (c :: piece) cs

namespace ModulePath

/-- The crate root. -/
def root : ModulePath := ⟨[]⟩

/-- The path that a text such as `crate::a::b`, `a::b` or the empty text denotes. -/
def parse (text : String) : ModulePath :=
  let pieces := (splitPath text.toList).map fun piece => String.ofList (Text.trim piece)
  ⟨(pieces.filter (· ≠ "")).dropWhile (· = "crate")⟩

/-- The path of a module inside this one. -/
def child (path : ModulePath) (name : String) : ModulePath := ⟨path.segments ++ [name]⟩

/-- Whether the module is `ancestor` or lies in it. -/
def startsWith (path ancestor : ModulePath) : Bool := ancestor.segments.isPrefixOf path.segments

/-- The text of a path. -/
def display (path : ModulePath) : String :=
  path.segments.foldl (fun text segment => text ++ "::" ++ segment) "crate"

/-- The order of paths by their segments. -/
def compare (p q : ModulePath) : Ordering := go p.segments q.segments
where
  /-- Compares lists of segments from the first difference on. -/
  go : List String → List String → Ordering
    | [], [] => .eq
    | [], _ :: _ => .lt
    | _ :: _, [] => .gt
    | s :: ss, t :: ts => (Ord.compare s t).then (go ss ts)

end ModulePath

end StructMatch
