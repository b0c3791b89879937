import StructMatch.Numeral.Binary

/-!
# TOML values

A value is a scalar, an array or a table.  A table keeps its entries in the order in which they were
assigned, and it remembers how it came into being, because that decides whether further keys may be
added to it: a table between curly brackets is closed, while a table that only the way to another
one implied may still get a header of its own.

An array of tables is written by a header for each of its tables, and all later headers lead into
the last one.
-/

namespace StructMatch.Toml

/-- How a table came into being. -/
inductive TableForm where
  /-- By a header of its own. -/
  | header
  /-- By the header of a table below it. -/
  | implied
  /-- By a key of several parts. -/
  | dotted
  /-- By curly brackets. -/
  | inline
deriving DecidableEq

/-- A value of a document. -/
inductive Value where
  | text (text : String)
  | integer (value : Int)
  | decimal (value : Numeral.Binary Numeral.double)
  | truth (value : Bool)
  /-- A date, a time or both, as it is written. -/
  | moment (text : String)
  | array (items : List Value)
  | table (form : TableForm) (entries : List (String × Value))
  /-- The tables of an array before the last one, and the last one. -/
  | tables (earlier : List (List (String × Value))) (last : List (String × Value))

/-- The entries of a table. -/
abbrev Entries := List (String × Value)

namespace Entries

/-- The entries with another value for a key that is there. -/
def set (key : String) (value : Value) : Entries → Entries
  | [] => []
  | (k, v) :: rest => if k = key then (k, value) :: rest else (k, v) :: set key value rest

/-- The entries with a value for a new key. -/
def assign? (key : String) (value : Value) (entries : Entries) : Option Entries :=
  match entries.lookup key with
  | some _ => none
  | none => some (entries ++ [(key, value)])

/-- The entries with a value for a key of several parts, all but the last of which lead to a table.
Such a key makes the tables that are not there yet, and it adds to no table that has a header or
curly brackets of its own. -/
def assignAlong? : List String → String → Value → Entries → Option Entries
  | [], key, value, entries => assign? key value entries
  | part :: parts, key, value, entries =>
    match entries.lookup part with
    | none => do
      some (entries ++ [(part, .table .dotted (← assignAlong? parts key value []))])
    | some (.table form inner) =>
      if form = .dotted || (form = .implied && !parts.isEmpty) then do
        some (entries.set part (.table form (← assignAlong? parts key value inner)))
      else none
    | some (.tables earlier last) =>
      if parts.isEmpty then none
      else do some (entries.set part (.tables earlier (← assignAlong? parts key value last)))
    | some _ => none

/-- The entries after a change of the table that the parts of a header lead to.  Tables that are not
there yet are implied by it. -/
def within? (change : Entries → Option Entries) : List String → Entries → Option Entries
  | [], entries => change entries
  | part :: parts, entries =>
    match entries.lookup part with
    | none => do some (entries ++ [(part, .table .implied (← within? change parts []))])
    | some (.table .inline _) => none
    | some (.table form inner) => do
      some (entries.set part (.table form (← within? change parts inner)))
    | some (.tables earlier last) => do
      some (entries.set part (.tables earlier (← within? change parts last)))
    | some _ => none

/-- The entries after a header for a table.  A table has at most one header. -/
def openTable? (key : String) (entries : Entries) : Option Entries :=
  match entries.lookup key with
  | none => some (entries ++ [(key, .table .header [])])
  | some (.table .implied inner) => some (entries.set key (.table .header inner))
  | some _ => none

/-- The entries after a header for the next table of an array. -/
def openNext? (key : String) (entries : Entries) : Option Entries :=
  match entries.lookup key with
  | none => some (entries ++ [(key, .tables [] [])])
  | some (.tables earlier last) => some (entries.set key (.tables (earlier ++ [last]) []))
  | some _ => none

end Entries

/-- A key of one or several parts, the last of which names the entry. -/
structure Key where
  parts : List String
  last : String
deriving DecidableEq

/-- The entries of a table between curly brackets. -/
def inlineEntries? (assignments : List (Key × Value)) : Option Entries :=
  assignments.foldlM (fun entries (key, value) => entries.assignAlong? key.parts key.last value) []

/-- A line of a document. -/
inductive Statement where
  | assign (key : Key) (value : Value)
  | table (key : Key)
  /-- Begins the next table of an array. -/
  | nextTable (key : Key)

/-- A document up to some line: its entries, and the way to the table that assignments go to. -/
structure Draft where
  entries : Entries := []
  current : List String := []

/-- The document with one more line. -/
def Draft.extend? (draft : Draft) : Statement → Option Draft
  | .assign key value => do
    let entries ← draft.entries.within? (·.assignAlong? key.parts key.last value) draft.current
    some { draft with entries := entries }
  | .table key => do
    some ⟨← draft.entries.within? (·.openTable? key.last) key.parts, key.parts ++ [key.last]⟩
  | .nextTable key => do
    some ⟨← draft.entries.within? (·.openNext? key.last) key.parts, key.parts ++ [key.last]⟩

/-- The entries of a document with the given lines. -/
def document? (lines : List Statement) : Option Entries :=
  (lines.foldlM Draft.extend? {}).map (·.entries)

end StructMatch.Toml
