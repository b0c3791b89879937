/-!
# JSON documents

A document is written with one item a line, each line indented by two blanks for each bracket around
it.  Empty lists and records stay on one line.
-/

namespace StructMatch.Console

/-- A document, or a part of one. -/
inductive Json where
  | text (text : String)
  | count (n : Nat)
  | list (items : List Json)
  | record (fields : List (String × Json))

namespace Json

/-- A character inside of a text. -/
def escapeChar (c : Char) : List Char :=
  if c = '"' then ['\\', '"']
  else if c = '\\' then ['\\', '\\']
  else if c = '\x08' then ['\\', 'b']
  else if c = '\x0c' then ['\\', 'f']
  else if c = '\n' then ['\\', 'n']
  else if c = '\r' then ['\\', 'r']
  else if c = '\t' then ['\\', 't']
  else if c.toNat < 16 then "\\u000".toList ++ Nat.toDigits 16 c.toNat
  else if c.toNat < 32 then "\\u00".toList ++ Nat.toDigits 16 c.toNat
  else [c]

/-- A text between quotes. -/
def quote (text : String) : List Char := '"' :: text.toList.flatMap escapeChar ++ ['"']

/-- A new line, indented for a part inside of the given number of brackets. -/
def newLine (depth : Nat) : List Char := '\n' :: List.replicate (2 * depth) ' '

mutual

/-- A part of a document inside of the given number of brackets. -/
def write (depth : Nat) : Json → List Char
  | text t => quote t
  | count n => Nat.toDigits 10 n
  | list [] => ['[', ']']
  | list (item :: items) =>
    '[' :: newLine (depth + 1) ++ write (depth + 1) item ++ writeItems (depth + 1) items ++
      newLine depth ++ [']']
  | record [] => ['\x7b', '\x7d']
  | record ((name, value) :: fields) =>
    '\x7b' :: newLine (depth + 1) ++ quote name ++ [':', ' '] ++ write (depth + 1) value ++
      writeFields (depth + 1) fields ++ newLine depth ++ ['\x7d']

/-- The items of a list after the first one. -/
def writeItems (depth : Nat) : List Json → List Char
  | [] => []
  | item :: items => ',' :: newLine depth ++ write depth item ++ writeItems depth items

/-- The fields of a record after the first one. -/
def writeFields (depth : Nat) : List (String × Json) → List Char
  | [] => []
  | (name, value) :: fields =>
    ',' :: newLine depth ++ quote name ++ [':', ' '] ++ write depth value ++
      writeFields depth fields

end

/-- The text of a document. -/
def render (json : Json) : String := String.ofList (json.write 0)

end Json

end StructMatch.Console
