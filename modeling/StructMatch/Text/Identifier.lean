import StructMatch.Text.Identifier.Table

/-!
# Identifiers

An identifier begins with a character of the Unicode property `XID_Start` or with an underscore, and
goes on with characters of `XID_Continue`.  A raw identifier carries the mark `r#`, by which a
reserved word may serve as a name.  Five words have a meaning of their own in a path and cannot be
marked so.
-/

namespace StructMatch.Text

open Identifier

/-- Whether the character may begin an identifier. -/
def isIdentStart (c : Char) : Bool :=
  if c.toNat < 128 then c.isAlpha || c == '_' else inRuns startRuns c

/-- Whether the character may follow in an identifier. -/
def isIdentContinue (c : Char) : Bool :=
  if c.toNat < 128 then c.isAlphanum || c == '_' else inRuns continueRuns c

/-- Whether the text is an identifier.  Reserved words and a lone underscore are. -/
def isIdentifier : List Char → Bool
  | [] => false
  | c :: cs => isIdentStart c && cs.all isIdentContinue

/-- The words that cannot be raw identifiers. -/
def pathWords : List String := ["_", "super", "self", "Self", "crate"]

/-- Whether the text may follow the mark `r#`. -/
def isRawIdentifier (name : String) : Bool :=
  isIdentifier name.toList && !pathWords.contains name

/-- The words that a plain identifier cannot be. -/
def reservedWords : List String :=
  ["_", "abstract", "as", "async", "await", "become", "box", "break", "const", "continue", "crate",
    "do", "dyn", "else", "enum", "extern", "false", "final", "fn", "for", "if", "impl", "in", "let",
    "loop", "macro", "match", "mod", "move", "mut", "override", "priv", "pub", "ref", "return",
    "Self", "self", "static", "struct", "super", "trait", "true", "try", "type", "typeof", "unsafe",
    "unsized", "use", "virtual", "where", "while", "yield"]

/-- Whether the word is reserved.  A raw identifier never is. -/
def isReserved (word : String) : Bool := reservedWords.contains word

/-- The name without the mark of a raw identifier. -/
def unraw (name : String) : String :=
  match afterMark name.toList with
  | some cs => String.ofList cs
  | none => name
where
  /-- What follows the mark, if the name has it. -/
  afterMark : List Char → Option (List Char)
    | 'r' :: '#' :: cs => some cs
    | _ => none

/-- A word of source code: an identifier, with or without the mark of a raw one. -/
structure Word where
  text : String
  isWord : isIdentifier (unraw text).toList = true

namespace Word

/-- The name that the word stands for. -/
def plain (word : Word) : String := unraw word.text

/-- The word that a text spells, if it spells one. -/
def ofText? (text : String) : Option Word :=
  if isWord : isIdentifier (unraw text).toList = true then some ⟨text, isWord⟩ else none

end Word

end StructMatch.Text
