import StructMatch.Text.Printable.Table

/-!
# Quoted text

A text is quoted by writing it between quotes, with escapes for what a reader could not see or would
misread: the control characters that have a letter of their own (`\t`, `\r`, `\n`, `\0`), the
backslash, the quote, marks that would attach to the character before them, and every code point
without a visible mark, which is written by its hexadecimal number.

Quoting differs only in which quotes are escaped, so that is the parameter.
-/

namespace StructMatch.Text

open Printable

/-- Which of the two quotes are escaped. -/
structure Quotes where
  single : Bool
  double : Bool

/-- A code point as an escape by number. -/
def hexEscape (c : Char) : List Char :=
  "\\u\x7b".toList ++ Nat.toDigits 16 c.toNat ++ ['}']

/-- Whether a character is written by its number. -/
def needsNumber (c : Char) : Bool :=
  if c.toNat < 128 then c.toNat < 32 || c.toNat == 127
  else inRuns extendingRuns c || inRuns invisibleRuns c

/-- One character inside quotes. -/
def escapeChar (quotes : Quotes) (c : Char) : List Char :=
  if c = '\x00' then ['\\', '0']
  else if c = '\t' then ['\\', 't']
  else if c = '\r' then ['\\', 'r']
  else if c = '\n' then ['\\', 'n']
  else if c = '\\' then ['\\', '\\']
  else if c = '"' then if quotes.double then ['\\', '"'] else ['"']
  else if c = '\'' then if quotes.single then ['\\', '\''] else ['\'']
  else if needsNumber c then hexEscape c
  else [c]

/-- A text between double quotes. -/
def quote (text : String) : String :=
  String.ofList ('"' :: text.toList.flatMap (escapeChar ⟨false, true⟩) ++ ['"'])

/-- A character between single quotes. -/
def quoteChar (c : Char) : String :=
  String.ofList ('\'' :: escapeChar ⟨true, false⟩ c ++ ['\''])

/-- A file path between double quotes, where single quotes are escaped too. -/
def quotePath (text : String) : String :=
  String.ofList ('"' :: text.toList.flatMap (escapeChar ⟨true, true⟩) ++ ['"'])

/-- The inside of a string literal.  A null before an octal digit is written `\x00`, since `\0`
followed by such a digit reads like an octal escape. -/
def literalBody : List Char → List Char
  | [] => []
  | c :: cs =>
    if c = '\x00' && (cs.head?.any fun d => '0' ≤ d && d ≤ '7') then
      ['\\', 'x', '0', '0'] ++ literalBody cs
    else escapeChar ⟨false, true⟩ c ++ literalBody cs

/-- A text as a string literal of source code. -/
def literal (text : String) : String :=
  String.ofList ('"' :: literalBody text.toList ++ ['"'])

end StructMatch.Text
