import StructMatch.Source.Token
import StructMatch.Text.Blank
import StructMatch.Text.Digit
import StructMatch.Text.Identifier

/-!
# Reading literals

A reader for a form of literal takes the characters at which it begins and answers what follows it,
or nothing if no such literal begins there.  The escapes allowed in a quoted literal differ between
texts, bytes and null-terminated texts.  Directly after a literal a suffix may stand, which is a
word.
-/

namespace StructMatch.Source

open Text

/-- A reader answers what follows the form that it reads. -/
abbrev Reader := List Char → Option (List Char)

/-- The word without mark at the beginning of a text, and what follows. -/
def plainWord? : List Char → Option (List Char × List Char)
  | [] => none
  | c :: cs =>
    if isIdentStart c then
      some (c :: cs.takeWhile isIdentContinue, cs.dropWhile isIdentContinue)
    else none

/-- What follows the suffix of a literal, if it has one. -/
def afterSuffix (cs : List Char) : List Char :=
  match plainWord? cs with
  | some (_, rest) => rest
  | none => cs

/-! ## Escapes -/

/-- The kinds of quoted literals, by what they may hold. -/
inductive Quoted where
  | text
  | bytes
  | nullTerminated
deriving DecidableEq

/-- What follows the two digits of an escape by value. -/
def afterHexPair? (quoted : Quoted) : Reader
  | a :: b :: cs =>
    let fits :=
      match quoted with
      | .text => '0' ≤ a && a ≤ '7' && isHexDigit b
      | .bytes => isHexDigit a && isHexDigit b
      | .nullTerminated => isHexDigit a && isHexDigit b && (a, b) ≠ ('0', '0')
    if fits then some cs else none
  | _ => none

/-- The code point written between curly brackets, and what follows.  Underscores may stand after
the first digit, and there are at most six digits. -/
def codePoint? : List Char → Option (Nat × List Char)
  | '\x7b' :: cs => go 0 0 cs
  | _ => none
where
  /-- Reads the digits, with the value and the count of those read before. -/
  go (value count : Nat) : List Char → Option (Nat × List Char)
    | [] => none
    | c :: cs =>
      if c = '_' && 0 < count then go value count cs
      else if c = '\x7d' && 0 < count then
        if value < 0xD800 || (0xE000 ≤ value && value < 0x110000) then some (value, cs) else none
      else if isHexDigit c && count < 6 then go (16 * value + hexValue c) (count + 1) cs
      else none

/-- What follows the blanks that a backslash at the end of a line skips.  The argument tells whether
the character before is a carriage return, which only a line feed may follow. -/
def afterLineBreak? : Bool → Reader
  | true, '\n' :: cs => afterLineBreak? false cs
  | true, _ => none
  | false, [] => none
  | false, c :: cs =>
    if c = '\r' then afterLineBreak? true cs
    else if c = ' ' || c = '\t' || c = '\n' then afterLineBreak? false cs
    else some (c :: cs)

/-- What follows an escape after its backslash. -/
def afterEscape? (quoted : Quoted) (lineBreaks : Bool) : Reader
  | [] => none
  | c :: cs =>
    if c = 'x' then afterHexPair? quoted cs
    else if c = 'n' || c = 'r' || c = 't' || c = '\\' || c = '\'' || c = '"' then some cs
    else if c = '0' then if quoted = .nullTerminated then none else some cs
    else if c = 'u' then
      match quoted, codePoint? cs with
      | .bytes, _ => none
      | .nullTerminated, some (0, _) => none
      | _, some (_, cs) => some cs
      | _, none => none
    else if c = '\n' && lineBreaks then afterLineBreak? false cs
    else if c = '\r' && lineBreaks then afterLineBreak? true cs
    else none

/-- Whether a character may stand in a quoted literal as it is. -/
def Quoted.admits (quoted : Quoted) (c : Char) : Bool :=
  match quoted with
  | .text => true
  | .bytes => c.toNat < 128
  | .nullTerminated => c ≠ '\x00'

/-! ## Quoted literals -/

/-- What follows a quoted literal after its opening quote.  The first argument bounds the characters
to read. -/
def afterQuoted? (quoted : Quoted) : Nat → Reader
  | 0, _ => none
  | _ + 1, [] => none
  | n + 1, c :: cs =>
    if c = '"' then some (afterSuffix cs)
    else if c = '\r' then
      match cs with
      | '\n' :: cs => afterQuoted? quoted n cs
      | _ => none
    else if c = '\\' then (afterEscape? quoted true cs).bind (afterQuoted? quoted n)
    else if quoted.admits c then afterQuoted? quoted n cs
    else none

/-- What follows a raw literal after its mark: hashes, a quote, any characters, and a quote followed
by as many hashes. -/
def afterRaw? (quoted : Quoted) (cs : List Char) : Option (List Char) :=
  let hashes := cs.takeWhile (· = '#')
  match cs.dropWhile (· = '#') with
  | '"' :: cs => if hashes.length ≤ 255 then go hashes cs else none
  | _ => none
where
  /-- Looks for the closing quote and hashes. -/
  go (hashes : List Char) : Reader
    | [] => none
    | '\r' :: cs =>
      match cs with
      | '\n' :: cs => go hashes cs
      | _ => none
    | '"' :: cs =>
      match afterStart? hashes cs with
      | some rest => some (afterSuffix rest)
      | none => go hashes cs
    | c :: cs => if quoted.admits c then go hashes cs else none

/-- What follows a literal of one character between single quotes, after its opening quote. -/
def afterQuotedChar? (quoted : Quoted) (cs : List Char) : Option (List Char) :=
  let rest? :=
    match cs with
    | [] => none
    | '\\' :: cs => afterEscape? quoted false cs
    | c :: cs => if quoted.admits c then some cs else none
  match rest? with
  | some ('\'' :: cs) => some (afterSuffix cs)
  | _ => none

/-! ## Numbers -/

/-- The digits of the bases, by the mark that a number begins with. -/
def baseAndDigits : List Char → Nat × List Char
  | '0' :: 'x' :: cs => (16, cs)
  | '0' :: 'o' :: cs => (8, cs)
  | '0' :: 'b' :: cs => (2, cs)
  | cs => (10, cs)

/-- What follows the digits of an integer.  A decimal digit must fit the base, while a letter that
does not fit it ends the digits. -/
def afterDigits? (base : Nat) (seen : Bool) : Reader
  | [] => if seen then some [] else none
  | c :: cs =>
    if c.isDigit then if hexValue c < base then afterDigits? base true cs else none
    else if isHexDigit c && hexValue c < base then afterDigits? base true cs
    else if c = '_' then if !seen && base = 10 then none else afterDigits? base seen cs
    else if seen then some (c :: cs) else none

/-- What follows a number, unless a word goes on directly after it. -/
def endNumber (cs : List Char) : Option (List Char) :=
  let rest := afterSuffix cs
  if rest.head?.any isIdentContinue then none else some rest

/-- What follows an integer. -/
def afterInteger? (cs : List Char) : Option (List Char) :=
  let (base, digits) := baseAndDigits cs
  (afterDigits? base false digits).bind endNumber

/-- The place that an integer stands for, in any base and without a suffix. -/
def placeOf? (text : String) : Option Nat :=
  let (base, marked) := baseAndDigits text.toList
  let digits := marked.filter (· ≠ '_')
  let value := digitsInBase base digits
  let fits := digits.all fun c => isHexDigit c && hexValue c < base
  if !digits.isEmpty && fits && value < Nat.pow 2 32 then some value else none

/-- What follows the exponent of a decimal number after its letter, if there is one.  The arguments
tell whether a sign and a digit were read. -/
def afterExponent? (signed valued : Bool) : Reader
  | [] => if valued then some [] else none
  | c :: cs =>
    if c = '+' || c = '-' then
      if valued then some (c :: cs) else if signed then none else afterExponent? true false cs
    else if c.isDigit then afterExponent? signed true cs
    else if c = '_' then afterExponent? signed valued cs
    else if valued then some (c :: cs) else none

/-- What follows a decimal number before its suffix.  A point must not be followed by another one or
by a word, and a number without a point needs an exponent. -/
def afterDecimalDigits? (pointed : Bool) : Reader
  | [] => if pointed then some [] else none
  | c :: cs =>
    if c.isDigit || c = '_' then afterDecimalDigits? pointed cs
    else if c = '.' && !pointed then
      if cs.head?.any fun d => d = '.' || isIdentStart d then none
      else afterDecimalDigits? true cs
    else if c = 'e' || c = 'E' then
      match afterExponent? false false cs with
      | some rest => some rest
      | none => if pointed then some (c :: cs) else none
    else if pointed then some (c :: cs) else none

/-- What follows a decimal number. -/
def afterDecimal? : Reader
  | [] => none
  | c :: cs => if c.isDigit then (afterDecimalDigits? false (c :: cs)).bind endNumber else none

/-! ## All literals -/

/-- The readers of all forms of literals, in the order in which they are tried. -/
def literalReaders : List (LiteralKind × Reader) :=
  let after := fun (mark : String) (reader : Reader) cs =>
    (afterStart? mark.toList cs).bind reader
  let quoted := fun (kind : Quoted) cs => afterQuoted? kind (cs.length + 1) cs
  [(.text, after "\"" (quoted .text)), (.text, after "r" (afterRaw? .text)),
    (.byteText, after "b\"" (quoted .bytes)), (.byteText, after "br" (afterRaw? .bytes)),
    (.nullTerminatedText, after "c\"" (quoted .nullTerminated)),
    (.nullTerminatedText, after "cr" (afterRaw? .nullTerminated)),
    (.byte, after "b'" (afterQuotedChar? .bytes)), (.char, after "'" (afterQuotedChar? .text)),
    (.decimal, afterDecimal?), (.integer, afterInteger?)]

/-- The literal at the beginning of a text, and what follows it. -/
def readLiteral? (cs : List Char) : Option (Token × List Char) :=
  literalReaders.findSome? fun (kind, reader) =>
    (reader cs).map fun rest =>
      (.literal kind (String.ofList (cs.take (cs.length - rest.length))), rest)

end StructMatch.Source
