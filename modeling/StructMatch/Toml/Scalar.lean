import StructMatch.Numeral.Reading
import StructMatch.Text.Blank
import StructMatch.Text.Digit
import StructMatch.Toml.Value

/-!
# Reading TOML scalars

A reading takes a form off the beginning of a text or fails.  A text between quotes may span lines
if the quotes are tripled, and double quotes allow escapes.  Numbers may have underscores between
digits.
-/

namespace StructMatch.Toml

open Text

/-- Takes a form off the beginning of a text, or fails. -/
abbrev Reading := StateT (List Char) Option

namespace Reading

/-- Takes a fixed text. -/
def mark (text : String) : Reading Unit := fun cs => (afterStart? text.toList cs).map ((), ·)

/-- Takes a fixed text if it is there, and tells whether it was. -/
def markIfAny (text : String) : Reading Bool := fun cs =>
  match afterStart? text.toList cs with
  | some rest => some (true, rest)
  | none => some (false, cs)

/-- The next character, which is not taken. -/
def peek : Reading (Option Char) := return (← get).head?

/-- Takes the longest run of characters that pass a test. -/
def run (test : Char → Bool) : Reading (List Char) := fun cs => some (cs.span test)

/-- Fails unless the condition holds. -/
def require (condition : Bool) : Reading Unit := if condition then pure () else failure

/-- Takes what the reading takes, or nothing if it fails. -/
def ifAny {α : Type} (reading : Reading α) : Reading (Option α) :=
  (some <$> reading) <|> pure none

/-- Tells which part of the text a reading takes. -/
def spelled (reading : Reading Unit) : Reading String := fun cs =>
  (reading cs).map fun (_, rest) => (String.ofList (cs.take (cs.length - rest.length)), rest)

end Reading

open Reading

/-! ## Blanks and comments -/

/-- Whether a character may stand in a text or a comment as it is. -/
def isPlain (c : Char) : Bool := c = '\t' || (0x20 ≤ c.toNat && c.toNat ≠ 0x7F)

/-- Takes the blanks inside of a line. -/
def blanks : Reading Unit := do
  let _ ← run fun c => c = ' ' || c = '\t'

/-- Takes the end of a line. -/
def lineEnd : Reading Unit := mark "\n" <|> mark "\r\n"

/-- Takes a comment up to the end of its line. -/
def comment : Reading Unit := do
  mark "#"
  let _ ← run isPlain

/-- Takes the end of a line, which the end of the text is too. -/
def lineEndOrEnd : Reading Unit := do
  if (← peek).isSome then lineEnd

/-- Takes what may stand after a statement on its line. -/
def trailing : Reading Unit := do
  blanks
  let _ ← ifAny comment
  lineEndOrEnd

/-- Takes blanks, ends of lines and comments, at most the given number of lines. -/
def blankLines : Nat → Reading Unit
  | 0 => pure ()
  | n + 1 => do
    blanks
    match ← peek with
    | some '#' => comment; lineEnd; blankLines n
    | some '\n' => lineEnd; blankLines n
    | some '\r' => lineEnd; blankLines n
    | _ => pure ()

/-- Takes blanks, ends of lines and comments. -/
def layout : Reading Unit := do blankLines ((← get).length + 1)

/-! ## Texts -/

/-- Takes a code point that is written with the given number of digits. -/
def codePoint (count : Nat) : Reading Char := fun cs =>
  let digits := cs.take count
  let value := digitsInBase 16 digits
  if digits.length = count && digits.all isHexDigit && value.isValidChar then
    some (Char.ofNat value, cs.drop count)
  else none

/-- Takes an escape after its backslash. -/
def escape : Reading Char := fun
  | 'b' :: cs => some ('\x08', cs)
  | 't' :: cs => some ('\t', cs)
  | 'n' :: cs => some ('\n', cs)
  | 'f' :: cs => some ('\x0c', cs)
  | 'r' :: cs => some ('\r', cs)
  | '"' :: cs => some ('"', cs)
  | '\\' :: cs => some ('\\', cs)
  | 'u' :: cs => codePoint 4 cs
  | 'U' :: cs => codePoint 8 cs
  | _ => none

/-- The kinds of texts: the quote, and whether there are escapes. -/
structure Quoting where
  quote : Char
  hasEscapes : Bool

/-- Texts between double quotes. -/
def basic : Quoting := ⟨'"', true⟩

/-- Texts between single quotes. -/
def literal : Quoting := ⟨'\'', false⟩

/-- Takes a text on one line after its opening quote.  The number bounds its characters. -/
def lineBody (quoting : Quoting) : Nat → Reading (List Char)
  | 0 => failure
  | n + 1 => fun
    | [] => none
    | c :: cs =>
      if c = quoting.quote then some ([], cs)
      else if c = '\\' && quoting.hasEscapes then
        (do return (← escape) :: (← lineBody quoting n)) cs
      else if isPlain c then (do return c :: (← lineBody quoting n)) cs
      else none

/-- Takes a backslash and all blanks and ends of lines after it, of which one has to be on its own
line. -/
def lineBreak : Reading Unit := do
  mark "\\"
  blanks
  lineEnd
  more ((← get).length + 1)
where
  /-- Takes blank lines, at most the given number. -/
  more : Nat → Reading Unit
    | 0 => pure ()
    | n + 1 => do
      blanks
      if (← ifAny lineEnd).isSome then more n

/-- Takes a text of several lines after its opening quotes.  Up to two quotes in a row belong to the
text, and so do up to two quotes before the three that close it.  The number bounds its
characters. -/
def linesBody (quoting : Quoting) : Nat → Reading (List Char)
  | 0 => failure
  | n + 1 => do
    let cs ← get
    let quotes := cs.takeWhile (· = quoting.quote)
    if 3 ≤ quotes.length then
      let inner := min 2 (quotes.length - 3)
      set (cs.drop (inner + 3))
      return quotes.take inner
    else
      match cs with
      | [] => failure
      | c :: rest =>
        if (← ifAny lineEnd).isSome then return '\n' :: (← linesBody quoting n)
        else if c = '\\' && quoting.hasEscapes then
          if (← ifAny lineBreak).isSome then linesBody quoting n
          else
            set rest
            return (← escape) :: (← linesBody quoting n)
        else
          require (isPlain c)
          set rest
          return c :: (← linesBody quoting n)

/-- Takes a text on one line. -/
def lineText (quoting : Quoting) : Reading String := do
  mark quoting.quote.toString
  return String.ofList (← lineBody quoting ((← get).length + 1))

/-- Takes a text of several lines. -/
def linesText (quoting : Quoting) : Reading String := do
  mark (String.ofList [quoting.quote, quoting.quote, quoting.quote])
  let _ ← ifAny lineEnd
  return String.ofList (← linesBody quoting ((← get).length + 1))

/-- Takes a text of either kind. -/
def text (quoting : Quoting) : Reading String := do
  let quotes := (← get).takeWhile (· = quoting.quote)
  if 3 ≤ quotes.length then linesText quoting else lineText quoting

/-! ## Numbers -/

/-- The digits at the beginning of a text without the underscores between them, and what follows. -/
def digitRun (isDigit : Char → Bool) : List Char → List Char × List Char
  | [] => ([], [])
  | c :: cs =>
    if isDigit c then
      let (digits, rest) := digitRun isDigit cs
      (c :: digits, rest)
    else if c = '_' && cs.head?.any isDigit then digitRun isDigit cs
    else ([], c :: cs)

/-- Takes at least one digit. -/
def digits (isDigit : Char → Bool) : Reading (List Char) := do
  require ((← peek).any isDigit)
  modifyGet (digitRun isDigit)

/-- Takes digits without needless zeros before them. -/
def wholeDigits : Reading (List Char) := do
  if ← markIfAny "0" then return ['0'] else digits Char.isDigit

/-- Takes a sign, if there is one. -/
def sign : Reading (List Char) := do
  if ← markIfAny "-" then return ['-']
  else
    let _ ← markIfAny "+"
    return []

/-- The value of an integer, unless it needs more than 64 bits. -/
def integer? (value : Int) : Option Value :=
  let limit : Int := Nat.pow 2 63
  if -limit ≤ value && value < limit then some (.integer value) else none

/-- Takes an integer in a base that its mark names. -/
def markedInteger : Reading Value := do
  let (base, isDigit) ←
    if ← markIfAny "0x" then pure (16, isHexDigit)
    else if ← markIfAny "0o" then pure (8, fun c => '0' ≤ c && c ≤ '7')
    else
      mark "0b"
      pure (2, fun c => c = '0' || c = '1')
  liftM (integer? (digitsInBase base (← digits isDigit)))

/-- Takes the digits after a point. -/
def fraction : Reading (List Char) := do
  if ← markIfAny "." then return '.' :: (← digits Char.isDigit) else return []

/-- Takes a power of ten. -/
def power : Reading (List Char) := do
  if (← peek).any fun c => c = 'e' || c = 'E' then
    modify (·.drop 1)
    return 'e' :: (← sign) ++ (← digits Char.isDigit)
  else return []

/-- The value of a decimal number, unless it is too great for the format. -/
def decimal? (text : List Char) : Option Value :=
  match Numeral.Binary.read? Numeral.double (String.ofList text) with
  | some (.infinity false) => none
  | other => other.map .decimal

/-- Takes a number that is written with decimal digits. -/
def decimalNumber : Reading Value := do
  let signs ← sign
  let whole ← wholeDigits
  let parts := (← fraction) ++ (← power)
  if parts.isEmpty then
    let value : Int := digitsInBase 10 whole
    liftM (integer? (if signs.isEmpty then value else -value))
  else liftM (decimal? (signs ++ whole ++ parts))

/-- Takes one of the words for numbers that have no digits. -/
def wordNumber : Reading Value := do
  let negative := !(← sign).isEmpty
  if ← markIfAny "inf" then return .decimal (.infinity negative)
  else
    mark "nan"
    return .decimal .notANumber

/-! ## Dates and times -/

/-- Takes a number of exactly the given count of digits that lies between two bounds. -/
def counted (count low high : Nat) : Reading Nat := fun cs =>
  let digits := cs.take count
  let value := digitsInBase 10 digits
  if digits.length = count && digits.all Char.isDigit && low ≤ value && value ≤ high then
    some (value, cs.drop count)
  else none

/-- The days of a month. -/
def daysIn (year month : Nat) : Nat :=
  if month = 2 then
    if year % 4 = 0 && (year % 100 ≠ 0 || year % 400 = 0) then 29 else 28
  else if month = 4 || month = 6 || month = 9 || month = 11 then 30
  else 31

/-- Takes a date. -/
def date : Reading Unit := do
  let year ← counted 4 0 9999
  mark "-"
  let month ← counted 2 1 12
  mark "-"
  let _ ← counted 2 1 (daysIn year month)

/-- Takes a time. -/
def time : Reading Unit := do
  let _ ← counted 2 0 23
  mark ":"
  let _ ← counted 2 0 59
  mark ":"
  let _ ← counted 2 0 60
  let _ ← ifAny do
    mark "."
    require ((← peek).any Char.isDigit)
    run Char.isDigit

/-- Takes the distance of a time from the standard one. -/
def offset : Reading Unit :=
  mark "Z" <|> mark "z" <|> do
    mark "+" <|> mark "-"
    let _ ← counted 2 0 23
    mark ":"
    let _ ← counted 2 0 59

/-- Takes a date, a time or both. -/
def moment : Reading Value := do
  let withTime := do
    mark "T" <|> mark "t" <|> mark " "
    time
    ifAny offset
  let dated := do
    date
    let _ ← ifAny withTime
  return .moment (← spelled (dated <|> time))

/-! ## All scalars -/

/-- Takes a truth value. -/
def truth : Reading Value :=
  (do mark "true"; return .truth true) <|> do
    mark "false"
    return .truth false

/-- Takes a value without parts. -/
def scalar : Reading Value :=
  (.text <$> text basic) <|> (.text <$> text literal) <|> moment <|> wordNumber <|>
    markedInteger <|> decimalNumber <|> truth

end StructMatch.Toml
