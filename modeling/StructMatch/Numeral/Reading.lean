import StructMatch.Numeral.Binary

/-!
# Reading floating-point numbers

A number is written as digits with an optional sign, fraction and power of ten, or as one of the
words `inf`, `infinity` and `nan` in any letter case.  It denotes the number of the format nearest
to the decimal value.
-/

namespace StructMatch.Numeral

/-- The value of a run of decimal digits. -/
def digitsValue (cs : List Char) : Nat :=
  cs.foldl (fun n c => 10 * n + (c.toNat - '0'.toNat)) 0

/-- The leading decimal digits of a text and what follows them. -/
def spanDigits (cs : List Char) : List Char × List Char :=
  cs.span Char.isDigit

/-- The sign that a text may begin with, and the rest. -/
def readSign : List Char → Bool × List Char
  | '-' :: cs => (true, cs)
  | '+' :: cs => (false, cs)
  | cs => (false, cs)

/-- The power of ten that closes a number, all of the text being used up. -/
def readPower? : List Char → Option Int
  | [] => some 0
  | c :: cs =>
    if c = 'e' || c = 'E' then
      let (negative, cs) := readSign cs
      if !cs.isEmpty && cs.all Char.isDigit then
        let n : Int := digitsValue cs
        some (if negative then -n else n)
      else none
    else none

/-- The decimal value `digits · 10 ^ power` in a format.  A magnitude far outside of every format
is settled by the count of its digits alone. -/
def Binary.ofDecimal (format : Format) (digits : Nat) (power : Int) : Binary format :=
  let size : Int := (Nat.toDigits 10 digits).length + power
  if digits = 0 || size < -400 then .finite false 0 format.least
  else if 400 < size then .infinity false
  else
    let (num, den) := scaled 10 digits 1 (-power)
    Binary.round format num den

/-- An unsigned number written with digits. -/
def Binary.readDigits? (format : Format) (cs : List Char) : Option (Binary format) := do
  let (whole, rest) := spanDigits cs
  let (part, rest) :=
    match rest with
    | '.' :: rest => spanDigits rest
    | rest => ([], rest)
  if whole.isEmpty && part.isEmpty then none
  else
    let power ← readPower? rest
    some (Binary.ofDecimal format (digitsValue (whole ++ part)) (power - part.length))

/-- The number that a text denotes. -/
def Binary.read? (format : Format) (text : String) : Option (Binary format) :=
  let (negative, cs) := readSign text.toList
  let number : Option (Binary format) :=
    match String.ofList (cs.map Char.toLower) with
    | "inf" => some (.infinity false)
    | "infinity" => some (.infinity false)
    | "nan" => some .notANumber
    | _ => Binary.readDigits? format cs
  number.map (Binary.withSign negative)

end StructMatch.Numeral
