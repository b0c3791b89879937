/-!
# Binary floating-point numbers

A format of binary floating-point numbers is a precision and a range of exponents.  A number of the
format is kept by what it denotes: not a number, an infinity, or `± m · 2 ^ q` with a significand
`m` of at most `precision` bits.  Two numbers are equal as IEEE 754 says: nothing equals what is not
a number, and the two zeros are equal.

Rounding takes a positive quotient to the nearest number of the format, and of two that are equally
near to the one with the even significand.
-/

namespace StructMatch.Numeral

/-- A binary format: the bits of a significand, and the exponents of its last place. -/
structure Format where
  precision : Nat
  least : Int
  greatest : Int
deriving DecidableEq

/-- Single precision. -/
def single : Format := ⟨24, -149, 104⟩

/-- Double precision. -/
def double : Format := ⟨53, -1074, 971⟩

/-- A floating-point number by its meaning. -/
inductive Binary (format : Format) where
  | notANumber
  | infinity (negative : Bool)
  /-- The number `± significand · 2 ^ exponent`. -/
  | finite (negative : Bool) (significand : Nat) (exponent : Int)

namespace Binary

variable {format : Format}

/-- Equality of numbers, under which `notANumber` differs from itself and both zeros agree.  The
least exponent that fits is used for every number, so that equal numbers have equal parts. -/
protected def beq : Binary format → Binary format → Bool
  | infinity s, infinity t => s == t
  | finite s m p, finite t n q => (m == 0 && n == 0) || (s == t && m == n && p == q)
  | _, _ => false

instance : BEq (Binary format) := ⟨Binary.beq⟩

/-- The same magnitude with the given sign. -/
def withSign (negative : Bool) : Binary format → Binary format
  | notANumber => notANumber
  | infinity _ => infinity negative
  | finite _ m q => finite negative m q

end Binary

/-- The quotient of two numbers, rounded to the nearest integer and to the even one at a tie. -/
def divToEven (num den : Nat) : Nat :=
  let q := num / den
  let r := num % den
  if 2 * r < den then q
  else if den < 2 * r then q + 1
  else if q % 2 = 0 then q else q + 1

/-- The quotient `num / den` scaled by `base ^ (-e)`, as a fraction of natural numbers. -/
def scaled (base num den : Nat) (e : Int) : Nat × Nat :=
  if 0 ≤ e then (num, den * Nat.pow base e.toNat) else (num * Nat.pow base (-e).toNat, den)

/-- The exponent `e` with `2 ^ e ≤ num / den < 2 ^ (e + 1)`, for positive numbers. -/
def log2Quotient (num den : Nat) : Int :=
  let e : Int := (num.log2 : Int) - (den.log2 : Int)
  let (n, d) := scaled 2 num den e
  if n < d then e - 1 else e

/-- The number of the format nearest to the quotient `num / den`, an infinity when that is out of
range. -/
def Binary.round (format : Format) (num den : Nat) : Binary format :=
  if num = 0 then .finite false 0 format.least
  else
    let q := max format.least (log2Quotient num den - (format.precision - 1 : Nat))
    let (n, d) := scaled 2 num den q
    let m := divToEven n d
    let (m, q) :=
      if m = Nat.pow 2 format.precision then (Nat.pow 2 (format.precision - 1), q + 1) else (m, q)
    if format.greatest < q then .infinity false else .finite false m q

end StructMatch.Numeral
