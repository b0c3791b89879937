import StructMatch.Numeral.Binary

/-!
# The shortest decimal form of a number

The reals that round to a given floating-point number fill an interval around it, which holds its
ends when the significand is even.  The shortest decimal form is the first grid of one, two, three,
… digits that has a point in that interval.  Of the two points next to the number the nearer one is
taken, and the upper one when they are equally near.

How the digits are laid out is the choice of the writer: from `1e-4` on and below `1e16` a number is
written by position, with a fraction of at least one digit, and otherwise with a power of ten.
-/

namespace StructMatch.Numeral

/-- The decimal `digits · 10 ^ power`. -/
structure Decimal where
  digits : Nat
  power : Int

/-- The interval of reals around `m · 2 ^ q` that round to it, in units of `2 ^ (q - 2)`. -/
structure Interval where
  low : Nat
  high : Nat
  closed : Bool

/-- The rounding interval of a positive number.  The gap below a power of two is half the gap above
it, unless the exponent is already the least. -/
def Interval.around (format : Format) (m : Nat) (q : Int) : Interval where
  low := if m = Nat.pow 2 (format.precision - 1) && format.least < q then 4 * m - 1 else 4 * m - 2
  high := 4 * m + 2
  closed := m % 2 == 0

/-- Whether the point `d · 10 ^ k` lies in the interval, whose unit is `2 ^ u`. -/
def Interval.holds (i : Interval) (u : Int) (d : Nat) (k : Int) : Bool :=
  let (n, den) := scaled 10 d 1 (-k)
  let (n, den) := scaled 2 n den u
  if i.closed then i.low * den ≤ n && n ≤ i.high * den
  else i.low * den < n && n < i.high * den

/-- The exponent `e` with `10 ^ e ≤ num / den < 10 ^ (e + 1)`, searched upwards from a lower
bound. -/
def log10Quotient (num den : Nat) : Int :=
  let guess : Int := (log2Quotient num den * 30103 - 100000) / 100000
  climb 4 guess
where
  /-- Raises the exponent while the quotient reaches the next power. -/
  climb : Nat → Int → Int
    | 0, e => e
    | steps + 1, e =>
      let (n, d) := scaled 10 num den (e + 1)
      if d ≤ n then climb steps (e + 1) else e

/-- The greatest decimal of `count` digits that is at most `m · 2 ^ q`, and whether the next one is
at least as near. -/
def decimalBelow (m : Nat) (q : Int) (count : Nat) : Decimal × Bool :=
  let (num, den) := scaled 2 m 1 (-q)
  let power := log10Quotient num den + 1 - count
  let (n, d) := scaled 10 num den power
  (⟨n / d, power⟩, d ≤ 2 * (n % d))

/-- The shortest decimal in the rounding interval of `m · 2 ^ q`, searched from `count` digits on
with a bounded number of further grids. -/
def shortestFrom (format : Format) (m : Nat) (q : Int) : Nat → Nat → Decimal
  | 0, count => (decimalBelow m q count).1
  | more + 1, count =>
    let (below, nextIsNearer) := decimalBelow m q count
    let above : Decimal := ⟨below.digits + 1, below.power⟩
    let inside := fun d : Decimal => (Interval.around format m q).holds (q - 2) d.digits d.power
    match inside below, inside above with
    | true, true => if nextIsNearer then above else below
    | true, false => below
    | false, true => above
    | false, false => shortestFrom format m q more (count + 1)

/-- The decimal without trailing zero digits. -/
def Decimal.trimZeros (d : Decimal) : Decimal :=
  go (Nat.toDigits 10 d.digits).length d
where
  /-- Takes off at most the given number of zeros. -/
  go : Nat → Decimal → Decimal
    | 0, d => d
    | n + 1, d => if d.digits % 10 = 0 then go n ⟨d.digits / 10, d.power + 1⟩ else d

/-- The shortest decimal form of a positive number. -/
def shortest (format : Format) (m : Nat) (q : Int) : Decimal :=
  (shortestFrom format m q 17 1).trimZeros

/-- A decimal written by position, with at least one digit on each side of the point. -/
def Decimal.positional (d : Decimal) : List Char :=
  let ds := Nat.toDigits 10 d.digits
  if 0 ≤ d.power then ds ++ List.replicate d.power.toNat '0' ++ ['.', '0']
  else
    let places := (-d.power).toNat
    let ds := List.replicate (places + 1 - ds.length) '0' ++ ds
    ds.take (ds.length - places) ++ ['.'] ++ ds.drop (ds.length - places)

/-- A decimal written with one digit before the point and a power of ten. -/
def Decimal.scientific (d : Decimal) : List Char :=
  let ds := Nat.toDigits 10 d.digits
  let power := d.power + (ds.length - 1 : Nat)
  let fraction :=
    match ds.tail with
    | [] => []
    | rest => '.' :: rest
  ds.take 1 ++ fraction ++ ['e'] ++ (toString power).toList

/-- Whether the positive number `m · 2 ^ q` is below `1e-4` or at least `1e16`, as these two bounds
read in the format. -/
def needsPower (format : Format) (m : Nat) (q : Int) : Bool :=
  let (num, den) := scaled 2 m 1 (-q)
  let below : Binary format → Bool := fun
    | .finite _ m' q' =>
      let (num', den') := scaled 2 m' 1 (-q')
      num * den' < num' * den
    | _ => false
  below (Binary.round format 1 10000) || !below (Binary.round format (Nat.pow 10 16) 1)

/-- The text of a number. -/
def Binary.text {format : Format} : Binary format → String
  | notANumber => "NaN"
  | infinity negative => if negative then "-inf" else "inf"
  | finite negative m q =>
    let magnitude :=
      if m = 0 then "0.0".toList
      else
        let d := shortest format m q
        if needsPower format m q then d.scientific else d.positional
    String.ofList (if negative then '-' :: magnitude else magnitude)

end StructMatch.Numeral
