/-
# Shortest decimals

The shortest decimal that reads back as a given number, and among those of that length the one
nearest to it.

A finite number `m * 2 ^ q` owns the reals that round to it: an interval around it, its ends
included exactly when `m` is even.  For one digit, two digits and so on the two neighbours of the
number on the grid of decimals with that many digits are tried; the first grid on which one of
them lies in the interval gives the answer.  All of it is integer arithmetic: numbers are scaled
by a common denominator first.
-/
import WideColumn.Number.Binary

namespace WideColumn.Number

/-- A positive decimal `digits * 10 ^ exponent`. -/
structure Decimal where
  digits : Nat
  exponent : Int
  deriving DecidableEq, Repr

namespace Decimal

/-- Moves trailing zeros of the digits into the exponent; `fuel` bounds their number. -/
def trimZeros : Nat → Decimal → Decimal
  | 0, d => d
  | fuel + 1, d =>
    if d.digits != 0 && d.digits % 10 == 0 then trimZeros fuel ⟨d.digits / 10, d.exponent + 1⟩
    else d

/-- How many digits there are. -/
def length (d : Decimal) : Nat := (Nat.toDigits 10 d.digits).length

/-- Where the point stands, counted from the front of the digits: `0.ddd * 10 ^ point`. -/
def point (d : Decimal) : Int := d.exponent + d.length

end Decimal

/-- The reals that round to a number, over a common denominator: `low / den` to `high / den`
around `mid / den`. -/
structure RoundingInterval where
  low : Nat
  mid : Nat
  high : Nat
  den : Nat
  closed : Bool

namespace RoundingInterval

/-- The interval of a finite number other than zero.  Below a power of two the numbers lie twice
as close, so there the lower end is nearer. -/
def of {f : Format} (x : Binary f) : RoundingInterval :=
  let (m, q) := x.parts
  let atPower := m == Nat.pow 2 f.fractionBits && f.leastExponent < q
  let low := if atPower then 4 * m - 1 else 4 * m - 2
  let e := q - 2
  let up := if 0 ≤ e then Nat.pow 2 e.toNat else 1
  let den := if 0 ≤ e then 1 else Nat.pow 2 (-e).toNat
  ⟨low * up, 4 * m * up, (4 * m + 2) * up, den, m % 2 == 0⟩

/-- Whether `num / (den * scale)`, that is `num / scale` over the common denominator, lies in the
interval. -/
def holds (i : RoundingInterval) (num scale : Nat) : Bool :=
  if i.closed then i.low * scale ≤ num && num ≤ i.high * scale
  else i.low * scale < num && num < i.high * scale

/-- The neighbour of the number on the grid of multiples of `10 ^ k` that the interval holds; of
two, the nearer one, and of two equally near, the upper. -/
def onGrid (i : RoundingInterval) (k : Int) : Option Nat :=
  let step := if 0 ≤ k then i.den * Nat.pow 10 k.toNat else i.den
  let scale := if 0 ≤ k then 1 else Nat.pow 10 (-k).toNat
  let mid := i.mid * scale
  let below := mid / step
  let rest := mid % step
  if rest == 0 then some below
  else
    match i.holds (below * step) scale && below != 0, i.holds ((below + 1) * step) scale with
    | true, true => some (if 2 * rest < step then below else below + 1)
    | true, false => some below
    | false, true => some (below + 1)
    | false, false => none

/-- The first grid, from the coarsest, with a hit: `fuel` finer grids are tried after `10 ^ k`. -/
def search (i : RoundingInterval) : Nat → Int → Decimal
  | 0, k => ⟨(i.onGrid k).getD 0, k⟩
  | fuel + 1, k =>
    match i.onGrid k with
    | some digits => ⟨digits, k⟩
    | none => search i fuel (k - 1)

end RoundingInterval

/-- How many decimal digits tell any two numbers of a format apart. -/
def Format.enoughDigits (f : Format) : Nat := (f.fractionBits + 1) * 30103 / 100000 + 2

/-- The exponent of the leading decimal digit of `num / den`, or one more. -/
def leadingExponent (num den : Nat) : Int :=
  (Nat.toDigits 10 num).length - (Nat.toDigits 10 den).length

/-- The shortest decimal that reads back as a finite number other than zero. -/
def shortest {f : Format} (x : Binary f) : Decimal :=
  let i := RoundingInterval.of x
  (i.search (f.enoughDigits + 2) (leadingExponent i.mid i.den)).trimZeros (f.enoughDigits + 3)

end WideColumn.Number
