/-
# Binary floating-point numbers

A number of an IEEE-754 interchange format is its bits.  Everything this library asks of one (is
it a number at all, which of two is smaller, which decimal text names it) is answered from the
bits in exact integer arithmetic, so no rounding of a host machine is involved and every answer
can be reasoned about.

* ORDER.  Read without its sign, the bit pattern grows with the magnitude.  `rank` restores the
  sign, and two numbers compare as their ranks do; the two zeros share rank 0, and a NaN
  compares to nothing.
* VALUE.  A finite number is `significand * 2 ^ exponent`, up to its sign.
* ROUNDING.  `ofRatio` gives the number nearest to a quotient, ties to the even significand.
-/

namespace WideColumn.Number

/-- The widths that set one interchange format apart from another. -/
structure Format where
  fractionBits : Nat
  exponentBits : Nat
  deriving DecidableEq

namespace Format

/-- Thirty-two bits. -/
def single : Format := ⟨23, 8⟩

/-- Sixty-four bits. -/
def double : Format := ⟨52, 11⟩

/-- The number of bits, the sign included. -/
def width (f : Format) : Nat := f.fractionBits + f.exponentBits + 1

/-- The first magnitude pattern that is not finite: infinity. -/
def infinity (f : Format) : Nat := (Nat.pow 2 f.exponentBits - 1) * Nat.pow 2 f.fractionBits

/-- The exponent of the unit in the last place of the smallest numbers. -/
def leastExponent (f : Format) : Int := 2 - Nat.pow 2 (f.exponentBits - 1) - f.fractionBits

end Format

/-- A number of a format: its bits. -/
structure Binary (f : Format) where
  bits : BitVec f.width
  deriving DecidableEq

/-- A number of thirty-two bits. -/
abbrev Single := Binary .single

/-- A number of sixty-four bits. -/
abbrev Double := Binary .double

namespace Binary

variable {f : Format}

/-- The number of a sign and a magnitude pattern. -/
def ofParts (negative : Bool) (magnitude : Nat) : Binary f :=
  ⟨BitVec.ofNat _
    (magnitude + if negative then Nat.pow 2 (f.fractionBits + f.exponentBits) else 0)⟩

/-- Whether the sign bit is set. -/
def negative (x : Binary f) : Bool :=
  Nat.pow 2 (f.fractionBits + f.exponentBits) ≤ x.bits.toNat

/-- The bits without the sign. -/
def magnitude (x : Binary f) : Nat :=
  x.bits.toNat % Nat.pow 2 (f.fractionBits + f.exponentBits)

def isNaN (x : Binary f) : Bool :=
  f.infinity < x.magnitude

def isInfinite (x : Binary f) : Bool :=
  x.magnitude == f.infinity

def isFinite (x : Binary f) : Bool :=
  x.magnitude < f.infinity

/-- The place of a number that is not a NaN among all others. -/
def rank (x : Binary f) : Int :=
  if x.negative then -(x.magnitude : Int) else x.magnitude

/-- The order of two numbers; a NaN has none. -/
def compare? (x y : Binary f) : Option Ordering :=
  if x.isNaN || y.isNaN then none else some (compare x.rank y.rank)

/-- Equality as numbers: the two zeros are equal, and a NaN equals nothing. -/
def equals (x y : Binary f) : Bool :=
  x.compare? y == some .eq

/-- The number with the other sign. -/
def negate (x : Binary f) : Binary f :=
  ofParts (!x.negative) x.magnitude

/-- The value of a finite number without its sign: `(m, q)` stands for `m * 2 ^ q`. -/
def parts (x : Binary f) : Nat × Int :=
  let fraction := x.magnitude % Nat.pow 2 f.fractionBits
  let exponent := x.magnitude / Nat.pow 2 f.fractionBits
  if exponent == 0 then (fraction, f.leastExponent)
  else (Nat.pow 2 f.fractionBits + fraction, f.leastExponent + exponent - 1)

/-- A finite magnitude as a quotient of naturals. -/
def ratio (x : Binary f) : Nat × Nat :=
  let (m, q) := x.parts
  if 0 ≤ q then (m * Nat.pow 2 q.toNat, 1) else (m, Nat.pow 2 (-q).toNat)

/-- The quotient rounded to the nearest natural, ties to even. -/
def divideToEven (num den : Nat) : Nat :=
  let q := num / den
  let r := num % den
  if 2 * r < den then q
  else if den < 2 * r then q + 1
  else q + q % 2

/-- The exponent that scales `num / den` to a whole significand of the format's width, or the
least exponent of the format if that is larger. -/
def exponentFor (f : Format) (num den : Nat) : Int :=
  let size : Int := num.log2 - den.log2
  -- the quotient lies in `[2 ^ (size - 1), 2 ^ (size + 1))`
  let low : Bool :=
    if 0 ≤ size then num < den * Nat.pow 2 size.toNat else num * Nat.pow 2 (-size).toNat < den
  max f.leastExponent ((if low then size - 1 else size) - f.fractionBits)

/-- The magnitude pattern nearest to `num / den`, ties to even; past the largest number, the
pattern of infinity. -/
def magnitudeOfRatio (f : Format) (num den : Nat) : Nat :=
  if num == 0 then 0
  else
    let q := exponentFor f num den
    let m := if 0 ≤ q then divideToEven num (den * Nat.pow 2 q.toNat)
      else divideToEven (num * Nat.pow 2 (-q).toNat) den
    -- a significand that rounds up to the next power carries into the exponent by itself
    min f.infinity ((q - f.leastExponent).toNat * Nat.pow 2 f.fractionBits + m)

/-- The number nearest to a quotient with a sign, ties to even. -/
def ofRatio (negative : Bool) (num den : Nat) : Binary f :=
  ofParts negative (magnitudeOfRatio f num den)

/-- The number nearest to an integer. -/
def ofInt (n : Int) : Binary f :=
  ofRatio (n < 0) n.natAbs 1

/-- The number nearest to `digits * 10 ^ exponent`. -/
def ofDecimal (negative : Bool) (digits : Nat) (exponent : Int) : Binary f :=
  if 0 ≤ exponent then ofRatio negative (digits * Nat.pow 10 exponent.toNat) 1
  else ofRatio negative digits (Nat.pow 10 (-exponent).toNat)

/-- The nearest number of another format. -/
def convert {g : Format} (x : Binary f) : Binary g :=
  if x.isNaN then ofParts x.negative (g.infinity + Nat.pow 2 (g.fractionBits - 1))
  else if x.isInfinite then ofParts x.negative g.infinity
  else ofRatio x.negative x.ratio.1 x.ratio.2

/-- The product of two finite numbers, rounded once. -/
def times (x y : Binary f) : Binary f :=
  ofRatio (x.negative != y.negative) (x.ratio.1 * y.ratio.1) (x.ratio.2 * y.ratio.2)

/-- The quotient of two finite numbers, the divisor not zero, rounded once. -/
def quotient (x y : Binary f) : Binary f :=
  ofRatio (x.negative != y.negative) (x.ratio.1 * y.ratio.2) (x.ratio.2 * y.ratio.1)

end Binary

end WideColumn.Number
