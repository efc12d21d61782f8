/-
# Layouts of decimal texts

Given its shortest decimal, a number can be written with its point in place or with an exponent.
A LAYOUT says from where to where the point is kept in place; two layouts serve this library, one
for texts that people read and one for documents.
-/
import WideColumn.Number.Shortest

namespace WideColumn.Number

/-- How a number is written: positionally when the point stands after `lowPoint` and not beyond
`highPoint` (counted from the first digit), with an exponent otherwise. -/
structure Layout where
  lowPoint : Int
  highPoint : Int

namespace Layout

/-- Numbers in logs: in place from a ten-thousandth up to 10 ^ 16. -/
def spoken : Layout := ⟨-4, 16⟩

/-- Numbers in documents, by format: a little wider below, and narrower for short numbers. -/
def document (f : Format) : Layout :=
  if f.fractionBits ≤ 23 then ⟨-6, 13⟩ else ⟨-5, 16⟩

/-- Digits with the point in place; a whole number keeps one zero after it. -/
def positional (digits : List Char) (point : Int) : List Char :=
  if point ≤ 0 then '0' :: '.' :: (List.replicate (-point).toNat '0' ++ digits)
  else if digits.length ≤ point.toNat then
    digits ++ List.replicate (point.toNat - digits.length) '0' ++ ['.', '0']
  else digits.take point.toNat ++ '.' :: digits.drop point.toNat

/-- Digits with one before the point, then the exponent. -/
def scientific (digits : List Char) (point : Int) : List Char :=
  let fraction := digits.drop 1
  digits.take 1 ++ (if fraction.isEmpty then [] else '.' :: fraction)
    ++ 'e' :: (toString (point - 1)).toList

/-- The text of a positive decimal. -/
def decimal (l : Layout) (d : Decimal) : List Char :=
  let digits := Nat.toDigits 10 d.digits
  let point := d.point
  if l.lowPoint < point && point ≤ l.highPoint then positional digits point
  else scientific digits point

/-- The text of a finite magnitude. -/
def magnitude {f : Format} (l : Layout) (x : Binary f) : List Char :=
  if x.magnitude == 0 then ['0', '.', '0'] else l.decimal (shortest x)

/-- The text of a number: `NaN`, `inf` and `-inf` where it is not finite. -/
def text {f : Format} (l : Layout) (x : Binary f) : String :=
  if x.isNaN then "NaN"
  else String.ofList ((if x.negative then ['-'] else [])
    ++ if x.isInfinite then ['i', 'n', 'f'] else l.magnitude x)

end Layout

end WideColumn.Number
