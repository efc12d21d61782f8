/-
# Scanning

Small steps over the characters of a text, each of which returns what it read and what is left.
-/
import WideColumn.Text.CodeSet

namespace WideColumn.Text

/-- What is left after leading white space. -/
def skipBlank (cs : List Char) : List Char :=
  cs.dropWhile CodeSet.blank.contains

/-- A text without the white space around it. -/
def trimBlank (s : String) : String :=
  String.ofList (skipBlank (skipBlank s.toList).reverse).reverse

/-- What is left after one given character. -/
def skipChar? (c : Char) : List Char → Option (List Char)
  | [] => none
  | d :: rest => if c == d then some rest else none

/-- The value of a row of decimal digits. -/
def digitsValue (ds : List Char) : Nat :=
  ds.foldl (fun n d => 10 * n + (d.toNat - '0'.toNat)) 0

/-- The longest run of at most `most` decimal digits, and what is left. -/
def spanDigits (most : Nat) (cs : List Char) : List Char × List Char :=
  let ds := (cs.take most).takeWhile Char.isDigit
  (ds, cs.drop ds.length)

/-- A number of one to `most` decimal digits. -/
def scanNumber? (most : Nat) (cs : List Char) : Option (Nat × List Char) :=
  match spanDigits most cs with
  | ([], _) => none
  | (ds, rest) => some (digitsValue ds, rest)

/-- The value of a hexadecimal digit. -/
def hexValue? (c : Char) : Option Nat :=
  if c.isDigit then some (c.toNat - '0'.toNat)
  else if 'a' ≤ c && c ≤ 'f' then some (c.toNat - 'a'.toNat + 10)
  else if 'A' ≤ c && c ≤ 'F' then some (c.toNat - 'A'.toNat + 10)
  else none

/-- The value of a row of hexadecimal digits, if it is one. -/
def hexNumber? (cs : List Char) : Option Nat :=
  cs.foldlM (fun n c => (hexValue? c).map (16 * n + ·)) 0

/-- The bytes of a row of hexadecimal digits, two to a byte. -/
def hexBytes? : List Char → Option (List UInt8)
  | [] => some []
  | [_] => none
  | a :: b :: rest => do
    let high ← hexValue? a
    let low ← hexValue? b
    let bytes ← hexBytes? rest
    return UInt8.ofNat (16 * high + low) :: bytes

/-- A number with zeros in front, at least `width` digits in all. -/
def paddedNumber (width n : Nat) : List Char :=
  let ds := Nat.toDigits 10 n
  List.replicate (width - ds.length) '0' ++ ds

end WideColumn.Text
