/-
# Timestamps

A timestamp is a date and a time of day at the zero meridian.  It is written with a `T` between
the two and a `Z` at the end.  On reading, any distance from the zero meridian may be given
instead of the `Z`; the moment is then moved there.
-/
import WideColumn.Calendar.Date
import WideColumn.Calendar.Time

namespace WideColumn.Calendar

open WideColumn.Text

/-- A moment, at the zero meridian. -/
structure Timestamp where
  date : Date
  time : Time
  deriving DecidableEq

namespace Timestamp

/-- Timestamps compare by date, then time. -/
def order (a b : Timestamp) : Ordering :=
  (a.date.order b.date).then (a.time.order b.time)

/-- The written form, `2024-01-01T00:00:00.500Z`. -/
def text (t : Timestamp) : List Char :=
  t.date.text ++ 'T' :: t.time.text ++ ['Z']

/-- Moves a moment back by a distance of less than a day, in seconds. -/
def back? (date : Date) (time : Time) (distance : Int) : Option Timestamp := do
  let second := (time.second : Int) - distance
  let moved ← Time.of? (second % 86400).toNat time.nano
  if second < 0 then return ⟨← date.previous?, moved⟩
  else if 86400 ≤ second then return ⟨← date.next?, moved⟩
  else return ⟨date, moved⟩

/-- Two digits, the first of them below `bound`. -/
def scanPair? (bound : Nat) : List Char → Option (Nat × List Char)
  | a :: b :: rest =>
    if a.isDigit && b.isDigit && a.toNat - '0'.toNat < bound then
      some (digitsValue [a, b], rest)
    else none
  | _ => none

/-- Hours and minutes of a distance, colons and blanks between them skipped. -/
def scanDistance? (cs : List Char) : Option (Nat × List Char) := do
  let (hours, rest) ← scanPair? 10 cs
  let rest := rest.dropWhile fun c => c == ':' || CodeSet.blank.contains c
  let (minutes, rest) ← scanPair? 6 rest
  let distance := hours * 3600 + minutes * 60
  if distance < 86400 then some (distance, rest) else none

/-- The distance from the zero meridian, in seconds, eastward positive. -/
def scanOffset? (cs : List Char) : Option (Int × List Char) :=
  if (cs.take 3).map Char.toUpper == ['U', 'T', 'C'] then some (0, cs.drop 3)
  else match cs with
    | 'Z' :: rest | 'z' :: rest => some (0, rest)
    | '+' :: rest => (scanDistance? rest).map fun (n, rest) => (n, rest)
    | '-' :: rest | '\u2212' :: rest => (scanDistance? rest).map fun (n, rest) => (-n, rest)
    | _ => none

/-- The moment a text writes; a blank may stand for the `T`. -/
def ofText? (s : String) : Option Timestamp := do
  let (date, rest) ← Date.scan? s.toList
  let rest ← match rest with
    | 'T' :: rest | 't' :: rest | ' ' :: rest => some rest
    | _ => none
  let (time, rest) ← Time.scan? rest
  let (offset, rest) ← scanOffset? (skipBlank rest)
  if (skipBlank rest).isEmpty then back? date time offset else none

end Timestamp

end WideColumn.Calendar
