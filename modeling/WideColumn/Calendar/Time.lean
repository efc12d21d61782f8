/-
# Times of day

A time of day is a second of the day and a fraction in nanoseconds.  A fraction of a whole second
or more belongs to a LEAP SECOND: the moment is written as second sixty of its minute, and it
comes after every other moment of the second before it.

The fraction is written with no digit, three, six or nine of them, the fewest that are exact.
-/
import WideColumn.Text.Scan

namespace WideColumn.Calendar

open WideColumn.Text

/-- One second in nanoseconds. -/
def nanosPerSecond : Nat := 1000000000

/-- A moment of a day. -/
structure Time where
  second : Nat
  nano : Nat
  second_lt : second < 86400
  nano_lt : nano < 2 * nanosPerSecond
  deriving DecidableEq

namespace Time

/-- The moment at a second of the day, if there is one. -/
def of? (second nano : Nat) : Option Time :=
  if h : second < 86400 ∧ nano < 2 * nanosPerSecond then some ⟨second, nano, h.1, h.2⟩ else none

/-- The moment with given hour, minute, second (sixty for a leap second) and fraction. -/
def ofClock? (hour minute second nano : Nat) : Option Time :=
  if hour < 24 && minute < 60 && second ≤ 60 && nano < nanosPerSecond then
    if second == 60 then of? (hour * 3600 + minute * 60 + 59) (nano + nanosPerSecond)
    else of? (hour * 3600 + minute * 60 + second) nano
  else none

/-- Times compare by second, then fraction. -/
def order (a b : Time) : Ordering :=
  (compare a.second b.second).then (compare a.nano b.nano)

/-- The fraction with its point, in as few groups of three digits as are exact. -/
def fractionText (nano : Nat) : List Char :=
  if nano == 0 then []
  else if nano % 1000000 == 0 then '.' :: paddedNumber 3 (nano / 1000000)
  else if nano % 1000 == 0 then '.' :: paddedNumber 6 (nano / 1000)
  else '.' :: paddedNumber 9 nano

/-- The written form, `12:34:56.500`. -/
def text (t : Time) : List Char :=
  let leap := t.nano / nanosPerSecond
  paddedNumber 2 (t.second / 3600) ++ ':' :: paddedNumber 2 (t.second / 60 % 60)
    ++ ':' :: paddedNumber 2 (t.second % 60 + leap) ++ fractionText (t.nano % nanosPerSecond)

/-- A number that starts after blanks. -/
def scanPart? (cs : List Char) : Option (Nat × List Char) :=
  scanNumber? 2 (skipBlank cs)

/-- A fraction, if a point stands in front: digits beyond the ninth are dropped. -/
def scanFraction? : List Char → Option (Nat × List Char)
  | '.' :: rest =>
    match spanDigits 9 rest with
    | ([], _) => none
    | (ds, rest) =>
      some (digitsValue ds * Nat.pow 10 (9 - ds.length), rest.dropWhile Char.isDigit)
  | rest => some (0, rest)

/-- Hour and minute in front of a text. -/
def scanHourMinute? (cs : List Char) : Option ((Nat × Nat) × List Char) := do
  let (hour, rest) ← scanPart? cs
  let rest ← skipChar? ':' (skipBlank rest)
  let (minute, rest) ← scanPart? rest
  if hour < 24 && minute < 60 then some ((hour, minute), rest) else none

/-- Seconds and fraction in front of a text, a colon before them. -/
def scanSeconds? (cs : List Char) : Option ((Nat × Nat) × List Char) := do
  let rest ← skipChar? ':' (skipBlank cs)
  let (second, rest) ← scanPart? rest
  let (nano, rest) ← if second ≤ 60 then scanFraction? rest else none
  return ((second, nano), skipBlank rest)

/-- A time of day in front of a text, seconds and all. -/
def scan? (cs : List Char) : Option (Time × List Char) := do
  let ((hour, minute), rest) ← scanHourMinute? cs
  let ((second, nano), rest) ← scanSeconds? rest
  let time ← ofClock? hour minute second nano
  return (time, rest)

/-- The time a text writes; the seconds may be left out. -/
def ofText? (s : String) : Option Time := do
  let ((hour, minute), rest) ← scanHourMinute? s.toList
  let ((second, nano), rest) := (scanSeconds? rest).getD ((0, 0), rest)
  let time ← ofClock? hour minute second nano
  if (skipBlank rest).isEmpty then some time else none

end Time

end WideColumn.Calendar
