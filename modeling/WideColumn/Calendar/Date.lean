/-
# Calendar dates

Days of the Gregorian calendar, extended to the years before it and around the year zero.  A date
is always a day that exists, in a year within about a quarter of a million of the year zero.

Dates are written year, month, day with hyphens.  A year of four digits stands alone; any other
carries a sign.  On reading, blanks around each part and missing leading zeros are allowed.
-/
import WideColumn.Text.Scan

namespace WideColumn.Calendar

open WideColumn.Text

/-- Whether a year has a 29 February. -/
def isLeapYear (year : Int) : Bool :=
  year % 4 == 0 && (year % 100 != 0 || year % 400 == 0)

/-- The number of days of a month; 0 for a month that does not exist. -/
def daysInMonth (year : Int) (month : Nat) : Nat :=
  match month with
  | 1 | 3 | 5 | 7 | 8 | 10 | 12 => 31
  | 4 | 6 | 9 | 11 => 30
  | 2 => if isLeapYear year then 29 else 28
  | _ => 0

/-- Whether year, month and day name a day within the years kept. -/
def isDay (year : Int) (month day : Nat) : Bool :=
  -262143 ≤ year && year ≤ 262142 && 1 ≤ day && day ≤ daysInMonth year month

/-- A day that exists. -/
structure Date where
  year : Int
  month : Nat
  day : Nat
  exists_day : isDay year month day
  deriving DecidableEq

namespace Date

/-- The day with a given year, month and day, if there is one. -/
def of? (year : Int) (month day : Nat) : Option Date :=
  if h : isDay year month day then some ⟨year, month, day, h⟩ else none

/-- Dates compare by year, then month, then day. -/
def order (a b : Date) : Ordering :=
  ((compare a.year b.year).then (compare a.month b.month)).then (compare a.day b.day)

/-- The day after, unless it lies beyond the years kept. -/
def next? (d : Date) : Option Date :=
  ((of? d.year d.month (d.day + 1)).or (of? d.year (d.month + 1) 1)).or (of? (d.year + 1) 1 1)

/-- The day before, unless it lies beyond the years kept. -/
def previous? (d : Date) : Option Date :=
  if 1 < d.day then of? d.year d.month (d.day - 1)
  else if 1 < d.month then
    of? d.year (d.month - 1) (daysInMonth d.year (d.month - 1))
  else of? (d.year - 1) 12 31

/-- A year of four digits alone, any other with its sign. -/
def yearText (year : Int) : List Char :=
  if 0 ≤ year && year ≤ 9999 then paddedNumber 4 year.toNat
  else (if year < 0 then '-' else '+') :: paddedNumber 4 year.natAbs

/-- The written form, `2024-02-29`. -/
def text (d : Date) : List Char :=
  yearText d.year ++ '-' :: paddedNumber 2 d.month ++ '-' :: paddedNumber 2 d.day

/-- A year: up to four digits, or a sign and any number of them. -/
def scanYear? (cs : List Char) : Option (Int × List Char) :=
  match skipBlank cs with
  | '-' :: rest => (scanNumber? rest.length rest).map fun (n, rest) => (-n, rest)
  | '+' :: rest => (scanNumber? rest.length rest).map fun (n, rest) => (n, rest)
  | rest => (scanNumber? 4 rest).map fun (n, rest) => (n, rest)

/-- A date in front of a text. -/
def scan? (cs : List Char) : Option (Date × List Char) := do
  let (year, rest) ← scanYear? cs
  let rest ← skipChar? '-' (skipBlank rest)
  let (month, rest) ← scanNumber? 2 (skipBlank rest)
  let rest ← skipChar? '-' (skipBlank rest)
  let (day, rest) ← scanNumber? 2 (skipBlank rest)
  let date ← of? year month day
  return (date, rest)

/-- The date a text writes. -/
def ofText? (s : String) : Option Date := do
  let (date, rest) ← scan? s.toList
  if (skipBlank rest).isEmpty then some date else none

end Date

end WideColumn.Calendar
