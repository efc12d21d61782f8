/-
# Moments in documents

A date, a time of day or both, written bare.  A date is written `2024-02-29` and names a day that
exists.  A time of day is written `07:32`, `07:32:00` or `07:32:00.5`; second sixty is allowed in
every minute.  Date and time are joined by a `T` or a blank, and only then may an offset follow: a
`Z`, or hours and minutes with their sign.

The normal form has a capital `T` and a capital `Z`, at most nine digits of a fraction without
needless zeros at their end, and no negative offset of zero.
-/
import WideColumn.Calendar.Date

namespace WideColumn.Document.Moment

open WideColumn.Text WideColumn.Calendar

/-- The key under which a moment stands where a table of texts is wanted. -/
def key : String := "$__toml_private_datetime"

/-- A normal form in front of what is left. -/
abbrev Read := Option (List Char × List Char)

/-- A number of exactly `width` digits, as many as there are in front of the text. -/
def digits? (width : Nat) (cs : List Char) : Option (Nat × List Char) :=
  let ds := cs.takeWhile Char.isDigit
  if ds.length == width then some (digitsValue ds, cs.drop width) else none

/-- A date. -/
def date? (cs : List Char) : Read := do
  let (year, rest) ← digits? 4 cs
  let rest ← skipChar? '-' rest
  let (month, rest) ← digits? 2 rest
  let rest ← skipChar? '-' rest
  let (day, rest) ← digits? 2 rest
  if isDay year month day then
    return (paddedNumber 4 year ++ '-' :: paddedNumber 2 month ++ '-' :: paddedNumber 2 day, rest)
  else none

/-- Nine digits of a fraction at most, without the zeros at their end; one digit stays. -/
def trimFraction (ds : List Char) : List Char :=
  match ((ds.take 9).reverse.dropWhile (· == '0')).reverse with
  | [] => ['0']
  | ds => ds

/-- The fraction of a second, if there is one. -/
def fraction? : List Char → Read
  | '.' :: rest =>
    match rest.takeWhile Char.isDigit with
    | [] => none
    | ds => some ('.' :: trimFraction ds, rest.drop ds.length)
  | rest => some ([], rest)

/-- The seconds, if there are any. -/
def seconds? : List Char → Read
  | ':' :: rest => do
    let (second, rest) ← digits? 2 rest
    let (fraction, rest) ← fraction? rest
    if second ≤ 60 then return (':' :: paddedNumber 2 second ++ fraction, rest) else none
  | rest => some ([], rest)

/-- Hours and minutes. -/
def minutes? (cs : List Char) : Read := do
  let (hour, rest) ← digits? 2 cs
  let rest ← skipChar? ':' rest
  let (minute, rest) ← digits? 2 rest
  if hour ≤ 23 && minute ≤ 59 then
    return (paddedNumber 2 hour ++ ':' :: paddedNumber 2 minute, rest)
  else none

/-- A time of day. -/
def clock? (cs : List Char) : Read := do
  let (minutes, rest) ← minutes? cs
  let (seconds, rest) ← seconds? rest
  return (minutes ++ seconds, rest)

/-- An offset, if there is one. -/
def offset? : List Char → Read
  | 'Z' :: rest | 'z' :: rest => some (['Z'], rest)
  | '+' :: rest => (minutes? rest).map fun (m, rest) => ('+' :: m, rest)
  | '-' :: rest => (minutes? rest).map fun (m, rest) =>
    (if m == "00:00".toList then '+' :: m else '-' :: m, rest)
  | rest => some ([], rest)

/-- The normal form of a text that is a date, a time of day or both. -/
def ofText? (cs : List Char) : Option String := do
  match date? cs with
  | some (date, []) => return String.ofList date
  | some (date, join :: rest) =>
    let (clock, rest) ← clock? rest
    let (offset, rest) ← offset? rest
    if ['T', 't', ' '].contains join && rest.isEmpty then
      return String.ofList (date ++ 'T' :: clock ++ offset)
    else none
  | none =>
    let (clock, rest) ← clock? cs
    if rest.isEmpty then return String.ofList clock else none

end WideColumn.Document.Moment
