/-
# The order of values

Two values of one kind are ordered as the store orders a clustering column of that kind: numbers
by size, texts and blobs by their bytes, false before true, moments by time, addresses with
version four first.  Lists, sets and tuples compare item by item, and a row of items comes before
any longer row that it begins.

Everything else has no order: values of different kinds, null, maps, user types, a NaN, and rows
in which two such items meet before the order is decided.
-/
import WideColumn.Value

namespace WideColumn.Value

/-- The order of two rows of bytes. -/
def orderBytes : List UInt8 → List UInt8 → Ordering
  | [], [] => .eq
  | [], _ :: _ => .lt
  | _ :: _, [] => .gt
  | a :: as, b :: bs => (compare a.toNat b.toNat).then (orderBytes as bs)

/-- The order of two rows of characters, which is that of their UTF-8 bytes. -/
def orderChars : List Char → List Char → Ordering
  | [], [] => .eq
  | [], _ :: _ => .lt
  | _ :: _, [] => .gt
  | a :: as, b :: bs => (compare a.toNat b.toNat).then (orderChars as bs)

/-- The order of two texts. -/
def orderText (a b : String) : Ordering :=
  orderChars a.toList b.toList

/-- False comes before true. -/
def orderBool (a b : Bool) : Ordering :=
  compare a.toNat b.toNat

mutual

/-- The order of two values of one ordered kind. -/
def compare? : Value → Value → Option Ordering
  | bigint a, bigint b => some (compare a.toInt b.toInt)
  | counter a, counter b => some (compare a.toInt b.toInt)
  | int a, int b => some (compare a.toInt b.toInt)
  | smallint a, smallint b => some (compare a.toInt b.toInt)
  | tinyint a, tinyint b => some (compare a.toInt b.toInt)
  | double a, double b => a.compare? b
  | float a, float b => a.compare? b
  | boolean a, boolean b => some (orderBool a b)
  | text a, text b => some (orderText a b)
  | blob a, blob b => some (orderBytes a b)
  | date a, date b => some (a.order b)
  | time a, time b => some (a.order b)
  | timestamp a, timestamp b => some (a.order b)
  | inet a, inet b => some (a.order b)
  | uuid a, uuid b => some (a.order b)
  | list a, list b => compareItems? a b
  | set a, set b => compareItems? a b
  | tuple a, tuple b => compareItems? a b
  | _, _ => none

/-- Item by item, a row before any longer row that it begins. -/
def compareItems? : List Value → List Value → Option Ordering
  | [], [] => some .eq
  | [], _ :: _ => some .lt
  | _ :: _, [] => some .gt
  | a :: as, b :: bs =>
    match compare? a b with
    | some .eq => compareItems? as bs
    | decided => decided

end

/-- Whether a value lies strictly before another. -/
def lt (a b : Value) : Bool :=
  a.compare? b == some .lt

end WideColumn.Value
