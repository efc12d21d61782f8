/-
# Documents

The tree that a textual document denotes, whichever notation it is written in: values of a few
kinds, lists and tables.  Integers and reals are told apart, since a reader of a whole number
refuses a real.  A table keeps its entries in the order of the text.

A piece of text may have the form of a value and yet denote none, such as a number that is too
large.  It stands in the tree as MALFORMED, so that a reader that has no use for it can pass it
over; a tree without such pieces is SOUND.
-/
import WideColumn.Number.Binary

namespace WideColumn

open WideColumn.Number

/-- A document. -/
inductive Document where
  | null
  | boolean (b : Bool)
  | integer (n : Int)
  | real (x : Double)
  /-- A real of half the width, whose digits are fewer. -/
  | single (x : Single)
  | text (s : String)
  /-- A date or time written bare. -/
  | moment (s : String)
  /-- A piece that has the form of a value but denotes none. -/
  | malformed
  | list (items : List Document)
  | table (entries : List (String × Document))

instance : Inhabited Document := ⟨.null⟩

namespace Document

mutual

/-- Whether a tree has no malformed piece. -/
def isSound : Document → Bool
  | malformed => false
  | list items => areSound items
  | table entries => entriesAreSound entries
  | _ => true

/-- Whether no item has a malformed piece. -/
def areSound : List Document → Bool
  | [] => true
  | d :: ds => isSound d && areSound ds

/-- Whether no entry has a malformed piece. -/
def entriesAreSound : List (String × Document) → Bool
  | [] => true
  | (_, d) :: es => isSound d && entriesAreSound es

end

mutual

/-- How many lists and tables lie inside each other. -/
def depth : Document → Nat
  | list items => itemsDepth items + 1
  | table entries => entriesDepth entries + 1
  | _ => 0

/-- The depth of the deepest item. -/
def itemsDepth : List Document → Nat
  | [] => 0
  | d :: ds => max (depth d) (itemsDepth ds)

/-- The depth of the deepest value of an entry. -/
def entriesDepth : List (String × Document) → Nat
  | [] => 0
  | (_, d) :: es => max (depth d) (entriesDepth es)

end

/-- The entries of a table. -/
def entries? : Document → Option (List (String × Document))
  | table es => some es
  | _ => none

/-- The items of a list. -/
def items? : Document → Option (List Document)
  | list ds => some ds
  | _ => none

/-- A text. -/
def text? : Document → Option String
  | text s => some s
  | _ => none

/-- A truth value. -/
def boolean? : Document → Option Bool
  | boolean b => some b
  | _ => none

/-- A whole number. -/
def integer? : Document → Option Int
  | integer n => some n
  | _ => none

/-- A whole number from `low` to `high`. -/
def integerIn? (low high : Int) (d : Document) : Option Int :=
  d.integer?.filter fun n => low ≤ n && n ≤ high

/-- A whole number of at most thirty-two bits. -/
def word? (d : Document) : Option Nat :=
  (d.integerIn? 0 4294967295).map Int.toNat

/-- The value of a key in a table: of several, the last one. -/
def get? (d : Document) (key : String) : Option Document :=
  match d with
  | table es => es.reverse.lookup key
  | _ => none

end Document

end WideColumn
