/-
# Shapes of slices

Before any value is known it is already decided which sides of a range a slice on a given column
can bound.  Symbolic components stand for the values, and the resolution of ranges itself says
which combinations are legal.
-/
import WideColumn.Key.Range

namespace WideColumn.Key

/-- A component of which only the part it plays is known. -/
inductive Symbol where
  | absent
  | fixed
  | bound (side : Side)
  deriving DecidableEq

instance : Component Symbol where
  absent s := s == .absent
  same a b := a == .fixed && b == .fixed
  order?
    | .bound .start, .bound .stop => some .lt
    | .bound .stop, .bound .start => some .gt
    | _, _ => none

/-- Which sides a slice bounds. -/
structure SliceShape where
  lower : Bool
  upper : Bool
  deriving DecidableEq

namespace SliceShape

/-- Bounded from below. -/
def atLeast : SliceShape := ⟨true, false⟩

/-- Bounded from above. -/
def atMost : SliceShape := ⟨false, true⟩

/-- Bounded on both sides. -/
def between : SliceShape := ⟨true, true⟩

/-- The shape of a resolved range. -/
def of {α : Type} (r : Range α) : SliceShape := ⟨r.lower.isSome, r.upper.isSome⟩

/-- Every shape that bounds some side, in increasing order. -/
def all : List SliceShape := [atMost, atLeast, between]

end SliceShape

/-- The components up to place `last` are present, and the one at `position` is the bound. -/
def symbols (last position : Nat) (side : Side) : List Symbol :=
  (List.range (position + 1)).map fun i =>
    if last < i then .absent else if i == position then .bound side else .fixed

/-- The shape of a slice on the column at `position` whose sides reach to the given depths, if it
is legal. -/
def shapeAt? (position startDepth stopDepth : Nat) : Option SliceShape :=
  match resolve (symbols startDepth position .start) (symbols stopDepth position .stop) with
  | .ok range => if range.fixed.length == position then some (.of range) else none
  | .error _ => none

/-- The shapes that some depths give to a slice on the column at `position`; the partition key has
none. -/
def legalShapes (position : Nat) : List SliceShape :=
  if position == 0 then []
  else
    let depths := List.range (position + 1)
    let found := depths.flatMap fun s => depths.filterMap fun e => shapeAt? position s e
    SliceShape.all.filter found.contains

end WideColumn.Key
