/-
# Ranges of a compound key

A range of rows is told by a START and an END, two rows of key components.  The first component of
each is the partition key, the others follow the clustering order.  Resolution finds the
components that both sides fix to one value and the bound that each side may put on the column
after them:

    start  p  a  3          fixed  p  a
    end    p  a  7          bounds 3 to 7

The sides may differ in depth by one.  The deeper side then bounds the column that the other side
leaves open:

    start  p  a  3          fixed  p  a
    end    p  a             bound  3 from below

With both rows empty nothing is restricted, and with the partition key alone on both sides the
whole partition is meant.
-/
import WideColumn.Key.Component

namespace WideColumn.Key

/-- A side of a range. -/
inductive Side where
  | start
  | stop
  deriving DecidableEq

/-- The name of a side. -/
def Side.name : Side → String
  | start => "start"
  | stop => "end"

/-- Why two rows of components tell no range, or a range does not fit its table. -/
inductive RangeError where
  /-- A component stands after one that is left open. -/
  | gap (side : Side) (position : Nat)
  | partitionAbsent (side : Side)
  | partitionMismatch
  /-- The sides differ in depth by more than one. -/
  | depthMismatch (start stop : Nat)
  /-- The sides differ before the column that bounds it. -/
  | prefixMismatch (position : Nat)
  /-- The start bound does not lie strictly before the end bound. -/
  | nonMonotonic (position : Nat)
  | missingBound
  | tooManyComponents (expected found : Nat)
  | partitionArity (expected found : Nat)
  deriving DecidableEq

/-- The name of the kind of a range error. -/
def RangeError.name : RangeError → String
  | gap .. => "GapInCompoundKey"
  | partitionAbsent _ => "PartitionKeyAbsent"
  | partitionMismatch => "PartitionKeyMismatch"
  | depthMismatch .. => "DepthMismatch"
  | prefixMismatch _ => "PrefixMismatch"
  | nonMonotonic _ => "NonMonotonicBound"
  | missingBound => "MissingBound"
  | tooManyComponents .. => "TooManyComponents"
  | partitionArity .. => "PartitionArity"

/-- The wording of a range error. -/
def RangeError.message : RangeError → String
  | gap side position =>
    s!"gap in compound key: {side.name} component {position} follows an absent component"
  | partitionAbsent side => s!"partition key component is absent on the {side.name} side"
  | partitionMismatch => "start and end partition keys differ"
  | depthMismatch start stop => s!"start depth {start} and end depth {stop} differ by more than one"
  | prefixMismatch position =>
    s!"start and end differ at component {position}, before the last bound"
  | nonMonotonic position =>
    s!"component {position}: start bound must be strictly lower than end bound"
  | missingBound => "range needs at least one clustering bound"
  | tooManyComponents expected found =>
    s!"range has {found} clustering components but the key has only {expected}"
  | partitionArity expected found =>
    s!"partition key has {found} components, expected {expected}"

/-- A resolved range: the components fixed to one value, the partition key first, and the bounds
on the column after them. -/
structure Range (α : Type) where
  fixed : List α
  lower : Option α
  upper : Option α

namespace Range

variable {α : Type}

/-- The range that restricts nothing. -/
def unbounded : Range α := ⟨[], none, none⟩

/-- Whether no clustering column is restricted. -/
def isWholePartition (r : Range α) : Bool :=
  r.fixed.length ≤ 1 && r.lower.isNone && r.upper.isNone

/-- The place in the key of the column that varies. -/
def varyingPosition (r : Range α) : Nat :=
  max r.fixed.length 1

/-- The range with one more component fixed in front. -/
def fix (a : α) (r : Range α) : Range α :=
  { r with fixed := a :: r.fixed }

end Range

variable {α : Type} [Component α]

/-- The place of the last component that is not left open. -/
def lastPresent? (cs : List α) : Option Nat :=
  let kept := (cs.reverse.dropWhile Component.absent).length
  if kept == 0 then none else some (kept - 1)

/-- The place of the first component after one that is left open. -/
def firstAfterGap? (cs : List α) : Option Nat :=
  let before := cs.takeWhile (!Component.absent ·)
  let opened := (cs.drop before.length).takeWhile Component.absent
  let position := before.length + opened.length
  if position < cs.length then some position else none

/-- Refuses a component after one that is left open. -/
def checkNoGap (side : Side) (cs : List α) : Except RangeError Unit :=
  match firstAfterGap? cs with
  | some position => .error (.gap side position)
  | none => .ok ()

/-- Resolves the clustering components of both sides, of which the first stands at `position`. -/
def resolveClustering (position : Nat) : List α → List α → Except RangeError (Range α)
  | [], [] => .ok .unbounded
  | [a], [] => .ok ⟨[], some a, none⟩
  | [], [b] => .ok ⟨[], none, some b⟩
  | [a], [b] =>
    if Component.order? a b == some .lt then .ok ⟨[], some a, some b⟩
    else .error (.nonMonotonic position)
  | a :: as, b :: bs =>
    if Component.same a b then (resolveClustering (position + 1) as bs).map (Range.fix a)
    else .error (.prefixMismatch position)
  | as, bs => .error (.depthMismatch (position + as.length - 1) (position + bs.length - 1))

/-- Resolves two sides whose components are all present. -/
def resolvePresent : List α → List α → Except RangeError (Range α)
  | [], _ => .error (.partitionAbsent .start)
  | _, [] => .error (.partitionAbsent .stop)
  | p :: as, q :: bs =>
    if !Component.same p q then .error .partitionMismatch
    else if as.length + 1 < bs.length || bs.length + 1 < as.length then
      .error (.depthMismatch as.length bs.length)
    else (resolveClustering 1 as bs).map (Range.fix p)

/-- Resolves the two sides of a range. -/
def resolve (start stop : List α) : Except RangeError (Range α) :=
  if start.isEmpty && stop.isEmpty then .ok .unbounded
  else do
    checkNoGap .start start
    checkNoGap .stop stop
    resolvePresent (start.takeWhile (!Component.absent ·)) (stop.takeWhile (!Component.absent ·))

/-- Resolves a range that must restrict some clustering column. -/
def resolveBounded (start stop : List α) : Except RangeError (Range α) := do
  let range ← resolve start stop
  if range.isWholePartition then .error .missingBound else .ok range

end WideColumn.Key
