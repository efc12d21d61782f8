/-
# From type expressions to shapes

Unwrapping takes the markers of a type expression off: `frozen` goes over to every node below it,
and each `indexed` is noted with the part of the value that it marks.  An index can only be placed
on the whole value or on the element, key or value of an outermost list, set or map; a marker
anywhere else is noted as misplaced.
-/
import WideColumn.Type.Expression
import WideColumn.Type.Shape

namespace WideColumn

/-- What an index is about. -/
inductive IndexKind where
  | normal
  | full
  | collection
  | mapKey
  | mapValue
  | mapEntry
  deriving DecidableEq

/-- The name of an index kind. -/
def IndexKind.label : IndexKind → String
  | normal => "NORMAL"
  | full => "FULL"
  | collection => "COLLECTION"
  | mapKey => "MAP_KEY"
  | mapValue => "MAP_VALUE"
  | mapEntry => "MAP_ENTRY"

/-- The part of a value that an index covers. -/
inductive IndexSlot where
  | field
  | element
  | mapKey
  | mapValue
  deriving DecidableEq

/-- The name of a part. -/
def IndexSlot.name : IndexSlot → String
  | field => "Field"
  | element => "Element"
  | mapKey => "MapKey"
  | mapValue => "MapValue"

/-- The part of a value that an index of a kind covers. -/
def IndexKind.slot : IndexKind → IndexSlot
  | normal | full | mapEntry => .field
  | collection => .element
  | mapKey => .mapKey
  | mapValue => .mapValue

/-- What an index marker asks for; `none` where it is misplaced. -/
abbrev Marker := Option (IndexSlot × IndexKind)

/-- The names that a user type goes by: the declared one and the stored one. -/
abbrev TypeNames := List (String × String)

/-- The stored name of a user type that is written under either of its names, without regard to
the case of ASCII letters; an unknown name stays as it is. -/
def TypeNames.stored (names : TypeNames) (written : String) : String :=
  let same := fun s => Text.lowerAscii s == Text.lowerAscii written
  match names.find? fun (declared, stored) => same declared || same stored with
  | some (_, stored) => stored
  | none => written

namespace TypeExpr

/-- The marker of a part of an outermost value. -/
def partMarker (depth : Nat) (slot : IndexSlot) (kind : IndexKind) : Marker :=
  if depth == 0 then some (slot, kind) else none

/-- Whether an index marker stands outermost. -/
def isIndexed : TypeExpr → Bool
  | indexed _ => true
  | _ => false

/-- Notes a marker that stands right on a part of a value, which the unwrapping of the part took
for one of its own. -/
def replaceMarker (part : TypeExpr) (marker : Marker) (found : List Marker) : List Marker :=
  if part.isIndexed then marker :: found.drop 1 else found

mutual

/-- The shape of a type with its markers, in the order of the text; `frozen` and `depth` are those
of the place it stands in. -/
def unwrap (names : TypeNames) (frozen : Bool) (depth : Nat) : TypeExpr → Shape × List Marker
  | scalar s => (.scalar ⟨frozen, depth⟩ s, [])
  | counter => (.counter ⟨frozen, depth⟩, [])
  | .frozen e => unwrap names true depth e
  | indexed e =>
    let (shape, markers) := unwrap names frozen depth e
    (shape, partMarker depth .field .normal :: markers)
  | list e =>
    let (shape, markers) := unwrap names frozen (depth + 1) e
    (.list ⟨frozen, depth⟩ shape,
      replaceMarker e (partMarker depth .element .collection) markers)
  | set e =>
    let (shape, markers) := unwrap names frozen (depth + 1) e
    (.set ⟨frozen, depth⟩ shape,
      replaceMarker e (partMarker depth .element .collection) markers)
  | map k v =>
    let (key, keyMarkers) := unwrap names frozen (depth + 1) k
    let (value, valueMarkers) := unwrap names frozen (depth + 1) v
    (.map ⟨frozen, depth⟩ key value,
      replaceMarker k (partMarker depth .mapKey .mapKey) keyMarkers
        ++ replaceMarker v (partMarker depth .mapValue .mapValue) valueMarkers)
  | tuple es =>
    let (shapes, markers) := unwrapAll names frozen (depth + 1) es
    (.tuple ⟨frozen, depth⟩ shapes, markers)
  | udt name => (.udt ⟨frozen, depth⟩ (names.stored name), [])

/-- The shapes and markers of a row of types. -/
def unwrapAll (names : TypeNames) (frozen : Bool) (depth : Nat) :
    List TypeExpr → List Shape × List Marker
  | [] => ([], [])
  | e :: es =>
    let (shape, markers) := unwrap names frozen depth e
    let (shapes, others) := unwrapAll names frozen depth es
    (shape :: shapes, markers ++ others)

end

/-- The shape and the markers of a whole type. -/
def toShape (names : TypeNames) (e : TypeExpr) : Shape × List Marker :=
  e.unwrap names false 0

end TypeExpr

end WideColumn
