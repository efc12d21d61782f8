/-
# Rules about indexes

A field has at most one index, and none if it is a key column, a counter or computed.  The kind
of an index has to fit the shape, and an index that is not native covers a whole scalar of a kind
that its implementation can search.
-/
import WideColumn.Schema.ErrorTree

namespace WideColumn.Schema

/-- Whether an index of a kind fits a shape. -/
def kindFaults (kind : IndexKind) (s : Shape) : List Violation :=
  let mismatch := [Violation.indexKindMismatch kind s.text]
  let openMap := s.isMap && !s.frozen
  let openCollection := s.isCollection && !s.frozen
  match kind with
  | .normal => if s.isCollection then mismatch else []
  | .full =>
    if !s.isCollection then mismatch else if !s.frozen then [.fullIndexRequiresFrozen] else []
  | .collection => if openCollection then [] else mismatch
  | .mapKey | .mapValue | .mapEntry => if openMap then [] else mismatch

/-- The scalar that an index covers as a whole. -/
def indexedScalar? (i : Index) (s : Shape) : Option Scalar :=
  match i.slot, i.kind with
  | .field, .normal => s.scalar?
  | _, _ => none

/-- Scalars that both kinds of custom index can search. -/
def isSearchable (s : Scalar) : Bool :=
  s.isText || s.isNumeric || s.isTemporal || s.isUuid

/-- Whether a mode fits a scalar. -/
def modeFits (mode : SasiMode) (s : Scalar) : Bool :=
  match mode with
  | .prefixes => true
  | .contains => s.isText
  | .sparse => !s.isText

/-- Whether an implementation can search a scalar. -/
def isEligible : IndexImplementation → Scalar → Bool
  | .native, _ => true
  | .sasi options, s =>
    isSearchable s && modeFits options.mode s && (!options.analyzed || s.isText)
  | .search options, s =>
    (isSearchable s || s == .boolean) && (!options.fullText || s.isText)

/-- Whether an implementation can serve a shape. -/
def implementationFaults (i : Index) (s : Shape) : List Violation :=
  if i.implementation.isNative || (indexedScalar? i s).any (isEligible i.implementation) then []
  else [.indexImplementationIneligible i.implementation.label s.text]

/-- What is wrong with the indexes of a field. -/
def indexFaults (f : Field) : List Violation :=
  if f.indexes.isEmpty then []
  else
    (if 1 < f.indexes.length then [.multipleIndexes f.indexes.length] else [])
      ++ (if f.isKey then [.keyIndexed] else [])
      ++ (if f.role.isComputed then [.computedKeyOrIndexed] else [])
      ++ (if f.role.isCounter then [.counterPlacement .indexed] else [])
      ++ f.indexes.flatMap fun i => kindFaults i.kind f.shape ++ implementationFaults i f.shape

end WideColumn.Schema
