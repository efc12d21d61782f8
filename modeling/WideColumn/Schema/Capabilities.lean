/-
# What a schema asks of a store

A profile can serve a schema if it has every feature that the schema makes use of.
-/
import WideColumn.Profile
import WideColumn.Schema

namespace WideColumn.Schema

/-- The feature that an index makes use of. -/
def Index.feature? (i : Index) : Option Feature :=
  match i.implementation, i.kind with
  | .sasi _, _ => some .sasiIndex
  | .search _, _ => some .dseSearch
  | .native, .normal => none
  | .native, .full => some .fullCollectionIndex
  | .native, .collection | .native, .mapValue => some .collectionIndex
  | .native, .mapKey => some .mapKeyIndex
  | .native, .mapEntry => some .mapEntryIndex

/-- Whether a column holds a declared user type that is not frozen. -/
def isOpenUserType (s : Schema) (shape : Shape) : Bool :=
  !shape.frozen && shape.udtName?.any fun name => (userType? s.userTypes name).isSome

/-- The features that a field makes use of. -/
def fieldFeatures (s : Schema) (f : Field) : List Feature :=
  (if f.role.isStatic then [.staticColumns] else [])
    ++ (if s.isOpenUserType f.shape then [.nonFrozenUdt] else [])
    ++ f.indexes.filterMap Index.feature?

/-- The features that a schema makes use of, in the order in which they are asked for. -/
def features (s : Schema) : List Feature :=
  (s.entities.flatMap fun e =>
      (if e.isView then [.materializedViews] else []) ++ e.fields.flatMap s.fieldFeatures)
    ++ if s.functions.isEmpty then [] else [.userFunctions]

/-- Refuses a schema that a profile cannot serve, for the first feature it lacks. -/
def checkCapabilities (s : Schema) (p : Profile) : Except CapabilityError Unit :=
  s.features.forM p.require

end WideColumn.Schema
