/-
# Violations

The rules that a declaration can break.  Where a rule was broken is not said here: a violation
stands at a place of a tree.
-/
import WideColumn.Schema.Naming
import WideColumn.Schema.Resolution
import WideColumn.Text.Quoted
import WideColumn.Type.Parser

namespace WideColumn.Schema

open WideColumn.Text

/-- What is wrong with a target of a computed field. -/
inductive TargetFault where
  | unknown
  | key
  | computed
  deriving DecidableEq

def TargetFault.reason : TargetFault → String
  | unknown => "is not a field of this entity"
  | key => "is a key column"
  | computed => "is itself computed"

/-- Where a counter must not be. -/
inductive CounterFault where
  | key
  | nested
  | indexed
  deriving DecidableEq

def CounterFault.reason : CounterFault → String
  | key => "cannot be a key column"
  | nested => "cannot be nested inside a composite"
  | indexed => "cannot be indexed"

/-- What keeps a base from having views. -/
inductive BaseFault where
  | view
  | counters
  deriving DecidableEq

def BaseFault.reason : BaseFault → String
  | view => "it is itself a view"
  | counters => "it holds counter columns"

/-- The two parts of a primary key. -/
inductive KeyPart where
  | partition
  | clustering
  deriving DecidableEq

def KeyPart.label : KeyPart → String
  | partition => "partition"
  | clustering => "clustering"

/-- A rule broken. -/
inductive Violation where
  | computedKeyOrIndexed
  | computedTarget (target : String) (fault : TargetFault)
  | conflictingCodecs
  | conflictingRoles (markers : List String)
  | counterPlacement (fault : CounterFault)
  | counterTableMixed (column : String)
  | duplicateColumn (column : String)
  | duplicateEntity (entity : String)
  | duplicateField (field : String)
  | duplicateFunction (signature : String)
  | fullIndexRequiresFrozen
  | indexImplementationIneligible (implementation : String) (shape : String)
  | indexKindMismatch (kind : IndexKind) (shape : String)
  | invalidIdentifier (name : String) (fault : NameFault)
  | keyIndexed
  | keyOrderGap (part : KeyPart) (expected : Nat) (found : List Nat)
  | missingPartitionKey
  | missingType
  | multipleIndexes (count : Nat)
  | other (text : String)
  | reservedWord (name : String)
  | resolve (cause : ResolveError)
  | staticWithoutClustering
  | typeParse (cause : TypeExpr.ParseError)
  | unfrozenKey (shape : String)
  | unfrozenNested (composite path : String)
  | unknownFunctionType (type : String)
  | unknownUdt (name : String)
  | viewBaseInvalid (base : String) (fault : BaseFault)
  | viewBaseMissing (base : String)
  | viewExtraKeys (columns : List String)
  | viewFieldMismatch
  | viewIndexed
  | viewMissingBaseComposite (column : String)
  | viewMissingBaseKey (column : String)
  | viewStatic
  deriving DecidableEq

namespace Violation

/-- The name of the rule. -/
def rule : Violation → String
  | computedKeyOrIndexed => "ComputedKeyOrIndexed"
  | computedTarget .. => "ComputedTarget"
  | conflictingCodecs => "ConflictingCodecs"
  | conflictingRoles _ => "ConflictingRoles"
  | counterPlacement _ => "CounterPlacement"
  | counterTableMixed _ => "CounterTableMixed"
  | duplicateColumn _ => "DuplicateColumn"
  | duplicateEntity _ => "DuplicateEntity"
  | duplicateField _ => "DuplicateField"
  | duplicateFunction _ => "DuplicateFunction"
  | fullIndexRequiresFrozen => "FullIndexRequiresFrozen"
  | indexImplementationIneligible .. => "IndexImplementationIneligible"
  | indexKindMismatch .. => "IndexKindMismatch"
  | invalidIdentifier .. => "InvalidIdentifier"
  | keyIndexed => "KeyIndexed"
  | keyOrderGap .. => "KeyOrderGap"
  | missingPartitionKey => "MissingPartitionKey"
  | missingType => "MissingType"
  | multipleIndexes _ => "MultipleIndexes"
  | other _ => "Other"
  | reservedWord _ => "ReservedWord"
  | resolve _ => "Resolve"
  | staticWithoutClustering => "StaticWithoutClustering"
  | typeParse _ => "TypeParse"
  | unfrozenKey _ => "UnfrozenKey"
  | unfrozenNested .. => "UnfrozenNested"
  | unknownFunctionType _ => "UnknownFunctionType"
  | unknownUdt _ => "UnknownUdt"
  | viewBaseInvalid .. => "ViewBaseInvalid"
  | viewBaseMissing _ => "ViewBaseMissing"
  | viewExtraKeys _ => "ViewExtraKeys"
  | viewFieldMismatch => "ViewFieldMismatch"
  | viewIndexed => "ViewIndexed"
  | viewMissingBaseComposite _ => "ViewMissingBaseComposite"
  | viewMissingBaseKey _ => "ViewMissingBaseKey"
  | viewStatic => "ViewStatic"

/-- Items between square brackets. -/
def bracketed (items : List String) : String :=
  "[" ++ ", ".intercalate items ++ "]"

/-- The wording of a violation. -/
def message : Violation → String
  | computedKeyOrIndexed => "computed field must not be a key column or indexed"
  | computedTarget target fault => "computed target '" ++ target ++ "' " ++ fault.reason
  | conflictingCodecs => "at most one of codec, enumerated and json may be set"
  | conflictingRoles markers => "conflicting role markers: " ++ ", ".intercalate markers
  | counterPlacement fault => "counter " ++ fault.reason
  | counterTableMixed column => "counter table column '" ++ column ++ "' is not a counter"
  | duplicateColumn column => "duplicate column '" ++ column ++ "'"
  | duplicateEntity entity => "duplicate entity '" ++ entity ++ "'"
  | duplicateField field => "duplicate field '" ++ field ++ "'"
  | duplicateFunction signature => "duplicate function signature " ++ signature
  | fullIndexRequiresFrozen => "FULL index requires a frozen collection"
  | indexImplementationIneligible implementation shape =>
    implementation ++ " index cannot be placed on " ++ shape
  | indexKindMismatch kind shape => kind.label ++ " index is not valid on " ++ shape
  | invalidIdentifier name fault => "invalid identifier '" ++ name ++ "': " ++ fault.reason
  | keyIndexed => "key columns cannot be indexed"
  | keyOrderGap part expected found =>
    part.label ++ " key orders must be 0.." ++ toString expected
      ++ " without gaps or duplicates, found " ++ bracketed (found.map toString)
  | missingPartitionKey => "missing partition key"
  | missingType => "field needs a type"
  | multipleIndexes count =>
    toString count ++ " indexes declared, at most one is allowed per field"
  | other text => text
  | reservedWord name => "identifier '" ++ name ++ "' is a reserved word"
  | resolve cause => cause.message
  | staticWithoutClustering => "static columns require at least one clustering column"
  | typeParse cause => "invalid type: " ++ cause.message
  | unfrozenKey shape => "key column of type " ++ shape ++ " must be frozen"
  | unfrozenNested composite path => composite ++ " nested at '" ++ path ++ "' must be frozen"
  | unknownFunctionType type => "function type '" ++ type ++ "' cannot be resolved"
  | unknownUdt name => "unknown user type '" ++ name ++ "'"
  | viewBaseInvalid base fault => "base '" ++ base ++ "' cannot back a view: " ++ fault.reason
  | viewBaseMissing base => "base '" ++ base ++ "' of view is not declared"
  | viewExtraKeys columns =>
    "view has " ++ toString columns.length ++ " key columns not in the base key: "
      ++ bracketed (columns.map quoted)
  | viewFieldMismatch => "view field does not match base field by name and type"
  | viewIndexed => "views cannot declare indexes"
  | viewMissingBaseComposite column =>
    "view is missing base collection or UDT column '" ++ column ++ "'"
  | viewMissingBaseKey column => "view does not key on base key column '" ++ column ++ "'"
  | viewStatic => "views cannot carry static columns"

end Violation

end WideColumn.Schema
