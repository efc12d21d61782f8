/-
# Profiles

A profile names a store and its version.  The profiles form one chain, and each adds features to
all that came before it; a feature is available from the first profile that adds it on.
-/
import WideColumn.Text.LetterCase
import WideColumn.Text.Scan

namespace WideColumn

open WideColumn.Text

/-- A store and its version, oldest first. -/
inductive Profile where
  | cassandra21
  | cassandra22
  | cassandra30
  | cassandra36
  | cassandra37
  | dse51
  deriving DecidableEq

/-- Something that not every store can do. -/
inductive Feature where
  | lightweightTransactions
  | staticColumns
  | collectionIndex
  | mapKeyIndex
  | jsonStatements
  | jsonRelations
  | userFunctions
  | fullCollectionIndex
  | materializedViews
  | mapEntryIndex
  | clusteringRangeDelete
  | perPartitionLimit
  | nonFrozenUdt
  | sasiIndex
  | dseSearch
  deriving DecidableEq

namespace Feature

def all : List Feature :=
  [lightweightTransactions, staticColumns, collectionIndex, mapKeyIndex, jsonStatements,
    jsonRelations, userFunctions, fullCollectionIndex, materializedViews, mapEntryIndex,
    clusteringRangeDelete, perPartitionLimit, nonFrozenUdt, sasiIndex, dseSearch]

def label : Feature → String
  | lightweightTransactions => "lightweight transactions"
  | staticColumns => "static columns"
  | collectionIndex => "collection index"
  | mapKeyIndex => "map key index"
  | jsonStatements => "JSON statements"
  | jsonRelations => "JSON relations"
  | userFunctions => "user functions"
  | fullCollectionIndex => "full collection index"
  | materializedViews => "materialized views"
  | mapEntryIndex => "map entry index"
  | clusteringRangeDelete => "clustering range delete"
  | perPartitionLimit => "per partition limit"
  | nonFrozenUdt => "non-frozen user type"
  | sasiIndex => "SASI index"
  | dseSearch => "DSE search index"

end Feature

/-- Why a profile will not do. -/
inductive CapabilityError where
  | featureUnavailable (feature : Feature) (selected minimum : Profile)
  | unknownProfile (name : String)
  deriving DecidableEq

namespace Profile

def name : Profile → String
  | cassandra21 => "cassandra_2_1"
  | cassandra22 => "cassandra_2_2"
  | cassandra30 => "cassandra_3_0"
  | cassandra36 => "cassandra_3_6"
  | cassandra37 => "cassandra_3_7"
  | dse51 => "dse_5_1"

/-- The chain, oldest first. -/
def chain : List Profile :=
  [cassandra21, cassandra22, cassandra30, cassandra36, cassandra37, dse51]

/-- The place in the chain. -/
def rank : Profile → Nat
  | cassandra21 => 0
  | cassandra22 => 1
  | cassandra30 => 2
  | cassandra36 => 3
  | cassandra37 => 4
  | dse51 => 5

/-- What a profile adds to those before it. -/
def adds : Profile → List Feature
  | cassandra21 => [.lightweightTransactions, .staticColumns, .collectionIndex, .mapKeyIndex]
  | cassandra22 => [.jsonStatements, .jsonRelations, .userFunctions, .fullCollectionIndex]
  | cassandra30 => [.materializedViews, .mapEntryIndex, .clusteringRangeDelete]
  | cassandra36 => [.perPartitionLimit, .nonFrozenUdt]
  | cassandra37 => [.sasiIndex]
  | dse51 => [.dseSearch]

/-- Whether a feature is available. -/
def has (p : Profile) (f : Feature) : Bool :=
  (chain.take (p.rank + 1)).any fun q => q.adds.contains f

/-- The first profile that has a feature. -/
def minimum (f : Feature) : Profile :=
  (chain.find? fun p => p.adds.contains f).getD .dse51

/-- Refuses a feature that is not available. -/
def require (p : Profile) (f : Feature) : Except CapabilityError Unit :=
  if p.has f then .ok () else .error (.featureUnavailable f p (minimum f))

/-- The profile of a name; white space around it and the case of ASCII letters do not count. -/
def ofName (name : String) : Except CapabilityError Profile :=
  match chain.find? (·.name == lowerAscii (trimBlank name)) with
  | some p => .ok p
  | none => .error (.unknownProfile name)

end Profile

/-- The wording of a capability error. -/
def CapabilityError.message : CapabilityError → String
  | featureUnavailable feature selected minimum =>
    feature.label ++ " requires profile " ++ minimum.name ++ " or later, selected profile is "
      ++ selected.name
  | unknownProfile name => "unknown profile '" ++ name ++ "'"

end WideColumn
