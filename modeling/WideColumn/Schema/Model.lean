/-
# Entities, user types and functions

What a declaration amounts to once its names are settled and its types are read: fields with
their columns, shapes, roles and indexes.
-/
import WideColumn.Declaration
import WideColumn.Text.Quoted

namespace WideColumn.Schema

open WideColumn.Text

/-- The part that a field plays in its table. -/
inductive Role where
  | partition (order : Nat)
  | clustering (order : Nat) (ascending : Bool)
  | static
  | staticCounter
  | counter
  | regular
  | computed
  deriving DecidableEq

namespace Role

/-- The place in the partition key. -/
def partitionOrder? : Role → Option Nat
  | partition order => some order
  | _ => none

/-- The place in the clustering key. -/
def clusteringOrder? : Role → Option Nat
  | clustering order _ => some order
  | _ => none

def isPartition (r : Role) : Bool := r.partitionOrder?.isSome

def isClustering (r : Role) : Bool := r.clusteringOrder?.isSome

def isKey (r : Role) : Bool := r.isPartition || r.isClustering

def isStatic : Role → Bool
  | static | staticCounter => true
  | _ => false

def isCounter : Role → Bool
  | counter | staticCounter => true
  | _ => false

def isComputed : Role → Bool
  | computed => true
  | _ => false

/-- Whether a clustering column stands in decreasing order. -/
def isDescending : Role → Bool
  | clustering _ false => true
  | _ => false

end Role

/-- How a field is carried between the application and the store. -/
inductive Strategy where
  /-- By a codec of the application. -/
  | explicit (path sourceType : String)
  /-- As the name or the place of a variant. -/
  | enumerated (sourceType : String) (encoding : EnumEncoding)
  /-- By the built-in codec of a type. -/
  | native (sourceType : String)
  /-- As JSON text. -/
  | json (sourceType : String)
  deriving DecidableEq

/-- The name of a strategy. -/
def Strategy.name : Strategy → String
  | explicit .. => "Explicit"
  | enumerated .. => "Enumerated"
  | native _ => "Native"
  | json _ => "Json"

/-- What an index is made by, with its options. -/
inductive IndexImplementation where
  | native
  | sasi (options : Declaration.Sasi)
  | search (options : Declaration.Search)
  deriving DecidableEq

namespace IndexImplementation

def label : IndexImplementation → String
  | native => "native"
  | sasi _ => "SASI"
  | search _ => "DSE search"

def isNative : IndexImplementation → Bool
  | native => true
  | _ => false

end IndexImplementation

/-- A secondary index. -/
structure Index where
  kind : IndexKind
  implementation : IndexImplementation
  name : Option String
  slot : IndexSlot
  deriving DecidableEq

/-- The name of an index: the declared one, or one made of table and column. -/
def Index.resolvedName (i : Index) (table column : String) : String :=
  i.name.getD (table ++ "_" ++ lowerAscii (unquoted column) ++ "_idx")

/-- A field of an entity. -/
structure Field where
  name : String
  column : String
  shape : Shape
  role : Role
  indexes : List Index
  /-- The strategy that the declaration asks for, if it asks. -/
  codec : Option Strategy
  computed : Option Declaration.Computed
  optional : Bool

namespace Field

def isKey (f : Field) : Bool := f.role.isKey

/-- The index that queries go by. -/
def index? (f : Field) : Option Index := f.indexes.head?

end Field

/-- The call that a computed field projects, over the given columns. -/
def expression (c : Declaration.Computed) (columns : List String) : String :=
  c.function ++ "(" ++ ", ".intercalate columns ++ ") AS " ++ c.aliasName

/-- A name inside its keyspace. -/
def qualify (keyspace : Option String) (name : String) : String :=
  match keyspace with
  | some k => k ++ "." ++ name
  | none => name

/-- Fields that have an order, by their order. -/
def inOrder (order? : Role → Option Nat) (fields : List Field) : List Field :=
  let ordered := fields.filterMap fun f => (order? f.role).map fun n => (n, f)
  (ordered.mergeSort fun a b => a.1 ≤ b.1).map (·.2)

/-- A table, or a view of one. -/
structure Entity where
  name : String
  table : String
  keyspace : Option String
  fields : List Field
  viewOf : Option String
  naming : Naming
  /-- Whether the table clusters and holds counters only, beside its key. -/
  clusteredCounter : Bool

namespace Entity

def qualifiedTable (e : Entity) : String := qualify e.keyspace e.table

def isView (e : Entity) : Bool := e.viewOf.isSome

def field? (e : Entity) (name : String) : Option Field := e.fields.find? (·.name == name)

/-- Partition fields in key order. -/
def partitionFields (e : Entity) : List Field := inOrder Role.partitionOrder? e.fields

/-- Clustering fields in key order. -/
def clusteringFields (e : Entity) : List Field := inOrder Role.clusteringOrder? e.fields

/-- Key fields in key order, then the others as declared. -/
def orderedFields (e : Entity) : List Field :=
  e.partitionFields ++ e.clusteringFields ++ e.fields.filter (!·.isKey)

def staticFields (e : Entity) : List Field := e.fields.filter (·.role.isStatic)

def indexedFields (e : Entity) : List Field := e.fields.filter (!·.indexes.isEmpty)

def hasCounters (e : Entity) : Bool := e.fields.any (·.role.isCounter)

/-- What a select projects for a field: its column, or a call on the columns of other fields. -/
def projection (e : Entity) (f : Field) : String :=
  match f.computed with
  | none => f.column
  | some c => expression c (c.targets.map fun t => ((e.field? t).map (·.column)).getD t)

end Entity

/-- A field of a user type. -/
structure TypeField where
  name : String
  column : String
  shape : Shape

/-- A user type. -/
structure UserType where
  name : String
  typeName : String
  keyspace : Option String
  fields : List TypeField

/-- The name of a user type inside its keyspace. -/
def UserType.qualifiedType (u : UserType) : String := qualify u.keyspace u.typeName

/-- The user type stored under a name. -/
def userType? (types : List UserType) (typeName : String) : Option UserType :=
  types.find? (·.typeName == typeName)

/-- A user function. -/
structure Function where
  keyspace : Option String
  name : String
  parameters : List (String × Shape)
  returns : Shape
  deterministic : Bool

namespace Function

def qualifiedName (f : Function) : String := qualify f.keyspace f.name

/-- The name with the types of the parameters, by which functions are told apart. -/
def signature (f : Function) : String :=
  f.qualifiedName ++ "(" ++ ", ".intercalate (f.parameters.map (·.2.text)) ++ ")"

end Function

end WideColumn.Schema
