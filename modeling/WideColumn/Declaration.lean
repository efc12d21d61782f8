/-
# Declarations

What is written down to describe entities, user types and functions, before anything is made of
it.  A declaration can be put together by hand with the functions below or read from a document.
-/
import WideColumn.Type.Unwrap

namespace WideColumn

/-- How the names of fields turn into the names of columns. -/
inductive Naming where
  | snakeCase
  | lowerCase
  | caseSensitive
  deriving DecidableEq

namespace Naming

def name : Naming → String
  | snakeCase => "snake_case"
  | lowerCase => "lower_case"
  | caseSensitive => "case_sensitive"

def all : List Naming := [snakeCase, lowerCase, caseSensitive]

end Naming

/-- What an index of the analysing kind can search for. -/
inductive SasiMode where
  | prefixes
  | contains
  | sparse
  deriving DecidableEq

namespace SasiMode

def name : SasiMode → String
  | prefixes => "prefix"
  | contains => "contains"
  | sparse => "sparse"

def all : List SasiMode := [prefixes, contains, sparse]

end SasiMode

/-- How a text is cut into terms. -/
inductive SasiAnalyzer where
  | nonTokenizing
  | standard
  deriving DecidableEq

namespace SasiAnalyzer

def name : SasiAnalyzer → String
  | nonTokenizing => "non_tokenizing"
  | standard => "standard"

def all : List SasiAnalyzer := [nonTokenizing, standard]

end SasiAnalyzer

/-- The letter case that terms are brought to. -/
inductive Normalization where
  | none
  | lowercase
  | uppercase
  deriving DecidableEq

namespace Normalization

def name : Normalization → String
  | none => "none"
  | lowercase => "lowercase"
  | uppercase => "uppercase"

def all : List Normalization := [none, lowercase, uppercase]

end Normalization

/-- The implementation that an index asks for. -/
inductive IndexUsing where
  | native
  | sasi
  | dseSearch
  deriving DecidableEq

namespace IndexUsing

def name : IndexUsing → String
  | native => "native"
  | sasi => "sasi"
  | dseSearch => "dse_search"

def all : List IndexUsing := [native, sasi, dseSearch]

end IndexUsing

namespace IndexKind

/-- The name in declarations. -/
def name : IndexKind → String
  | normal => "normal"
  | full => "full"
  | collection => "collection"
  | mapKey => "map_key"
  | mapValue => "map_value"
  | mapEntry => "map_entry"

def all : List IndexKind := [normal, full, collection, mapKey, mapValue, mapEntry]

end IndexKind

/-- What is stored for a variant of an enumeration. -/
inductive EnumEncoding where
  | name
  | ordinal
  deriving DecidableEq

namespace EnumEncoding

def label : EnumEncoding → String
  | name => "name"
  | ordinal => "ordinal"

def all : List EnumEncoding := [name, ordinal]

end EnumEncoding

namespace Declaration

/-- The place of a field among the clustering columns, and its order. -/
structure Clustering where
  order : Nat
  ascending : Bool := true
  deriving DecidableEq

/-- Options of an index of the analysing kind. -/
structure Sasi where
  mode : SasiMode := .prefixes
  analyzed : Bool := false
  analyzer : SasiAnalyzer := .nonTokenizing
  caseSensitive : Bool := false
  normalization : Normalization := .none
  deriving DecidableEq

/-- Options of a search index. -/
structure Search where
  fullText : Bool := false
  caseSensitive : Bool := false
  deriving DecidableEq

/-- A secondary index on a field. -/
structure Index where
  kind : Option IndexKind := none
  name : Option String := none
  implementation : IndexUsing := .native
  sasi : Option Sasi := none
  search : Option Search := none
  deriving DecidableEq

/-- A codec of the application: its path, and the type of its sources. -/
structure Codec where
  path : String
  sourceType : String
  deriving DecidableEq

/-- A field of an enumeration. -/
structure Enumerated where
  sourceType : String
  encoding : EnumEncoding := .name
  deriving DecidableEq

/-- A field that is only read, as a function of others. -/
structure Computed where
  function : String
  targets : List String
  aliasName : String
  deriving DecidableEq

/-- A field of an entity. -/
structure Field where
  name : String
  type : Option String := none
  column : Option String := none
  partition : Option Nat := none
  clustering : Option Clustering := none
  isStatic : Bool := false
  optional : Bool := false
  index : Option Index := none
  codec : Option Codec := none
  enumerated : Option Enumerated := none
  /-- The type of a field kept as JSON text. -/
  json : Option String := none
  computed : Option Computed := none
  deriving DecidableEq

/-- An entity: a table, or a view of one. -/
structure Entity where
  name : String
  table : Option String := none
  keyspace : Option String := none
  viewOf : Option String := none
  naming : Option Naming := none
  fields : List Field := []
  deriving DecidableEq

/-- A field of a user type. -/
structure TypeField where
  name : String
  type : String
  column : Option String := none
  deriving DecidableEq

/-- A user type. -/
structure UserType where
  name : String
  typeName : Option String := none
  keyspace : Option String := none
  fields : List TypeField := []
  deriving DecidableEq

/-- A parameter of a function. -/
structure Parameter where
  name : String
  type : String
  deriving DecidableEq

/-- A user function. -/
structure Function where
  keyspace : Option String := none
  name : String
  parameters : List Parameter := []
  returns : String
  deterministic : Bool := false
  deriving DecidableEq

end Declaration

/-- A batch of declarations. -/
structure Declaration where
  userTypes : List Declaration.UserType := []
  entities : List Declaration.Entity := []
  functions : List Declaration.Function := []
  deriving DecidableEq

namespace Declaration

/-! ## Putting declarations together -/

def addEntity (d : Declaration) (e : Entity) : Declaration :=
  { d with entities := d.entities ++ [e] }

def addUserType (d : Declaration) (u : UserType) : Declaration :=
  { d with userTypes := d.userTypes ++ [u] }

def addFunction (d : Declaration) (f : Function) : Declaration :=
  { d with functions := d.functions ++ [f] }

namespace Sasi

/-- An index with a given mode that tells letter cases apart. -/
def ofMode (mode : SasiMode) : Sasi := { mode := mode, caseSensitive := true }

end Sasi

namespace Index

/-- An index of the analysing kind. -/
def ofSasi (s : Sasi) : Index := { implementation := .sasi, sasi := some s }

/-- A search index. -/
def ofSearch (s : Search) : Index := { implementation := .dseSearch, search := some s }

def withKind (i : Index) (k : IndexKind) : Index := { i with kind := some k }

def named (i : Index) (name : String) : Index := { i with name := some name }

end Index

namespace Field

/-- A field of a type. -/
def typed (name type : String) : Field := { name := name, type := some type }

/-- A field whose type follows from its codec. -/
def untyped (name : String) : Field := { name := name }

def withColumn (f : Field) (column : String) : Field := { f with column := some column }

def inPartition (f : Field) (order : Nat) : Field := { f with partition := some order }

def inClustering (f : Field) (order : Nat) (ascending : Bool) : Field :=
  { f with clustering := some ⟨order, ascending⟩ }

def asStatic (f : Field) : Field := { f with isStatic := true }

def asOptional (f : Field) : Field := { f with optional := true }

def withIndex (f : Field) (i : Index) : Field := { f with index := some i }

def withCodec (f : Field) (path sourceType : String) : Field :=
  { f with codec := some ⟨path, sourceType⟩ }

def asEnumerated (f : Field) (sourceType : String) (encoding : EnumEncoding) : Field :=
  { f with enumerated := some ⟨sourceType, encoding⟩ }

def asJson (f : Field) (sourceType : String) : Field := { f with json := some sourceType }

def asComputed (f : Field) (function : String) (targets : List String) (aliasName : String) :
    Field :=
  { f with computed := some ⟨function, targets, aliasName⟩ }

end Field

namespace Entity

def withTable (e : Entity) (table : String) : Entity := { e with table := some table }

def withKeyspace (e : Entity) (keyspace : String) : Entity := { e with keyspace := some keyspace }

def asViewOf (e : Entity) (base : String) : Entity := { e with viewOf := some base }

def withNaming (e : Entity) (naming : Naming) : Entity := { e with naming := some naming }

def addField (e : Entity) (f : Field) : Entity := { e with fields := e.fields ++ [f] }

end Entity

/-- Adds a field to a user type. -/
def UserType.addField (u : UserType) (name type : String) : UserType :=
  { u with fields := u.fields ++ [{ name := name, type := type }] }

/-- Adds a parameter to a function. -/
def Function.addParameter (f : Function) (name type : String) : Function :=
  { f with parameters := f.parameters ++ [⟨name, type⟩] }

end Declaration

end WideColumn
