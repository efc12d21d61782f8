/-
# Applications

A schema says how records are kept in tables; an application brings what the schema only names:
its enumerations, the types it keeps as JSON, and its own codecs.  Together they give each entity
a mapping, by which its records are read from rows and written to columns.
-/
import WideColumn.Mapping
import WideColumn.Schema

namespace WideColumn

/-- A codec with the type of its sources. -/
structure TypedCodec where
  source : Type
  codec : Codec source

/-- What an application brings, by the names that declarations use. -/
structure Application where
  /-- The full name of the module that holds the generated structures. -/
  module : String
  enumerations : List (String × Enumeration) := []
  /-- Types kept as JSON text. -/
  jsonTypes : List (String × TypedCodec) := []
  codecs : List (String × TypedCodec) := []

namespace Schema

/-- The data type of a scalar. -/
def scalarDataType? : Scalar → Option DataType
  | .ascii | .text | .varchar => some .text
  | .boolean => some .boolean
  | .tinyint => some .tinyint
  | .smallint => some .smallint
  | .int => some .int
  | .bigint => some .bigint
  | .float => some .float
  | .double => some .double
  | .blob => some .blob
  | .uuid | .timeuuid => some .uuid
  | .timestamp => some .timestamp
  | .date => some .date
  | .time => some .time
  | .inet => some .inet
  | .varint | .decimal | .duration => none

mutual

/-- The data type of a shape; `udt` gives those of user types. -/
def shapeDataType? (udt : String → Option DataType) : Shape → Option DataType
  | .scalar _ s => scalarDataType? s
  | .counter _ => some .bigint
  | .list _ e => (shapeDataType? udt e).map .list
  | .set _ e => (shapeDataType? udt e).map .set
  | .map _ k v => do
    let key ← shapeDataType? udt k
    let value ← shapeDataType? udt v
    return .map key value
  | .tuple _ es => (shapeDataTypes? udt es).map .tuple
  | .udt _ name => udt name

/-- The data types of a row of shapes. -/
def shapeDataTypes? (udt : String → Option DataType) : List Shape → Option (List DataType)
  | [] => some []
  | s :: ss => do
    let t ← shapeDataType? udt s
    let ts ← shapeDataTypes? udt ss
    return t :: ts

end

/-- The data type of a user type, by way of at most `levels` others. -/
def userDataTypeWithin? (module : String) (types : List UserType) :
    (levels : Nat) → (name : String) → Option DataType
  | 0, _ => none
  | levels + 1, name => do
    let u ← userType? types name
    let fields ← u.fields.mapM fun f =>
      (shapeDataType? (userDataTypeWithin? module types levels) f.shape).map fun t =>
        (f.column, t)
    return .record (module ++ "::" ++ u.name) fields

/-- The data type of a shape. -/
def dataType? (s : Schema) (module : String) (shape : Shape) : Option DataType :=
  shapeDataType? (userDataTypeWithin? module s.userTypes (s.userTypes.length + 1)) shape

/-- The codec of a field. -/
def typedCodec? (s : Schema) (app : Application) (e : Entity) (f : Field) : Option TypedCodec :=
  match s.codec? e f with
  | some (.explicit path _) => app.codecs.lookup path
  | some (.enumerated sourceType .name) =>
    (app.enumerations.lookup sourceType).map fun e => ⟨e.Variant, Codec.enumName e⟩
  | some (.enumerated sourceType .ordinal) =>
    (app.enumerations.lookup sourceType).map fun e => ⟨e.Variant, Codec.enumOrdinal e⟩
  | some (.native _) => (s.dataType? app.module f.shape).map fun t => ⟨Data, Codec.native t⟩
  | some (.json sourceType) => app.jsonTypes.lookup sourceType
  | none => none

/-- The part that a field's column plays. -/
def Role.columnKind : Role → ColumnKind
  | .partition _ => .partition
  | .clustering _ ascending => .clustering ascending
  | .static => .static
  | .staticCounter => .staticCounter
  | .counter => .counter
  | .regular => .regular
  | .computed => .computed

/-- The column of a field. -/
def column? (s : Schema) (app : Application) (e : Entity) (f : Field) : Option Column :=
  (s.typedCodec? app e f).map fun c => {
    field := f.name
    about := ⟨f.column, f.role.columnKind, s.columnType e f, e.projection f⟩
    optional := f.optional && !f.isKey
    source := c.source
    codec := c.codec }

/-- The mapping of an entity. -/
def mapping? (s : Schema) (app : Application) (entity : String) : Option Mapping :=
  (s.entity? entity).bind fun e =>
    (e.orderedFields.mapM (s.column? app e)).map fun columns =>
      ⟨e.keyspace, e.table, columns⟩

end Schema

end WideColumn
