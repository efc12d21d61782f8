/-
# Values as documents

A value is kept in a document under the name of its kind: `{"Int":1}`, `{"List":[…]}`, and null as
the bare name `"Null"`.  Numbers are numbers, blobs lists of bytes, moments, addresses and
identifiers their written forms, entries and fields pairs.
-/
import WideColumn.Value
import WideColumn.Document.Json

namespace WideColumn.Value

open WideColumn.Calendar WideColumn.Network WideColumn.Number

/-! ## Writing -/

mutual

/-- The document of a value. -/
def document : Value → Document
  | bigint n => .table [("BigInt", .integer n.toInt)]
  | blob bs => .table [("Blob", .list (bs.map fun b => .integer b.toNat))]
  | boolean b => .table [("Boolean", .boolean b)]
  | counter n => .table [("Counter", .integer n.toInt)]
  | date d => .table [("Date", .text (String.ofList d.text))]
  | double x => .table [("Double", .real x)]
  | float x => .table [("Float", .single x)]
  | inet a => .table [("Inet", .text (String.ofList a.text))]
  | int n => .table [("Int", .integer n.toInt)]
  | list vs => .table [("List", .list (documentItems vs))]
  | map es => .table [("Map", .list (documentEntries es))]
  | null => .text "Null"
  | set vs => .table [("Set", .list (documentItems vs))]
  | smallint n => .table [("SmallInt", .integer n.toInt)]
  | text s => .table [("Text", .text s)]
  | time t => .table [("Time", .text (String.ofList t.text))]
  | timestamp t => .table [("Timestamp", .text (String.ofList t.text))]
  | tinyint n => .table [("TinyInt", .integer n.toInt)]
  | tuple vs => .table [("Tuple", .list (documentItems vs))]
  | udt fs => .table [("Udt", .list (documentFields fs))]
  | uuid u => .table [("Uuid", .text (String.ofList u.text))]

/-- The documents of a row of values. -/
def documentItems : List Value → List Document
  | [] => []
  | v :: vs => document v :: documentItems vs

/-- The documents of entries. -/
def documentEntries : List (Value × Value) → List Document
  | [] => []
  | (k, v) :: es => .list [document k, document v] :: documentEntries es

/-- The documents of named fields. -/
def documentFields : List (String × Value) → List Document
  | [] => []
  | (n, v) :: fs => .list [.text n, document v] :: documentFields fs

end

/-! ## Reading -/

/-- A whole number of sixty-four bits. -/
def int64? (d : Document) : Option Int64 :=
  (d.integerIn? (-9223372036854775808) 9223372036854775807).map Int64.ofInt

/-- A whole number of thirty-two bits. -/
def int32? (d : Document) : Option Int32 :=
  (d.integerIn? (-2147483648) 2147483647).map Int32.ofInt

/-- A whole number of sixteen bits. -/
def int16? (d : Document) : Option Int16 :=
  (d.integerIn? (-32768) 32767).map Int16.ofInt

/-- A whole number of eight bits. -/
def int8? (d : Document) : Option Int8 :=
  (d.integerIn? (-128) 127).map Int8.ofInt

/-- A byte. -/
def byte? (d : Document) : Option UInt8 :=
  (d.integerIn? 0 255).map fun n => UInt8.ofNat n.toNat

/-- A number of sixty-four bits; a whole number will do. -/
def double? : Document → Option Double
  | .real x => some x
  | .integer n => some (Binary.ofInt n)
  | _ => none

/-- A number of thirty-two bits, rounded from a wider one. -/
def single? : Document → Option Single
  | .real x => some x.convert
  | .integer n => some (Binary.ofInt n)
  | .single x => some x
  | _ => none

/-- A value of a kind with no parts, by the name of the kind. -/
def plain? (kind : String) (d : Document) : Option Value :=
  match kind with
  | "BigInt" => (int64? d).map bigint
  | "Blob" => d.items?.bind fun ds => (ds.mapM byte?).map blob
  | "Boolean" => d.boolean?.map boolean
  | "Counter" => (int64? d).map counter
  | "Date" => (d.text?.bind Date.ofText?).map date
  | "Double" => (double? d).map double
  | "Float" => (single? d).map float
  | "Inet" => (d.text?.bind Address.ofText?).map inet
  | "Int" => (int32? d).map int
  | "Null" => match d with
    | .null => some null
    | _ => none
  | "SmallInt" => (int16? d).map smallint
  | "Text" => d.text?.map text
  | "Time" => (d.text?.bind Time.ofText?).map time
  | "Timestamp" => (d.text?.bind Timestamp.ofText?).map timestamp
  | "TinyInt" => (int8? d).map tinyint
  | "Uuid" => (d.text?.bind Uuid.ofText?).map uuid
  | _ => none

mutual

/-- The value a document keeps. -/
def ofDocument? : Document → Option Value
  | .text "Null" => some null
  | .table [(kind, d)] =>
    match kind, d with
    | "List", .list ds => (ofItems? ds).map list
    | "Set", .list ds => (ofItems? ds).map set
    | "Tuple", .list ds => (ofItems? ds).map tuple
    | "Map", .list ds => (ofEntries? ds).map map
    | "Udt", .list ds => (ofFields? ds).map udt
    | kind, d => plain? kind d
  | _ => none

/-- The values of a row of documents. -/
def ofItems? : List Document → Option (List Value)
  | [] => some []
  | d :: ds => do
    let v ← ofDocument? d
    let vs ← ofItems? ds
    return v :: vs

/-- The entries of a row of pairs. -/
def ofEntries? : List Document → Option (List (Value × Value))
  | [] => some []
  | .list [k, v] :: ds => do
    let k ← ofDocument? k
    let v ← ofDocument? v
    let es ← ofEntries? ds
    return (k, v) :: es
  | _ => none

/-- The named fields of a row of pairs. -/
def ofFields? : List Document → Option (List (String × Value))
  | [] => some []
  | .list [.text n, v] :: ds => do
    let v ← ofDocument? v
    let fs ← ofFields? ds
    return (n, v) :: fs
  | _ => none

end

/-- The value a JSON text keeps. -/
def ofJson? (s : String) : Option Value :=
  (Document.Json.read? s).bind ofDocument?

/-- The JSON text of a value. -/
def json (v : Value) : String :=
  Document.Json.text v.document

end WideColumn.Value
