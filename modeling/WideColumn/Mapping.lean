/-
# Mappings between records and tables

A mapping says how the fields of a record are kept in the columns of one table or view.  Its
columns stand in a fixed order: partition columns, clustering columns, then the others.

Each column has a codec of its own, so a record is a row of sources of different types, one for
each column.  A record is read from a row column by column, and the first failure counts.
-/
import WideColumn.Error
import WideColumn.Query

namespace WideColumn

open WideColumn.Key

/-- The part a column plays in its table. -/
inductive ColumnKind where
  | partition
  | clustering (ascending : Bool)
  | static
  | staticCounter
  | counter
  | regular
  | computed
  deriving DecidableEq

namespace ColumnKind

def isKey : ColumnKind → Bool
  | partition | clustering _ => true
  | _ => false

def isCounter : ColumnKind → Bool
  | counter | staticCounter => true
  | _ => false

/-- Whether INSERT writes the column; counters only move through increments. -/
def isWritable : ColumnKind → Bool
  | computed | counter | staticCounter => false
  | _ => true

/-- The name of the kind, for people. -/
def spoken : ColumnKind → String
  | partition => "Partition"
  | clustering ascending => "Clustering \x7b ascending: " ++ toString ascending ++ " \x7d"
  | static => "Static"
  | staticCounter => "StaticCounter"
  | counter => "Counter"
  | regular => "Regular"
  | computed => "Computed"

end ColumnKind

/-- What is known of a column apart from its codec. -/
structure ColumnMeta where
  name : String
  kind : ColumnKind
  cqlType : String
  /-- What SELECT projects: the column itself, or a call under its name. -/
  expression : String

/-- A column with the field it keeps. -/
structure Column where
  field : String
  about : ColumnMeta
  /-- Whether the field may be absent. -/
  optional : Bool
  source : Type
  codec : Codec source

namespace Column

/-- What a record holds for the column. -/
def Slot (c : Column) : Type :=
  if c.optional then Option c.source else c.source

/-- Reads the column from a row. -/
def read (c : Column) (row : Row) : Except Error c.Slot :=
  if h : c.optional then
    (row.decodeOptional c.about.name c.codec).map fun a => cast (by simp [Slot, h]) a
  else
    (row.decode c.about.name c.codec).map fun a => cast (by simp [Slot, h]) a

/-- What a slot holds, `none` where the field is absent. -/
def source? (c : Column) (slot : c.Slot) : Option c.source :=
  if h : c.optional then (cast (by simp [Slot, h]) slot : Option c.source)
  else some (cast (by simp [Slot, h]) slot)

/-- Encodes the source of a slot; absence is written as null. -/
def write (c : Column) (slot : c.Slot) : Except Error Value :=
  c.codec.encodeOptionalColumn c.about.name (c.source? slot)

end Column

/-- A record: a slot for each column. -/
def Record : List Column → Type
  | [] => Unit
  | c :: cs => c.Slot × Record cs

namespace Record

/-- Reads a record from a row. -/
def ofRow : (cs : List Column) → Row → Except Error (Record cs)
  | [], _ => .ok ()
  | c :: cs, row => do
    let slot ← c.read row
    let rest ← ofRow cs row
    return (slot, rest)

/-- The columns that INSERT writes, with their values. -/
def encodeColumns : (cs : List Column) → Record cs → Except Error (List (String × Value))
  | [], _ => .ok []
  | c :: cs, (slot, rest) =>
    if c.about.kind.isWritable then do
      let v ← c.write slot
      let others ← encodeColumns cs rest
      return (c.about.name, v) :: others
    else encodeColumns cs rest

/-- The fields with their stored values, `none` where a field is absent. -/
def fields : (cs : List Column) → Record cs → Except Error (List (String × Option Value))
  | [], _ => .ok []
  | c :: cs, (slot, rest) => do
    let v ← (c.source? slot).mapM (c.codec.encodeColumn c.about.name)
    let others ← fields cs rest
    return (c.field, v) :: others

end Record

/-- A mapping of records to one table or view. -/
structure Mapping where
  keyspace : Option String
  table : String
  columns : List Column

namespace Mapping

/-- The table with its keyspace. -/
def qualifiedTable (m : Mapping) : String :=
  match m.keyspace with
  | some keyspace => keyspace ++ "." ++ m.table
  | none => m.table

/-- The names of the partition columns, in key order. -/
def partitionColumns (m : Mapping) : List String :=
  m.columns.filterMap fun c => if c.about.kind = .partition then some c.about.name else none

/-- The clustering columns, in key order. -/
def clusteringColumns (m : Mapping) : List ClusteringColumn :=
  m.columns.filterMap fun c =>
    match c.about.kind with
    | .clustering ascending => some ⟨c.about.name, ascending⟩
    | _ => none

/-- What a plain SELECT projects. -/
def projection (m : Mapping) : String :=
  ", ".intercalate (m.columns.map (·.about.expression))

/-- The records of the mapping. -/
abbrev Record (m : Mapping) : Type := WideColumn.Record m.columns

/-- Reads a record from a row. -/
def ofRow (m : Mapping) (row : Row) : Except Error m.Record :=
  WideColumn.Record.ofRow m.columns row

/-- A SELECT of every column. -/
def select (m : Mapping) (json : Bool) : Query :=
  .selecting json m.qualifiedTable m.projection

/-- An INSERT of a record. -/
def insert (m : Mapping) (r : m.Record) : Query :=
  .inserting m.qualifiedTable (r.encodeColumns m.columns)

/-- An INSERT of a JSON text. -/
def insertJson (m : Mapping) (json : String) : Query :=
  .insertingJson m.qualifiedTable json

end Mapping

end WideColumn
