/-
# Application data

What an application holds in memory for one field: scalars, optional data, lists, sets, maps,
tuples and records.  Where a stored value only carries contents, data keeps the promises of its
type: the elements of a set and the keys of a map stand in strictly increasing order, each once.

The order of data is the natural one: scalars by size, absence before presence, rows item by
item.  It is total on data of one type without floating-point parts, which are the types that
sets and maps admit.
-/
import WideColumn.Value.Order

namespace WideColumn

open WideColumn.Calendar WideColumn.Network WideColumn.Number

/-- Data of one field. -/
inductive Data where
  | text (s : String)
  | boolean (b : Bool)
  | tinyint (n : Int8)
  | smallint (n : Int16)
  | int (n : Int32)
  | bigint (n : Int64)
  | float (x : Single)
  | double (x : Double)
  | blob (bytes : List UInt8)
  | uuid (u : Uuid)
  | timestamp (t : Timestamp)
  | date (d : Date)
  | time (t : Time)
  | inet (a : Address)
  | absent
  | present (d : Data)
  | list (items : List Data)
  /-- Elements in increasing order. -/
  | set (items : List Data)
  /-- Entries in increasing order of their keys. -/
  | map (entries : List (Data × Data))
  | tuple (items : List Data)
  /-- Fields by the names they are stored under. -/
  | record (fields : List (String × Data))

instance : Inhabited Data := ⟨.absent⟩

namespace Data

/-- A place among the kinds, so that data of different kinds are ordered too. -/
def kind : Data → Nat
  | text _ => 0
  | boolean _ => 1
  | tinyint _ => 2
  | smallint _ => 3
  | int _ => 4
  | bigint _ => 5
  | float _ => 6
  | double _ => 7
  | blob _ => 8
  | uuid _ => 9
  | timestamp _ => 10
  | date _ => 11
  | time _ => 12
  | inet _ => 13
  | absent => 14
  | present _ => 15
  | list _ => 16
  | set _ => 17
  | map _ => 18
  | tuple _ => 19
  | record _ => 20

mutual

/-- The natural order. -/
def order : Data → Data → Ordering
  | text a, text b => Value.orderText a b
  | boolean a, boolean b => Value.orderBool a b
  | tinyint a, tinyint b => compare a.toInt b.toInt
  | smallint a, smallint b => compare a.toInt b.toInt
  | int a, int b => compare a.toInt b.toInt
  | bigint a, bigint b => compare a.toInt b.toInt
  | float a, float b => compare a.rank b.rank
  | double a, double b => compare a.rank b.rank
  | blob a, blob b => Value.orderBytes a b
  | uuid a, uuid b => a.order b
  | timestamp a, timestamp b => a.order b
  | date a, date b => a.order b
  | time a, time b => a.order b
  | inet a, inet b => a.order b
  | present a, present b => order a b
  | list a, list b => orderItems a b
  | set a, set b => orderItems a b
  | map a, map b => orderEntries a b
  | tuple a, tuple b => orderItems a b
  | record a, record b => orderFields a b
  | a, b => compare a.kind b.kind

/-- Item by item, a row before any longer row that it begins. -/
def orderItems : List Data → List Data → Ordering
  | [], [] => .eq
  | [], _ :: _ => .lt
  | _ :: _, [] => .gt
  | a :: as, b :: bs => (order a b).then (orderItems as bs)

/-- Entry by entry, key before value. -/
def orderEntries : List (Data × Data) → List (Data × Data) → Ordering
  | [], [] => .eq
  | [], _ :: _ => .lt
  | _ :: _, [] => .gt
  | (k, v) :: as, (l, w) :: bs => ((order k l).then (order v w)).then (orderEntries as bs)

/-- Field by field; the names are those of one type. -/
def orderFields : List (String × Data) → List (String × Data) → Ordering
  | [], [] => .eq
  | [], _ :: _ => .lt
  | _ :: _, [] => .gt
  | (_, v) :: as, (_, w) :: bs => (order v w).then (orderFields as bs)

end

/-! ## Sets and maps -/

/-- Puts an element into a row in increasing order, in place of an equal one. -/
def insert (d : Data) : List Data → List Data
  | [] => [d]
  | e :: es =>
    match order d e with
    | .lt => d :: e :: es
    | .eq => d :: es
    | .gt => e :: insert d es

/-- The set of the items of a row. -/
def setOf (ds : List Data) : Data :=
  set (ds.foldl (fun es d => insert d es) [])

/-- Puts an entry into a row in increasing order of keys, in place of one with an equal key. -/
def insertEntry (entry : Data × Data) : List (Data × Data) → List (Data × Data)
  | [] => [entry]
  | e :: es =>
    match order entry.1 e.1 with
    | .lt => entry :: e :: es
    | .eq => entry :: es
    | .gt => e :: insertEntry entry es

/-- The map of a row of entries: of several with one key, the last counts. -/
def mapOf (es : List (Data × Data)) : Data :=
  map (es.foldl (fun acc e => insertEntry e acc) [])

/-! ## Storing -/

mutual

/-- The stored value of data. -/
def encode : Data → Value
  | text s => .text s
  | boolean b => .boolean b
  | tinyint n => .tinyint n
  | smallint n => .smallint n
  | int n => .int n
  | bigint n => .bigint n
  | float x => .float x
  | double x => .double x
  | blob bs => .blob bs
  | uuid u => .uuid u
  | timestamp t => .timestamp t
  | date d => .date d
  | time t => .time t
  | inet a => .inet a
  | absent => .null
  | present d => encode d
  | list ds => .list (encodeItems ds)
  | set ds => .set (encodeItems ds)
  | map es => .map (encodeEntries es)
  | tuple ds => .tuple (encodeItems ds)
  | record fs => .udt (encodeFields fs)

/-- The stored values of a row. -/
def encodeItems : List Data → List Value
  | [] => []
  | d :: ds => encode d :: encodeItems ds

/-- The stored values of entries. -/
def encodeEntries : List (Data × Data) → List (Value × Value)
  | [] => []
  | (k, v) :: es => (encode k, encode v) :: encodeEntries es

/-- The stored values of fields. -/
def encodeFields : List (String × Data) → List (String × Value)
  | [] => []
  | (n, d) :: fs => (n, encode d) :: encodeFields fs

end

end Data

end WideColumn
