/-
# Types of application data

Which stored values a field of a given type takes, and what data it reads from them.

A scalar takes values of its own kind; a whole number of sixty-four bits takes counters as well.
Optional data reads null as absence.  Lists and sets take each other's values, and they and maps
read null as empty.  A tuple takes tuples of its own length.  A record takes user-type values and
reads a missing field as null.
-/
import WideColumn.Data

namespace WideColumn

/-- A type of application data. -/
inductive DataType where
  | text
  | boolean
  | tinyint
  | smallint
  | int
  | bigint
  | float
  | double
  | blob
  | uuid
  | timestamp
  | date
  | time
  | inet
  | option (type : DataType)
  | list (type : DataType)
  | set (type : DataType)
  | map (key value : DataType)
  | tuple (types : List DataType)
  /-- A generated structure: its full name, and the types of its fields by stored name. -/
  | record (name : String) (fields : List (String × DataType))

namespace DataType

mutual

/-- The full name by which diagnostics call the type. -/
def name : DataType → String
  | text => "alloc::string::String"
  | boolean => "bool"
  | tinyint => "i8"
  | smallint => "i16"
  | int => "i32"
  | bigint => "i64"
  | float => "f32"
  | double => "f64"
  | blob => "alloc::vec::Vec<u8>"
  | uuid => "uuid::Uuid"
  | timestamp => "chrono::datetime::DateTime<chrono::offset::utc::Utc>"
  | date => "chrono::naive::date::NaiveDate"
  | time => "chrono::naive::time::NaiveTime"
  | inet => "core::net::ip_addr::IpAddr"
  | option t => "core::option::Option<" ++ name t ++ ">"
  | list t => "alloc::vec::Vec<" ++ name t ++ ">"
  | set t => "alloc::collections::btree::set::BTreeSet<" ++ name t ++ ">"
  | map k v => "alloc::collections::btree::map::BTreeMap<" ++ name k ++ ", " ++ name v ++ ">"
  | tuple ts =>
    match names ts with
    | [single] => "(" ++ single ++ ",)"
    | several => "(" ++ ", ".intercalate several ++ ")"
  | record n _ => n

/-- The names of a row of types. -/
def names : List DataType → List String
  | [] => []
  | t :: ts => name t :: names ts

end

mutual

/-- The data a value holds for a type, if the type takes it. -/
def decode? : DataType → Value → Option Data
  | text, .text s => some (.text s)
  | boolean, .boolean b => some (.boolean b)
  | tinyint, .tinyint n => some (.tinyint n)
  | smallint, .smallint n => some (.smallint n)
  | int, .int n => some (.int n)
  | bigint, .bigint n => some (.bigint n)
  | bigint, .counter n => some (.bigint n)
  | float, .float x => some (.float x)
  | double, .double x => some (.double x)
  | blob, .blob bs => some (.blob bs)
  | uuid, .uuid u => some (.uuid u)
  | timestamp, .timestamp t => some (.timestamp t)
  | date, .date d => some (.date d)
  | time, .time t => some (.time t)
  | inet, .inet a => some (.inet a)
  | option _, .null => some .absent
  | option t, v => (decode? t v).map .present
  | list t, .list vs | list t, .set vs => (vs.mapM (decode? t)).map .list
  | list _, .null => some (.list [])
  | set t, .set vs | set t, .list vs => (vs.mapM (decode? t)).map Data.setOf
  | set _, .null => some (.set [])
  | map k v, .map es =>
    (es.mapM fun (key, value) => return (← decode? k key, ← decode? v value)).map Data.mapOf
  | map _ _, .null => some (.map [])
  | tuple ts, .tuple vs => (decodeTuple? ts vs).map .tuple
  | record _ fs, v => (decodeFields? fs v).map .record
  | _, _ => none

/-- The data of a tuple, slot by slot; the lengths must agree. -/
def decodeTuple? : List DataType → List Value → Option (List Data)
  | [], [] => some []
  | t :: ts, v :: vs => do
    let d ← decode? t v
    let ds ← decodeTuple? ts vs
    return d :: ds
  | _, _ => none

/-- The data of the fields of a record. -/
def decodeFields? : List (String × DataType) → Value → Option (List (String × Data))
  | [], _ => some []
  | (n, t) :: fs, v => do
    let d ← (v.field? n).bind (decode? t)
    let ds ← decodeFields? fs v
    return (n, d) :: ds

end

end DataType

end WideColumn
