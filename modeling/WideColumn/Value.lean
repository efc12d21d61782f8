/-
# Values

What a store keeps in one column, collection element, tuple slot or field of a user type.  Null
stands for an absent cell.

Sets and maps are kept as they came: sorting and dropping repetitions is the business of the
application data they decode to, not of the cell.

Equality is equality of contents, except that floating-point numbers are equal as numbers are:
the two zeros are equal, and a NaN equals nothing, not even itself.
-/
import WideColumn.Calendar.Timestamp
import WideColumn.Network.Address
import WideColumn.Number.Binary
import WideColumn.Uuid

namespace WideColumn

open WideColumn.Calendar WideColumn.Network WideColumn.Number

/-- A stored value. -/
inductive Value where
  | bigint (n : Int64)
  | blob (bytes : List UInt8)
  | boolean (b : Bool)
  | counter (n : Int64)
  | date (d : Date)
  | double (x : Double)
  | float (x : Single)
  | inet (a : Address)
  | int (n : Int32)
  | list (items : List Value)
  | map (entries : List (Value × Value))
  | null
  | set (items : List Value)
  | smallint (n : Int16)
  | text (s : String)
  | time (t : Time)
  | timestamp (t : Timestamp)
  | tinyint (n : Int8)
  | tuple (items : List Value)
  | udt (fields : List (String × Value))
  | uuid (u : Uuid)

namespace Value

/-- The short name of a value's kind, for diagnostics. -/
def typeName : Value → String
  | bigint _ => "bigint"
  | blob _ => "blob"
  | boolean _ => "boolean"
  | counter _ => "counter"
  | date _ => "date"
  | double _ => "double"
  | float _ => "float"
  | inet _ => "inet"
  | int _ => "int"
  | list _ => "list"
  | map _ => "map"
  | null => "null"
  | set _ => "set"
  | smallint _ => "smallint"
  | text _ => "text"
  | time _ => "time"
  | timestamp _ => "timestamp"
  | tinyint _ => "tinyint"
  | tuple _ => "tuple"
  | udt _ => "udt"
  | uuid _ => "uuid"

def isNull : Value → Bool
  | null => true
  | _ => false

/-- A named field of a user-type value; a missing field reads as null. -/
def field? (v : Value) (name : String) : Option Value :=
  match v with
  | udt fields => some ((fields.lookup name).getD null)
  | _ => none

mutual

/-- Equality of contents, numbers compared as numbers. -/
def equals : Value → Value → Bool
  | bigint a, bigint b => a == b
  | blob a, blob b => a == b
  | boolean a, boolean b => a == b
  | counter a, counter b => a == b
  | date a, date b => a == b
  | double a, double b => a.equals b
  | float a, float b => a.equals b
  | inet a, inet b => a == b
  | int a, int b => a == b
  | list a, list b => equalItems a b
  | map a, map b => equalEntries a b
  | null, null => true
  | set a, set b => equalItems a b
  | smallint a, smallint b => a == b
  | text a, text b => a == b
  | time a, time b => a == b
  | timestamp a, timestamp b => a == b
  | tinyint a, tinyint b => a == b
  | tuple a, tuple b => equalItems a b
  | udt a, udt b => equalFields a b
  | uuid a, uuid b => a == b
  | _, _ => false

/-- Item by item, of equal number. -/
def equalItems : List Value → List Value → Bool
  | [], [] => true
  | a :: as, b :: bs => equals a b && equalItems as bs
  | _, _ => false

/-- Entry by entry, of equal number. -/
def equalEntries : List (Value × Value) → List (Value × Value) → Bool
  | [], [] => true
  | (k, v) :: as, (l, w) :: bs => equals k l && equals v w && equalEntries as bs
  | _, _ => false

/-- Field by field, of equal number and names. -/
def equalFields : List (String × Value) → List (String × Value) → Bool
  | [], [] => true
  | (m, v) :: as, (n, w) :: bs => m == n && equals v w && equalFields as bs
  | _, _ => false

end

instance : BEq Value := ⟨equals⟩

end Value

end WideColumn
