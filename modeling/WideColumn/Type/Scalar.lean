/-
# Scalar types

The types of single values that a column can be declared with.
-/
import WideColumn.Text.LetterCase

namespace WideColumn

/-- A type of single values. -/
inductive Scalar where
  | ascii
  | bigint
  | blob
  | boolean
  | date
  | decimal
  | double
  | duration
  | float
  | inet
  | int
  | smallint
  | text
  | time
  | timestamp
  | timeuuid
  | tinyint
  | uuid
  | varchar
  | varint
  deriving DecidableEq

namespace Scalar

/-- The name in a type expression. -/
def name : Scalar → String
  | ascii => "ascii"
  | bigint => "bigint"
  | blob => "blob"
  | boolean => "boolean"
  | date => "date"
  | decimal => "decimal"
  | double => "double"
  | duration => "duration"
  | float => "float"
  | inet => "inet"
  | int => "int"
  | smallint => "smallint"
  | text => "text"
  | time => "time"
  | timestamp => "timestamp"
  | timeuuid => "timeuuid"
  | tinyint => "tinyint"
  | uuid => "uuid"
  | varchar => "varchar"
  | varint => "varint"

/-- Every scalar type. -/
def all : List Scalar :=
  [ascii, bigint, blob, boolean, date, decimal, double, duration, float, inet, int, smallint,
    text, time, timestamp, timeuuid, tinyint, uuid, varchar, varint]

/-- The scalar type of a name; the case of ASCII letters does not count. -/
def ofName? (s : String) : Option Scalar :=
  all.find? (·.name == Text.lowerAscii s)

def isText : Scalar → Bool
  | ascii | text | varchar => true
  | _ => false

def isNumeric : Scalar → Bool
  | tinyint | smallint | int | bigint | float | double | varint | decimal => true
  | _ => false

def isFloat : Scalar → Bool
  | float | double => true
  | _ => false

/-- The moments that text-search indexes accept. -/
def isTemporal : Scalar → Bool
  | timestamp | date => true
  | _ => false

def isUuid : Scalar → Bool
  | uuid | timeuuid => true
  | _ => false

end Scalar

end WideColumn
