/-
# Failures at run time

What can go wrong between a statement and its rows.  Apart from failures of the store itself, each
is a deterministic function of the statement and the rows that came back.
-/
import WideColumn.Codec
import WideColumn.Key.Range
import WideColumn.Row

namespace WideColumn

/-- A failure of the store. -/
inductive StoreError where
  | prepare (text : String)
  | execution (text : String)
  | unavailable (text : String)
  deriving DecidableEq

/-- The name of the kind of a failure of the store. -/
def StoreError.name : StoreError → String
  | prepare _ => "Prepare"
  | execution _ => "Execution"
  | unavailable _ => "Unavailable"

/-- The wording of a failure of the store. -/
def StoreError.message : StoreError → String
  | prepare text => "prepare failed: " ++ text
  | execution text => "execution failed: " ++ text
  | unavailable text => "no replica available: " ++ text

/-- A failure at run time. -/
inductive Error where
  | codec (cause : CodecError)
  /-- A codec failed on a column. -/
  | columnCodec (column : String) (cause : CodecError)
  | store (cause : StoreError)
  /-- A conditional write lost; the row tells what stands instead. -/
  | notApplied (current : Row)
  | missingColumn (column : String)
  | missingJson
  /-- A page brought a row that lies behind the one before it. -/
  | pageOutOfOrder (column previous current direction : String)
  | range (cause : Key.RangeError)

/-- The wording of a failure. -/
def Error.message : Error → String
  | codec cause => cause.message
  | columnCodec column cause => "column '" ++ column ++ "': " ++ cause.message
  | store cause => cause.message
  | notApplied _ => "conditional statement was not applied"
  | missingColumn column => "missing column '" ++ column ++ "' in result row"
  | missingJson => "result row has no '[json]' column"
  | pageOutOfOrder column previous current direction =>
    "slice page went backwards on '" ++ column ++ "': " ++ current ++ " after " ++ previous
      ++ " in a " ++ direction ++ " scan"
  | range cause => cause.message

/-! ## Columns of a row -/

namespace Row

/-- The cell of a column that must be there. -/
def require (r : Row) (column : String) : Except Error Value :=
  match r.get? column with
  | some v => .ok v
  | none => .error (.missingColumn column)

/-- Decodes a column; a missing cell is decoded as null. -/
def decode {α : Type} (r : Row) (column : String) (codec : Codec α) : Except Error α :=
  (codec.decode ((r.get? column).getD .null)).mapError (.columnCodec column)

/-- Decodes a column that may be absent: a missing cell and a null read as `none`. -/
def decodeOptional {α : Type} (r : Row) (column : String) (codec : Codec α) :
    Except Error (Option α) :=
  match r.get? column with
  | none | some .null => .ok none
  | some v => ((codec.decode v).map some).mapError (.columnCodec column)

end Row

namespace Codec

/-- Encodes the source of a column. -/
def encodeColumn {α : Type} (codec : Codec α) (column : String) (source : α) :
    Except Error Value :=
  (codec.encode source).mapError (.columnCodec column)

/-- Encodes the sources of an `IN` relation on a column as one list. -/
def encodeColumnList {α : Type} (codec : Codec α) (column : String) (sources : List α) :
    Except Error Value :=
  (sources.mapM (codec.encodeColumn column)).map .list

/-- Encodes the source of a column that may be absent; absence is written as null. -/
def encodeOptionalColumn {α : Type} (codec : Codec α) (column : String) :
    Option α → Except Error Value
  | none => .ok .null
  | some source => codec.encodeColumn column source

end Codec

end WideColumn
