/-
# Rows and results

A row is the cells a store returned for one line of a result, in order.  A cell is looked up by
its column: quotes around the name are dropped and the case of ASCII letters does not count, and
of several cells that match the first one is meant.
-/
import WideColumn.Value
import WideColumn.Text.LetterCase
import WideColumn.Text.Quoted

namespace WideColumn

open WideColumn.Text

/-- The cells of one line of a result. -/
structure Row where
  cells : List (String × Value)

namespace Row

/-- Whether a cell's name stands for a column. -/
def matchesColumn (column : String) (cell : String × Value) : Bool :=
  lowerAscii cell.1 == lowerAscii (unquoted column)

/-- The cell of a column. -/
def get? (r : Row) (column : String) : Option Value :=
  (r.cells.find? (matchesColumn column)).map (·.2)

/-- Whether a conditional write was applied, if the row tells. -/
def applied? (r : Row) : Option Bool :=
  match r.get? "[applied]" with
  | some (.boolean b) => some b
  | _ => none

end Row

/-- Rows, and the state from which the next page goes on. -/
structure ResultSet where
  rows : List Row
  pagingState : Option (List UInt8)

namespace ResultSet

/-- No rows, and no more to come. -/
def empty : ResultSet := ⟨[], none⟩

end ResultSet

end WideColumn
