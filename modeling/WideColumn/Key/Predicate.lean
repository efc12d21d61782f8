/-
# Relations of a range

The WHERE relations that select exactly the rows of a resolved range, and the ORDER BY items that
go with them.

The partition key is one value; where it has several columns it is a tuple of as many.  Each fixed
clustering component becomes an equality, and the bounds become comparisons on the column that
varies, strict or not as the bounding mode says.  Whether a range is valid was settled in the
natural order of values; the direction of a scan only turns the ORDER BY items.
-/
import WideColumn.Key.Range

namespace WideColumn.Key

/-- Which bounds of a range belong to it. -/
inductive Bounding where
  | inclusive
  | exclusive
  | inclusiveStart
  | inclusiveEnd
  deriving DecidableEq

/-- The name of a bounding mode. -/
def Bounding.name : Bounding → String
  | inclusive => "InclusiveBounds"
  | exclusive => "ExclusiveBounds"
  | inclusiveStart => "InclusiveStartBoundOnly"
  | inclusiveEnd => "InclusiveEndBoundOnly"

/-- Every bounding mode. -/
def Bounding.all : List Bounding := [inclusive, exclusive, inclusiveStart, inclusiveEnd]

/-- A comparison in a relation. -/
inductive Operator where
  | eq
  | gt
  | ge
  | lt
  | le
  deriving DecidableEq

/-- The symbol of a comparison. -/
def Operator.symbol : Operator → String
  | eq => "="
  | gt => ">"
  | ge => ">="
  | lt => "<"
  | le => "<="

/-- The comparison with the start bound. -/
def Bounding.startOperator : Bounding → Operator
  | inclusive | inclusiveStart => .ge
  | exclusive | inclusiveEnd => .gt

/-- The comparison with the end bound. -/
def Bounding.endOperator : Bounding → Operator
  | inclusive | inclusiveEnd => .le
  | exclusive | inclusiveStart => .lt

/-- The direction of a scan relative to the declared clustering order. -/
inductive Direction where
  | ascending
  | descending
  deriving DecidableEq

/-- The name of a direction. -/
def Direction.name : Direction → String
  | ascending => "Ascending"
  | descending => "Descending"

/-- Both directions. -/
def Direction.all : List Direction := [ascending, descending]

/-- A clustering column and its declared order. -/
structure ClusteringColumn where
  name : String
  ascending : Bool
  deriving DecidableEq

/-- Whether a scan in a direction yields growing values of the column. -/
def ClusteringColumn.growsIn (c : ClusteringColumn) (d : Direction) : Bool :=
  c.ascending == (d == .ascending)

/-- The ORDER BY item of a column. -/
def ClusteringColumn.orderItem (c : ClusteringColumn) (d : Direction) : String :=
  c.name ++ if c.growsIn d then " ASC" else " DESC"

/-- A comparison of a column with a bound value. -/
structure Relation where
  column : String
  operator : Operator
  value : Value

/-- The text of a relation, a placeholder in place of its value. -/
def Relation.text (r : Relation) : String :=
  r.column ++ " " ++ r.operator.symbol ++ " ?"

/-- Relations with the order of the rows they select. -/
structure Predicate where
  relations : List Relation
  orderBy : List String

/-- The value of a component; one left open stands as null. -/
def componentValue (c : Option Value) : Value := c.getD .null

/-- Equalities of columns with values, in order. -/
def equalities (columns : List String) (values : List Value) : List Relation :=
  List.zipWith (fun column value => ⟨column, .eq, value⟩) columns values

/-- The equalities of the partition columns. -/
def partitionRelations (columns : List String) (partition : Value) :
    Except RangeError (List Relation) :=
  match columns, partition with
  | [column], value => .ok [⟨column, .eq, value⟩]
  | columns, .tuple items =>
    if items.length == columns.length then .ok (equalities columns items)
    else .error (.partitionArity columns.length items.length)
  | columns, _ => .error (.partitionArity columns.length 1)

/-- The comparisons with the bounds of a column. -/
def boundRelations (bounding : Bounding) (column : String) (r : Range (Option Value)) :
    List Relation :=
  (match r.lower with
    | some (some v) => [⟨column, bounding.startOperator, v⟩]
    | _ => [])
  ++ match r.upper with
    | some (some v) => [⟨column, bounding.endOperator, v⟩]
    | _ => []

/-- The relations of the clustering columns; there must be a column for each component. -/
def clusteringRelations (clustering : List ClusteringColumn) (bounding : Bounding)
    (fixed : List (Option Value)) (r : Range (Option Value)) :
    Except RangeError (List Relation) :=
  let needed := fixed.length + if r.lower.isSome || r.upper.isSome then 1 else 0
  if clustering.length < needed then
    .error (.tooManyComponents clustering.length needed)
  else
    let varying := match clustering[fixed.length]? with
      | some column => boundRelations bounding column.name r
      | none => []
    .ok (equalities (clustering.map (·.name)) (fixed.map componentValue) ++ varying)

/-- The relations and the order of a resolved range. -/
def Range.predicate (r : Range (Option Value)) (partitionColumns : List String)
    (clustering : List ClusteringColumn) (bounding : Bounding) (direction : Direction) :
    Except RangeError Predicate :=
  match r.fixed with
  | [] => .ok ⟨[], []⟩
  | partition :: fixed => do
    let first ← partitionRelations partitionColumns (componentValue partition)
    let others ← clusteringRelations clustering bounding fixed r
    return ⟨first ++ others, clustering.map (·.orderItem direction)⟩

end WideColumn.Key
