/-
# Queries

What a statement gathers on its way from the first call to the last: fragments of text, each with
the values bound in it, and settings.

An encoding that fails does not stop the gathering.  The fragment stays without its value, and the
first failure of all is remembered and reported when the statement is asked for.
-/
import WideColumn.Error
import WideColumn.Statement
import WideColumn.Key.Predicate
import WideColumn.Value.Spoken

namespace WideColumn

open WideColumn.Key

/-- What a statement does. -/
inductive StatementKind where
  | select
  | selectJson
  | insert
  | insertJson
  | update
  | delete
  deriving DecidableEq

namespace StatementKind

/-- The name of a kind. -/
def name : StatementKind → String
  | select => "Select"
  | selectJson => "SelectJson"
  | insert => "Insert"
  | insertJson => "InsertJson"
  | update => "Update"
  | delete => "Delete"

/-- Every kind of statement. -/
def all : List StatementKind := [select, selectJson, insert, insertJson, update, delete]

end StatementKind

/-- A piece of a statement's text with the values bound in it. -/
structure Fragment where
  text : String
  bounds : List Bound

/-- The text of fragments with a separator between them. -/
def Fragment.join (separator : String) (fs : List Fragment) : String :=
  separator.intercalate (fs.map (·.text))

/-- A source to be bound: its form for people and its value, if it could be encoded. -/
structure Operand where
  spoken : String
  value : Except Error Value

namespace Operand

/-- The bound value of an operand that could be encoded. -/
def bound? (o : Operand) : Option Bound :=
  match o.value with
  | .ok v => some ⟨o.spoken, v⟩
  | .error _ => none

/-- The failure of an operand that could not. -/
def failure? (o : Operand) : Option Error :=
  match o.value with
  | .ok _ => none
  | .error e => some e

end Operand

/-- A statement under construction. -/
structure Query where
  kind : StatementKind
  table : String
  projection : List Fragment := []
  assignments : List Fragment := []
  relations : List Fragment := []
  conditions : List Fragment := []
  orderBy : List String := []
  limit : Option Nat := none
  perPartitionLimit : Option Nat := none
  allowFiltering : Bool := false
  nativeIndexRelations : Nat := 0
  ifNotExists : Bool := false
  ifExists : Bool := false
  ttl : Option Nat := none
  timestamp : Option Int := none
  options : StatementOptions := {}
  failure : Option Error := none

namespace Query

/-- Remembers a failure unless one is remembered already. -/
def fail (q : Query) (e : Error) : Query :=
  { q with failure := q.failure <|> some e }

/-- Remembers the failures of operands, in order. -/
def note (q : Query) (os : List Operand) : Query :=
  { q with failure := q.failure <|> (os.filterMap Operand.failure?).head? }

/-- A fragment with the operands that could be encoded. -/
def fragment (text : String) (os : List Operand) : Fragment :=
  ⟨text, os.filterMap Operand.bound?⟩

/-! ## Starting -/

/-- A statement of a kind on a table. -/
def on (kind : StatementKind) (table : String) : Query :=
  { kind := kind, table := table }

/-- A SELECT of a projection. -/
def selecting (json : Bool) (table projection : String) : Query :=
  { on (if json then .selectJson else .select) table with projection := [⟨projection, []⟩] }

/-- An INSERT of encoded columns, or of the failure to encode them. -/
def inserting (table : String) (columns : Except Error (List (String × Value))) : Query :=
  let q := on .insert table
  match columns with
  | .ok cs => { q with assignments := cs.map fun (column, v) => ⟨column, [⟨v.spoken, v⟩]⟩ }
  | .error e => q.fail e

/-- An INSERT of a whole row as one JSON text. -/
def insertingJson (table json : String) : Query :=
  { on .insertJson table with assignments := [⟨"JSON ?", [⟨json, .text json⟩]⟩] }

/-! ## Gathering -/

/-- Adds an expression to the projection, which for a DELETE is the list of columns. -/
def project (q : Query) (expression : String) (bounds : List Bound) : Query :=
  { q with projection := q.projection ++ [⟨expression, bounds⟩] }

/-- Adds a WHERE relation. -/
def relate (q : Query) (text : String) (os : List Operand) : Query :=
  { q.note os with relations := q.relations ++ [fragment text os] }

/-- Adds a WHERE relation on an index; native ones are counted. -/
def relateIndex (q : Query) (text : String) (native : Bool) (os : List Operand) : Query :=
  { q with nativeIndexRelations := native.toNat + q.nativeIndexRelations }.relate text os

/-- Whether two operands, where both could be encoded, are bounds in the wrong order. -/
def outOfOrder (lower upper : Operand) : Bool :=
  match lower.value, upper.value with
  | .ok a, .ok b => !a.lt b
  | _, _ => false

/-- Adds the two bounds of the clustering column at a place in the key; the lower one must lie
strictly before the upper one. -/
def relateRange (q : Query) (position : Nat) (lowerText : String) (lower : Operand)
    (upperText : String) (upper : Operand) : Query :=
  let q := if outOfOrder lower upper then q.fail (.range (.nonMonotonic position)) else q
  (q.relate lowerText [lower]).relate upperText [upper]

/-- Adds relations with their values, and sets the order of the rows. -/
def restrict (q : Query) (relations : List (String × Value)) (orderBy : List String) : Query :=
  { q with
    relations := q.relations ++ relations.map fun (text, v) => ⟨text, [⟨v.spoken, v⟩]⟩
    orderBy := orderBy }

/-- Adds the relations of a range, and sets the order of its rows. -/
def restrictTo (q : Query) (p : Predicate) : Query :=
  q.restrict (p.relations.map fun r => (r.text, r.value)) p.orderBy

/-- Adds a SET assignment. -/
def assign (q : Query) (text : String) (os : List Operand) : Query :=
  { q.note os with assignments := q.assignments ++ [fragment text os] }

/-- Adds an IF condition. -/
def condition (q : Query) (text : String) (os : List Operand) : Query :=
  { q.note os with conditions := q.conditions ++ [fragment text os] }

/-- Orders the rows by every clustering column. -/
def orderByClustering (q : Query) (clustering : List ClusteringColumn) (d : Direction) : Query :=
  { q with orderBy := clustering.map (·.orderItem d) }

/-! ## Rendering -/

/-- A clause that is left out when it has no items. -/
def clause (lead separator : String) (items : List String) : String :=
  if items.isEmpty then "" else lead ++ separator.intercalate items

/-- A clause that is there if its number is. -/
def numberClause (lead : String) : Option Nat → String
  | none => ""
  | some n => lead ++ toString n

/-- The USING clause. -/
def usingClause (q : Query) : String :=
  clause " USING " " AND "
    ((q.ttl.map fun n => s!"TTL {n}").toList ++ (q.timestamp.map fun n => s!"TIMESTAMP {n}").toList)

/-- The WHERE clause. -/
def whereClause (q : Query) : String :=
  clause " WHERE " " AND " (q.relations.map (·.text))

/-- The IF clause of a write: IF EXISTS takes the place of all conditions. -/
def ifClause (q : Query) : String :=
  if q.ifExists then " IF EXISTS" else clause " IF " " AND " (q.conditions.map (·.text))

/-- The IF NOT EXISTS of an INSERT. -/
def ifNotExistsClause (q : Query) : String :=
  if q.ifNotExists then " IF NOT EXISTS" else ""

/-- Filtering is allowed where it is asked for or where several native indexes meet. -/
def filteringClause (q : Query) : String :=
  if q.allowFiltering || 1 < q.nativeIndexRelations then " ALLOW FILTERING" else ""

/-- The text of a SELECT. -/
def selectText (q : Query) (lead : String) : String :=
  lead ++ Fragment.join ", " q.projection ++ " FROM " ++ q.table ++ q.whereClause
    ++ clause " ORDER BY " ", " q.orderBy
    ++ numberClause " PER PARTITION LIMIT " q.perPartitionLimit
    ++ numberClause " LIMIT " q.limit ++ q.filteringClause

/-- The text of the statement. -/
def text (q : Query) : String :=
  match q.kind with
  | .select => q.selectText "SELECT "
  | .selectJson => q.selectText "SELECT JSON "
  | .insert =>
    "INSERT INTO " ++ q.table ++ " (" ++ Fragment.join ", " q.assignments ++ ") VALUES ("
      ++ ", ".intercalate (q.assignments.map fun _ => "?") ++ ")"
      ++ q.ifNotExistsClause ++ q.usingClause
  | .insertJson => "INSERT INTO " ++ q.table ++ " JSON ?" ++ q.ifNotExistsClause ++ q.usingClause
  | .update =>
    "UPDATE " ++ q.table ++ q.usingClause ++ " SET " ++ Fragment.join ", " q.assignments
      ++ q.whereClause ++ q.ifClause
  | .delete =>
    "DELETE" ++ clause " " ", " (q.projection.map (·.text)) ++ " FROM " ++ q.table
      ++ q.usingClause ++ q.whereClause ++ q.ifClause

/-- The fragments whose values are bound, in the order of their placeholders. -/
def boundFragments (q : Query) : List Fragment :=
  q.projection ++ q.assignments ++ q.relations ++ if q.ifExists then [] else q.conditions

/-- The statement as gathered, failures aside. -/
def render (q : Query) : Statement :=
  ⟨q.text, q.boundFragments.flatMap (·.bounds), q.options⟩

/-- The statement, or the first failure. -/
def statement (q : Query) : Except Error Statement :=
  match q.failure with
  | some e => .error e
  | none => .ok q.render

end Query

end WideColumn
