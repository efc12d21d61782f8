/-
# Type expressions

The type of a field as it is written in a declaration.  Beside scalars, collections, tuples and
user types there are two markers: `frozen` for a value that is stored as a whole, and `indexed`
for a place that carries a secondary index.
-/
import WideColumn.Type.Scalar

namespace WideColumn

/-- A type as written. -/
inductive TypeExpr where
  | scalar (s : Scalar)
  | counter
  | list (element : TypeExpr)
  | set (element : TypeExpr)
  | map (key value : TypeExpr)
  | tuple (items : List TypeExpr)
  | frozen (inner : TypeExpr)
  | indexed (inner : TypeExpr)
  | udt (name : String)

namespace TypeExpr

mutual

/-- The text of a type. -/
def text : TypeExpr → String
  | scalar s => s.name
  | counter => "counter"
  | list e => "list<" ++ text e ++ ">"
  | set e => "set<" ++ text e ++ ">"
  | map k v => "map<" ++ text k ++ ", " ++ text v ++ ">"
  | tuple es => "tuple<" ++ ", ".intercalate (texts es) ++ ">"
  | frozen e => "frozen<" ++ text e ++ ">"
  | indexed e => "indexed<" ++ text e ++ ">"
  | udt name => name

/-- The texts of a row of types. -/
def texts : List TypeExpr → List String
  | [] => []
  | e :: es => text e :: texts es

end

mutual

/-- Whether some place is marked as indexed. -/
def hasIndexMarker : TypeExpr → Bool
  | indexed _ => true
  | list e | set e | frozen e => hasIndexMarker e
  | map k v => hasIndexMarker k || hasIndexMarker v
  | tuple es => anyIndexMarker es
  | scalar _ | counter | udt _ => false

/-- Whether some type of a row has a place marked as indexed. -/
def anyIndexMarker : List TypeExpr → Bool
  | [] => false
  | e :: es => hasIndexMarker e || anyIndexMarker es

end

end TypeExpr

end WideColumn
