/-
# Rules about nesting

A composite value inside another one has to be frozen, and counters are never inside anything.  A
key column is frozen as a whole, and so is all in a user type, which is itself inside something.
-/
import WideColumn.Schema.ErrorTree

namespace WideColumn.Schema

/-- What is wrong with one node at a path inside a composite. -/
def nodeFaults (path : String) (s : Shape) : List Violation :=
  (if s.isCounter then [.counterPlacement .nested] else [])
    ++ if s.isComposite && !s.frozen then [.unfrozenNested s.describe path] else []

/-- A step further down a path. -/
def step (path label : String) : String :=
  if path.isEmpty then label else path ++ "." ++ label

mutual

/-- What is wrong with a node at a path inside a composite, and with all below it. -/
def nestedFaults (path : String) : Shape → List Violation
  | .list p e => nodeFaults path (.list p e) ++ nestedFaults (step path "element") e
  | .set p e => nodeFaults path (.set p e) ++ nestedFaults (step path "element") e
  | .map p k v => nodeFaults path (.map p k v) ++ nestedFaults (step path "key") k
      ++ nestedFaults (step path "value") v
  | .tuple p es => nodeFaults path (.tuple p es) ++ nestedItemFaults path 0 es
  | .scalar p s => nodeFaults path (.scalar p s)
  | .counter p => nodeFaults path (.counter p)
  | .udt p name => nodeFaults path (.udt p name)

/-- What is wrong with the items of a tuple, numbered from `n`. -/
def nestedItemFaults (path : String) (n : Nat) : List Shape → List Violation
  | [] => []
  | s :: ss => nestedFaults (step path (toString n)) s ++ nestedItemFaults path (n + 1) ss

end

/-- What is wrong below the outermost node of a column. -/
def nestingFaults : Shape → List Violation
  | .list _ e | .set _ e => nestedFaults "element" e
  | .map _ k v => nestedFaults "key" k ++ nestedFaults "value" v
  | .tuple _ es => nestedItemFaults "" 0 es
  | .scalar .. | .counter _ | .udt .. => []

/-- What is wrong with the shape of a key column. -/
def keyShapeFaults (s : Shape) : List Violation :=
  if s.isComposite && !s.frozen then [.unfrozenKey s.text] else []

/-- What is wrong with the shape of a user type's field. -/
def typeFieldFaults (s : Shape) : List Violation :=
  nestedFaults "field" s

end WideColumn.Schema
