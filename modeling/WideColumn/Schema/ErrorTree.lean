/-
# Error trees

All that is wrong with a batch of declarations, arranged by place: the violations of the batch
itself, below them those of each entity, below these those of each field, and so on.  The children
of a node stand in increasing order of their routes, each route once.

A node without any violation in or below it does not count: it is only a place that was looked at.
-/
import WideColumn.Schema.Violation

namespace WideColumn.Schema

/-- Violations by place. -/
inductive ErrorTree where
  | node (violations : List Violation) (children : List (String × ErrorTree))

namespace ErrorTree

/-- The tree of no violations. -/
def empty : ErrorTree := node [] []

/-- The violations of the node itself. -/
def violations : ErrorTree → List Violation
  | node vs _ => vs

/-- The trees below the node. -/
def children : ErrorTree → List (String × ErrorTree)
  | node _ cs => cs

/-- Changes the tree at a route, an empty one if there was none. -/
def changeAt (route : String) (change : ErrorTree → ErrorTree) :
    List (String × ErrorTree) → List (String × ErrorTree)
  | [] => [(route, change empty)]
  | (r, t) :: rest =>
    if route < r then (route, change empty) :: (r, t) :: rest
    else if route == r then (r, change t) :: rest
    else (r, t) :: changeAt route change rest

/-- Adds a violation to the node. -/
def add (v : Violation) : ErrorTree → ErrorTree
  | node vs cs => node (vs ++ [v]) cs

/-- Changes the tree below a node at a route. -/
def onRoute (route : String) (change : ErrorTree → ErrorTree) : ErrorTree → ErrorTree
  | node vs cs => node vs (changeAt route change cs)

/-- Changes the tree at the end of a row of routes. -/
def onPath (path : List String) (change : ErrorTree → ErrorTree) (t : ErrorTree) : ErrorTree :=
  path.foldr onRoute change t

mutual

/-- The violations of two trees, place by place; those of the first one come first. -/
def merge (t : ErrorTree) : ErrorTree → ErrorTree
  | node vs cs => node (t.violations ++ vs) (mergeChildren t.children cs)

/-- Merges rows of children. -/
def mergeChildren (ts : List (String × ErrorTree)) :
    List (String × ErrorTree) → List (String × ErrorTree)
  | [] => ts
  | (route, c) :: cs => mergeChildren (changeAt route (fun t => merge t c) ts) cs

end

mutual

/-- The number of violations. -/
def size : ErrorTree → Nat
  | node vs cs => vs.length + sizeOfAll cs

/-- The number of violations in a row of children. -/
def sizeOfAll : List (String × ErrorTree) → Nat
  | [] => 0
  | (_, c) :: cs => size c + sizeOfAll cs

end

mutual

/-- Whether there is no violation. -/
def isEmpty : ErrorTree → Bool
  | node vs cs => vs.isEmpty && allEmpty cs

/-- Whether there is no violation in a row of children. -/
def allEmpty : List (String × ErrorTree) → Bool
  | [] => true
  | (_, c) :: cs => isEmpty c && allEmpty cs

end

/-- Success if there is no violation, and else the tree as a failure. -/
def result (t : ErrorTree) : Except ErrorTree Unit :=
  if t.isEmpty then .ok () else .error t

/-- A route below a place; the place of the whole tree has no text. -/
def extend (place route : String) : String :=
  if place.isEmpty then route else place ++ "." ++ route

mutual

/-- The violations with their places below a given one, from the top down and by route. -/
def flattenBelow (place : String) : ErrorTree → List (String × Violation)
  | node vs cs => vs.map (fun v => (place, v)) ++ flattenAll place cs

/-- The violations of a row of children with their places. -/
def flattenAll (place : String) : List (String × ErrorTree) → List (String × Violation)
  | [] => []
  | (route, c) :: cs => flattenBelow (extend place route) c ++ flattenAll place cs

end

/-- Every violation with its dotted place. -/
def flatten (t : ErrorTree) : List (String × Violation) :=
  t.flattenBelow ""

/-- The tree at the end of a row of routes. -/
def find? (t : ErrorTree) (path : List String) : Option ErrorTree :=
  path.foldlM (fun t route => t.children.lookup route) t

/-- The segments of a dotted place, empty ones left out. -/
def segments (place : String) : List String :=
  ((place.toList.splitOn '.').filter (!·.isEmpty)).map String.ofList

/-- The violations right at a dotted place. -/
def violationsAt (t : ErrorTree) (place : String) : List Violation :=
  ((t.find? (segments place)).map violations).getD []

/-- Whether some violation passes a test. -/
def any (t : ErrorTree) (test : Violation → Bool) : Bool :=
  t.flatten.any fun e => test e.2

/-- One violation with its place. -/
def line (entry : String × Violation) : String :=
  if entry.1.isEmpty then entry.2.message else entry.1 ++ ": " ++ entry.2.message

/-- The wording of the tree, a line for each violation. -/
def message (t : ErrorTree) : String :=
  "\n".intercalate (t.flatten.map line)

end ErrorTree

/-- A violation found at the end of a row of routes. -/
structure Finding where
  path : List String
  violation : Violation

namespace Finding

/-- A violation at the place under examination. -/
def here (v : Violation) : Finding := ⟨[], v⟩

/-- The same finding, seen from one place further up. -/
def under (route : String) (f : Finding) : Finding := ⟨route :: f.path, f.violation⟩

end Finding

/-- The tree of findings. -/
def ErrorTree.ofFindings (fs : List Finding) : ErrorTree :=
  fs.foldl (fun t f => t.onPath f.path (.add f.violation)) .empty

end WideColumn.Schema
