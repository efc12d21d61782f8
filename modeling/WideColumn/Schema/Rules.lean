/-
# Rules about a whole batch

User types, tables, views and functions one by one, and that no two things share a name.
-/
import WideColumn.Schema.Rules.Entity
import WideColumn.Schema.Rules.View

namespace WideColumn.Schema

/-- The names of a row that occur more than once, in increasing order. -/
def sharedNames (names : List String) : List String :=
  ((names.eraseDups).filter fun n => 1 < names.count n).mergeSort (· ≤ ·)

/-- Tables that several entities claim; `seen` holds the earlier claims, latest first. -/
def sharedTables : List (String × String) → List Entity → List Violation
  | _, [] => []
  | seen, e :: es =>
    let table := e.qualifiedTable
    ((seen.lookup table).toList.map fun earlier => Violation.other
        ("duplicate table '" ++ table ++ "' for '" ++ earlier ++ "' and '" ++ e.name ++ "'"))
      ++ sharedTables ((table, e.name) :: seen) es

/-- The entity of a name: of several, the last one. -/
def lastEntity? (entities : List Entity) (name : String) : Option Entity :=
  entities.reverse.find? (·.name == name)

/-- What is wrong with an entity and, if it is a view, with it as a view. -/
def viewAndEntityFindings (entities : List Entity) (types : List UserType) (registry : Registry)
    (e : Entity) : List Finding :=
  entityFindings types registry e
    ++ viewFindings e (e.viewOf.bind (lastEntity? entities))

/-- All that is wrong with a batch. -/
def findings (entities : List Entity) (types : List UserType) (functions : List Function)
    (registry : Registry) : List Finding :=
  (types.flatMap fun u => (userTypeFindings types u).map (.under u.name))
    ++ ((entities.filter (!·.isView)).flatMap fun e =>
      (entityFindings types registry e).map (.under e.name))
    ++ ((entities.filter (·.isView)).flatMap fun e =>
      (viewAndEntityFindings entities types registry e).map (.under e.name))
    ++ (sharedNames (entities.map (·.name) ++ types.map (·.name))).map
      (fun name => .here (.duplicateEntity name))
    ++ (sharedTables [] entities).map .here
    ++ (functionFindings types [] functions).map (.under "function")

end WideColumn.Schema
