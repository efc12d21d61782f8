/-
# Running queries

The last step of a query: rendering it, handing it to the store and reading the rows that come
back.  A query with a remembered failure never reaches the store.  A conditional write whose first
row says that it was not applied is a failure that carries that row.
-/
import WideColumn.Query
import WideColumn.Session

namespace WideColumn.Query

/-- Refuses a result whose first row tells of a write that was not applied. -/
def checkApplied (r : ResultSet) : Except Error ResultSet :=
  match r.rows.head? with
  | some row => if row.applied? == some false then .error (.notApplied row) else .ok r
  | none => .ok r

/-- Prepares and executes the statement. -/
def run (q : Query) (s : Session) : Except Error ResultSet × Session :=
  match q.statement with
  | .error e => (.error e, s)
  | .ok statement =>
    match s.run statement with
    | (.error e, s) => (.error (.store e), s)
    | (.ok r, s) => (checkApplied r, s)

/-- Runs the query and reads its rows. -/
def runWith {α : Type} (q : Query) (s : Session) (read : List Row → Except Error α) :
    Except Error α × Session :=
  let (result, s) := q.run s
  (result.bind fun r => read r.rows, s)

/-- Reads every row. -/
def readAll {α : Type} (read : Row → Except Error α) (rows : List Row) : Except Error (List α) :=
  rows.mapM read

/-- Reads the first row, if there is one. -/
def readFirst {α : Type} (read : Row → Except Error α) (rows : List Row) :
    Except Error (Option α) :=
  match rows.head? with
  | none => .ok none
  | some row => (read row).map some

/-- The JSON text of a row. -/
def jsonOf (row : Row) : Except Error String :=
  match row.get? "[json]" with
  | some (.text s) => .ok s
  | _ => .error .missingJson

end WideColumn.Query
