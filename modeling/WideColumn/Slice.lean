/-
# Slices of a partition

A slice reads the rows of one partition between two rows of clustering components.  Its ends go
through range resolution before any statement is made.

A PAGER reads a slice page by page.  It asks for a page only when the rows of the last one are used
up, goes on from the state that came with that page, and ends with the first page that comes
without one.  On the way it watches the column that varies across the slice: a row that lies
behind the one before it is a failure.  After a failure of the store or of the order the pager has
nothing more to give; a row that cannot be read is given as its failure, and the next ones follow.
-/
import WideColumn.Mapping
import WideColumn.Query.Run

namespace WideColumn

open WideColumn.Key

/-- A read of one partition between two rows of clustering components. -/
structure Slice where
  /-- The partition key, composite ones as a tuple; or the failure to encode it. -/
  partition : Except Error Value
  lower : List Value := []
  upper : List Value := []
  bounding : Bounding := .inclusive
  direction : Direction := .ascending
  fetchSize : Option Nat := none
  limit : Option Nat := none
  consistency : Option Consistency := none

/-- The column that varies across a slice and the last value seen on it. -/
structure Tracked where
  column : String
  ascending : Bool
  last : Option Value := none

namespace Tracked

/-- Whether a value lies behind the one before it in a scan. -/
def backwards (ascending : Bool) (current previous : Value) : Bool :=
  match current.compare? previous with
  | some .lt => ascending
  | some .gt => !ascending
  | _ => false

/-- The name of the direction. -/
def directionName (ascending : Bool) : String :=
  if ascending then "ascending" else "descending"

/-- Takes notice of a row; a row without the column changes nothing. -/
def observe (t : Tracked) (row : Row) : Except Error Tracked :=
  match row.get? t.column with
  | none => .ok t
  | some current =>
    match t.last with
    | some previous =>
      if backwards t.ascending current previous then
        .error (.pageOutOfOrder t.column previous.spoken current.spoken
          (directionName t.ascending))
      else .ok { t with last := some current }
    | none => .ok { t with last := some current }

end Tracked

namespace Slice

/-- One side of the range: the partition key, then clustering components. -/
def side (partition : Value) (components : List Value) : List (Option Value) :=
  some partition :: components.map some

/-- The query of a slice, and the column to watch. -/
def query (s : Slice) (m : Mapping) : Except Error (Query × Option Tracked) := do
  let partition ← s.partition
  let range ← (resolve (side partition s.lower) (side partition s.upper)).mapError Error.range
  let clustering := m.clusteringColumns
  let predicate ← (range.predicate m.partitionColumns clustering s.bounding s.direction).mapError
    Error.range
  let q := (m.select false).restrictTo predicate
  let q := { q with
    limit := s.limit
    options := { q.options with fetchSize := s.fetchSize, consistency := s.consistency } }
  let tracked := clustering[range.varyingPosition - 1]?.map fun c =>
    { column := c.name, ascending := c.growsIn s.direction : Tracked }
  return (q, tracked)

/-- The statement of a slice. -/
def statement (s : Slice) (m : Mapping) : Except Error Statement := do
  let (q, _) ← s.query m
  q.statement

/-- Reads the whole slice at once. -/
def getList (s : Slice) (m : Mapping) (session : Session) :
    Except Error (List m.Record) × Session :=
  match s.query m with
  | .error e => (.error e, session)
  | .ok (q, _) => q.runWith session (Query.readAll m.ofRow)

end Slice

/-- A slice being read page by page. -/
structure Pager where
  statement : Statement
  tracked : Option Tracked
  prepared : Bool := false
  buffer : List Row := []
  pagingState : Option (List UInt8) := none
  exhausted : Bool := false
  failed : Bool := false

namespace Pager

/-- A pager at the start of a slice; nothing is asked of the store yet. -/
def start (s : Slice) (m : Mapping) : Except Error Pager := do
  let (q, tracked) ← s.query m
  let statement ← q.statement
  return { statement := statement, tracked := tracked }

/-- Prepares the statement once. -/
def prepare (p : Pager) (session : Session) : Except Error Unit × Session :=
  if p.prepared then (.ok (), session)
  else
    match session.prepare p.statement.cql with
    | (.error e, session) => (.error (.store e), session)
    | (.ok (), session) => (.ok (), session)

/-- The statement that asks for the next page. -/
def pageStatement (p : Pager) : Statement :=
  { p.statement with options := { p.statement.options with pagingState := p.pagingState } }

/-- The pager after a page has come. -/
def receive (p : Pager) (page : ResultSet) : Pager :=
  { p with
    prepared := true
    buffer := page.rows
    pagingState := page.pagingState
    exhausted := page.pagingState.isNone }

/-- Asks for the next page. -/
def fetch (p : Pager) (session : Session) : Except Error Pager × Session :=
  match p.prepare session with
  | (.error e, session) => (.error e, session)
  | (.ok (), session) =>
    match session.execute p.pageStatement with
    | (.error e, session) => (.error (.store e), session)
    | (.ok page, session) => (.ok (p.receive page), session)

/-- Takes a row out of the buffer and takes notice of it. -/
def take (p : Pager) (row : Row) (rest : List Row) : Except Error (Row × Pager) :=
  match p.tracked with
  | none => .ok (row, { p with buffer := rest })
  | some t => (t.observe row).map fun t => (row, { p with buffer := rest, tracked := some t })

/-- The next row, or `none` at the end; `fuel` bounds the pages asked for. -/
def nextRowWithin : Nat → Pager → Session → Except Error (Option Row × Pager) × Session
  | 0, p, session => (.ok (none, p), session)
  | fuel + 1, p, session =>
    match p.buffer with
    | row :: rest => ((p.take row rest).map fun (row, p) => (some row, p), session)
    | [] =>
      if p.exhausted then (.ok (none, p), session)
      else
        match p.fetch session with
        | (.error e, session) => (.error e, session)
        | (.ok p, session) => nextRowWithin fuel p session

/-- The next row, or `none` at the end.  Each page asked for uses up an answer of the store, and
the one after the last answer ends the slice, so so many steps are enough. -/
def nextRow (p : Pager) (session : Session) : Except Error (Option Row × Pager) × Session :=
  nextRowWithin (session.answers.length + 3) p session

/-- The next record or failure, or `none` at the end. -/
def next (m : Mapping) (p : Pager) (session : Session) :
    Option (Except Error m.Record) × Pager × Session :=
  if p.failed then (none, p, session)
  else
    match p.nextRow session with
    | (.ok (row, p), session) => (row.map m.ofRow, p, session)
    | (.error e, session) => (some (.error e), { p with failed := true }, session)

end Pager

end WideColumn
