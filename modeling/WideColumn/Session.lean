/-
# Sessions

What a program sees of a store, as a value: answers that are given one after another, and a log of
what was asked.  A statement is prepared by its text and then executed.  Once the given answers
are used up, every further one is an empty result.

Whatever is asked is logged before the answer is known, so what fails is in the log as well: every
text that was to be prepared and every statement that was to be executed.  The texts that were
prepared without a failure are listed once more by themselves.
-/
import WideColumn.Error
import WideColumn.Statement

namespace WideColumn

/-- A store with its answers still to come and the log so far. -/
structure Session where
  /-- If given, every preparation fails with this text. -/
  refusal : Option String := none
  /-- The kind of failure that it is. -/
  refusedAs : String → StoreError := .prepare
  answers : List (Except StoreError ResultSet) := []
  /-- Every text that was to be prepared. -/
  asked : List String := []
  /-- Those that were. -/
  prepared : List String := []
  executed : List Statement := []

namespace Session

/-- What every preparation fails with, if it does. -/
def refusal? (s : Session) : Option StoreError := s.refusal.map s.refusedAs

/-- Prepares a text. -/
def prepare (s : Session) (cql : String) : Except StoreError Unit × Session :=
  let logged := { s with asked := s.asked ++ [cql] }
  match s.refusal? with
  | some e => (.error e, logged)
  | none => (.ok (), { logged with prepared := s.prepared ++ [cql] })

/-- Executes a statement. -/
def execute (s : Session) (statement : Statement) : Except StoreError ResultSet × Session :=
  let logged := { s with executed := s.executed ++ [statement] }
  match s.answers with
  | [] => (.ok .empty, logged)
  | answer :: rest => (answer, { logged with answers := rest })

/-- Prepares and executes a statement. -/
def run (s : Session) (statement : Statement) : Except StoreError ResultSet × Session :=
  match s.prepare statement.cql with
  | (.error e, s) => (.error e, s)
  | (.ok (), s) => s.execute statement

/-- The text of the last statement executed. -/
def lastCql? (s : Session) : Option String :=
  s.executed.getLast?.map (·.cql)

end Session

end WideColumn
