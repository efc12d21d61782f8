/-
# Statements

A statement is a text with placeholders, the values that take their places in order, and options
that the store is handed along.
-/
import WideColumn.Value

namespace WideColumn

/-- How many replicas must agree. -/
inductive Consistency where
  | all
  | any
  | eachQuorum
  | localOne
  | localQuorum
  | localSerial
  | one
  | quorum
  | serial
  | three
  | two
  deriving DecidableEq

namespace Consistency

/-- The name the store knows. -/
def label : Consistency → String
  | all => "ALL"
  | any => "ANY"
  | eachQuorum => "EACH_QUORUM"
  | localOne => "LOCAL_ONE"
  | localQuorum => "LOCAL_QUORUM"
  | localSerial => "LOCAL_SERIAL"
  | one => "ONE"
  | quorum => "QUORUM"
  | serial => "SERIAL"
  | three => "THREE"
  | two => "TWO"

/-- The name in documents. -/
def name : Consistency → String
  | all => "All"
  | any => "Any"
  | eachQuorum => "EachQuorum"
  | localOne => "LocalOne"
  | localQuorum => "LocalQuorum"
  | localSerial => "LocalSerial"
  | one => "One"
  | quorum => "Quorum"
  | serial => "Serial"
  | three => "Three"
  | two => "Two"

/-- Every level, in the order of their names. -/
def levels : List Consistency :=
  [all, any, eachQuorum, localOne, localQuorum, localSerial, one, quorum, serial, three, two]

/-- The level with a name. -/
def ofName? (s : String) : Option Consistency :=
  levels.find? (·.name == s)

end Consistency

/-- What the store is told beside the text. -/
structure StatementOptions where
  consistency : Option Consistency := none
  serialConsistency : Option Consistency := none
  fetchSize : Option Nat := none
  pagingState : Option (List UInt8) := none
  deriving DecidableEq

/-- A value that takes the place of a placeholder, with the form of its source for people. -/
structure Bound where
  spoken : String
  value : Value

/-- A statement ready to be prepared and executed. -/
structure Statement where
  cql : String
  bounds : List Bound
  options : StatementOptions

namespace Statement

/-- The values in the order of their placeholders. -/
def values (s : Statement) : List Value := s.bounds.map (·.value)

/-- How many placeholders the text holds. -/
def placeholderCount (s : Statement) : Nat := s.cql.toList.count '?'

end Statement

end WideColumn
