/-
# Calls of user functions

A call names a function and its arguments, which are columns of the queried table or literals.
A literal is bound like any other value, so in the text a placeholder stands for it.
-/
import WideColumn.Query
import WideColumn.Data.Spoken

namespace WideColumn

/-- An argument of a call. -/
inductive Argument where
  | column (name : String)
  | bound (b : Bound)

namespace Argument

/-- A literal argument. -/
def literal (d : Data) : Argument := .bound ⟨d.spoken, d.encode⟩

/-- How the argument stands in the text. -/
def text : Argument → String
  | column name => name
  | bound _ => "?"

/-- The value bound for the argument. -/
def bound? : Argument → Option Bound
  | column _ => none
  | bound b => some b

end Argument

/-- A call of a user function. -/
structure FunctionCall where
  keyspace : Option String
  name : String
  arguments : List Argument

namespace FunctionCall

/-- The text of the call. -/
def text (c : FunctionCall) : String :=
  (match c.keyspace with
    | some keyspace => keyspace ++ "." ++ c.name
    | none => c.name)
  ++ "(" ++ ", ".intercalate (c.arguments.map (·.text)) ++ ")"

/-- The values of the literals, in the order of their placeholders. -/
def bounds (c : FunctionCall) : List Bound := c.arguments.filterMap (·.bound?)

end FunctionCall

/-- Adds a call to the projection under an alias. -/
def Query.projectCall (q : Query) (c : FunctionCall) (aliasName : String) : Query :=
  q.project (c.text ++ " AS " ++ aliasName) c.bounds

end WideColumn
