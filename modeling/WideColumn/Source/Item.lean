/-
# Items of source

Generated source is a row of items.  Of each item it is known what it defines: a structure, a
constant, the methods of a type, or how a type meets a trait.
-/
import WideColumn.Source.Layout

namespace WideColumn.Source

/-- A method, with the type that it returns. -/
structure Member where
  name : String
  returns : String
  text : String

/-- An item. -/
inductive Item where
  | structure (name : String) (text : String)
  | constant (name : String) (text : String)
  /-- The methods of a type; `opening` comes before them. -/
  | methods (target : String) (header : String) (opening : List String) (members : List Member)
  /-- How a type meets a trait. -/
  | conformance (target : String) (text : String)

namespace Item

/-- The name that an item adds to the source as a whole. -/
def name? : Item → Option String
  | .structure name _ | .constant name _ => some name
  | .methods .. | .conformance .. => none

/-- The text of an item. -/
def text : Item → String
  | .structure _ text | .constant _ text | .conformance _ text => text
  | .methods _ header opening members =>
    lay [header, curly (opening ++ members.map (·.text))]

end Item

end WideColumn.Source
