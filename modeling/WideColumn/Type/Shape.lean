/-
# Shapes

The storage shape of a column, with the markers of its type expression worked in.  Every node
knows whether it is frozen, which `frozen` makes its whole subtree, and how many constructors lie
around it.
-/
import WideColumn.Type.Scalar

namespace WideColumn

/-- Where a node stands: whether it is frozen, and how many constructors lie around it. -/
structure Place where
  frozen : Bool
  depth : Nat
  deriving DecidableEq

/-- The storage shape of a column or of a place inside one. -/
inductive Shape where
  | scalar (place : Place) (s : Scalar)
  | counter (place : Place)
  | list (place : Place) (element : Shape)
  | set (place : Place) (element : Shape)
  | map (place : Place) (key value : Shape)
  | tuple (place : Place) (items : List Shape)
  | udt (place : Place) (typeName : String)

namespace Shape

/-- Where the outermost node stands. -/
def place : Shape → Place
  | scalar p _ | counter p | list p _ | set p _ | map p _ _ | tuple p _ | udt p _ => p

def frozen (s : Shape) : Bool := s.place.frozen

def depth (s : Shape) : Nat := s.place.depth

def scalar? : Shape → Option Scalar
  | scalar _ s => some s
  | _ => none

def isCounter : Shape → Bool
  | counter _ => true
  | _ => false

def isCollection : Shape → Bool
  | list .. | set .. | map .. => true
  | _ => false

/-- Whether the shape has parts, or is a user type. -/
def isComposite : Shape → Bool
  | scalar .. | counter .. => false
  | _ => true

def isMap : Shape → Bool
  | map .. => true
  | _ => false

def isUdt : Shape → Bool
  | udt .. => true
  | _ => false

/-- The name of a user type. -/
def udtName? : Shape → Option String
  | udt _ name => some name
  | _ => none

/-- The name of the outermost constructor. -/
def describe : Shape → String
  | scalar .. => "scalar"
  | counter .. => "counter"
  | list .. => "list"
  | set .. => "set"
  | map .. => "map"
  | tuple .. => "tuple"
  | udt .. => "user type"

/-- Element, key and value, or items. -/
def children : Shape → List Shape
  | list _ e | set _ e => [e]
  | map _ k v => [k, v]
  | tuple _ es => es
  | scalar .. | counter .. | udt .. => []

mutual

/-- The user types named anywhere, in the order of the text. -/
def udtNames : Shape → List String
  | udt _ name => [name]
  | list _ e | set _ e => udtNames e
  | map _ k v => udtNames k ++ udtNames v
  | tuple _ es => udtNamesAll es
  | scalar .. | counter .. => []

/-- The user types named anywhere in a row. -/
def udtNamesAll : List Shape → List String
  | [] => []
  | s :: ss => udtNames s ++ udtNamesAll ss

end

mutual

/-- Whether some node satisfies a test. -/
def any (test : Shape → Bool) : Shape → Bool
  | list p e => test (list p e) || any test e
  | set p e => test (set p e) || any test e
  | map p k v => test (map p k v) || any test k || any test v
  | tuple p es => test (tuple p es) || anyOf test es
  | scalar p s => test (scalar p s)
  | counter p => test (counter p)
  | udt p n => test (udt p n)

/-- Whether some node in a row satisfies a test. -/
def anyOf (test : Shape → Bool) : List Shape → Bool
  | [] => false
  | s :: ss => any test s || anyOf test ss

end

/-- Puts `frozen` around a text where freezing begins. -/
def freezeText (frozen outside : Bool) (text : String) : String :=
  if frozen && !outside then "frozen<" ++ text ++ ">" else text

mutual

/-- The type of the shape as text, inside a frozen value or not. -/
def textIn (outside : Bool) : Shape → String
  | scalar _ s => s.name
  | counter _ => "counter"
  | list p e => freezeText p.frozen outside ("list<" ++ textIn p.frozen e ++ ">")
  | set p e => freezeText p.frozen outside ("set<" ++ textIn p.frozen e ++ ">")
  | map p k v => freezeText p.frozen outside
      ("map<" ++ textIn p.frozen k ++ ", " ++ textIn p.frozen v ++ ">")
  | tuple p es => freezeText p.frozen outside
      ("tuple<" ++ ", ".intercalate (textsIn p.frozen es) ++ ">")
  | udt p name => freezeText p.frozen outside name

/-- The types of a row of shapes as texts. -/
def textsIn (outside : Bool) : List Shape → List String
  | [] => []
  | s :: ss => textIn outside s :: textsIn outside ss

end

/-- The type of the shape as text. -/
def text (s : Shape) : String := s.textIn false

/-- Whether two shapes are of one type, wherever they stand. -/
def sameType (a b : Shape) : Bool := a.text == b.text

end Shape

end WideColumn
