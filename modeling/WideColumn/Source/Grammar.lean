/-
# The grammar of source, tied at its knots

Types hold expressions, expressions hold types, patterns, statements and definitions, and each of
these holds the others again.  A GRAMMAR is the record of the readers that such pieces use for
what lies INSIDE them.  The readers of the modules that follow take a grammar, and in the end the
knot is tied by going one level deeper for each of them.

Here are also the few facts about a piece that its surroundings ask for.
-/
import WideColumn.Source.Reader

namespace WideColumn.Source

/-- What a type is, as far as its surroundings ask. -/
inductive TypeForm where
  /-- A single name, with or without arguments; it may be given a value or bounds. -/
  | name
  /-- Another path that does not begin at a type. -/
  | path
  /-- A single bound, with the pieces of it that stand inside brackets if it has some. -/
  | bound (pieces : List String)
  | other

/-- What a bound is. -/
inductive BoundForm where
  | trait
  | lifetime
  /-- The names that a type may hold on to. -/
  | capture
  /-- A trait whose functions may run early. -/
  | constant
  deriving DecidableEq

/-- What an expression is, as far as its surroundings ask. -/
inductive Form where
  /-- It ends in its own block and is a statement without a semicolon. -/
  | block
  | range
  | comparison
  /-- A call of something that makes source; `curly` tells its brackets. -/
  | invocation (curly : Bool)
  | other
  deriving DecidableEq

namespace Form

/-- Whether a semicolon has to follow before another statement. -/
def needsSemicolon : Form → Bool
  | block | invocation true => false
  | _ => true

end Form

/-- The readers that pieces of source use for what lies inside them. -/
structure Grammar where
  /-- A type; `plus` admits several bounds without brackets around them. -/
  innerType : (plus : Bool) → Reader TypeForm
  /-- A bound; the names it may hold on to, and constant ones, are not admitted everywhere. -/
  innerBound : (captures constants : Bool) → Reader BoundForm
  /-- An expression; `structs` admits a structure without brackets around it. -/
  innerExpression : (structs : Bool) → Reader Form
  /-- An expression without operators between parts of it. -/
  innerUnary : (structs : Bool) → Reader Form
  /-- What follows an expression of some form: operators no weaker than `base`. -/
  innerOperators : (structs : Bool) → (base : Nat) → Form → Reader Form
  /-- An expression that ends in its own block, without anything that may follow it. -/
  innerBlockForm : Reader Unit
  /-- The statements of a block. -/
  innerStatements : Reader Unit
  /-- A pattern that is no choice between others; tells whether it is a range with one end. -/
  innerPattern : Reader Bool
  /-- A definition. -/
  innerDefinition : Reader Unit

namespace Grammar

/-- Reads nothing. -/
def none : Grammar where
  innerType _ := failure
  innerBound _ _ := failure
  innerExpression _ := failure
  innerUnary _ := failure
  innerOperators _ _ _ := failure
  innerBlockForm := failure
  innerStatements := failure
  innerPattern := failure
  innerDefinition := failure

end Grammar

end WideColumn.Source
