/-
# Operators in source

How tightly an operator binds is its STRENGTH.  Of two operators of one strength the left one binds
first, except that assignments bind from the right.  Comparisons do not follow each other, and a
range is on the left of no operator.
-/
import WideColumn.Source.Type
import WideColumn.Source.Pattern

namespace WideColumn.Source.Grammar

open Reader Ahead

variable (g : Grammar)

/-! ## Strengths -/

namespace Strength

/-- What is no operator. -/
def none : Nat := 0

/-- Assignments. -/
def assignment : Nat := 1

/-- The dots of a range. -/
def range : Nat := 2

/-- Comparisons. -/
def comparison : Nat := 6

/-- The word of a cast. -/
def cast : Nat := 13

end Strength

/-- The operators between two expressions with their strengths; one that begins another stands
after it. -/
def binaryOperators : List (String × Nat) :=
  [("+=", 1), ("-=", 1), ("*=", 1), ("/=", 1), ("%=", 1), ("^=", 1), ("&=", 1), ("|=", 1),
    ("<<=", 1), (">>=", 1), ("&&", 4), ("||", 3), ("<<", 10), (">>", 10), ("==", 6), ("<=", 6),
    ("!=", 6), (">=", 6), ("+", 11), ("-", 11), ("*", 12), ("/", 12), ("%", 12), ("^", 8),
    ("&", 9), ("|", 7), ("<", 6), (">", 6)]

/-- The operator between two expressions that is next, and its strength. -/
def binaryOperator? (ts : List Tree) : Option (String × Nat) :=
  binaryOperators.find? fun o => hasMark o.1 ts

/-- Whether the sign of an assignment is next. -/
def hasAssignment (ts : List Tree) : Bool := hasMark "=" ts && !hasMark "=>" ts

/-- The strength of what is next, if it is an operator. -/
def strengthAhead (ts : List Tree) : Nat :=
  match binaryOperator? ts with
  | some (_, strength) => strength
  | Option.none =>
    if hasAssignment ts then Strength.assignment
    else if hasMark ".." ts then Strength.range
    else if hasWord "as" ts then Strength.cast
    else Strength.none

/-! ## What is on the right -/

/-- Stronger operators after the right side of an operator, which they take for their left side;
at most as many rows of them as the number. -/
def strongerOperators (structs : Bool) (strength : Nat) : Nat → Form → Reader Unit
  | 0, _ => failure
  | n + 1, form => do
    let ts ← ahead
    let next := strengthAhead ts
    if strength < next || strength == next && strength == Strength.assignment then
      let form ← g.innerOperators structs next form
      if (← ahead).length != ts.length then strongerOperators structs strength n form

/-- The right side of an operator. -/
def operand (structs : Bool) (strength : Nat) : Reader Unit := do
  let form ← g.innerUnary structs
  g.strongerOperators structs strength ((← ahead).length + 1) form

/-- Whether a range without an end is over. -/
def endsOpenRange (structs : Bool) (ts : List Tree) : Bool :=
  ts.isEmpty || hasPoint ts || !structs && hasGroup .curly ts || hasWord "as" ts
    || hasOneMark [",", ";", "?", "=", "+", "/", "%", "^", ">", "<=", "!=", "-=", "*=", "&=",
      "|=", "<<="] ts

/-- The dots of a range and its end. -/
def rangeEnd (structs : Bool) : Reader Unit := do
  let isClosed ← rangeDots false
  if isClosed || !(← sees (endsOpenRange structs)) then g.operand structs Strength.range

/-- Whether something is next that does not follow a cast. -/
def followsNoCast (ts : List Tree) : Bool :=
  hasPoint ts || hasMark "?" ts || hasGroup .square ts || hasGroup .round ts

/-! ## Operators after an expression -/

/-- An operator no weaker than `base` after an expression of some form, with what is on its right:
the form of the whole, if there is one. -/
def operatorStep (structs : Bool) (base : Nat) (form : Form) : Reader (Option Form) := do
  let ts ← ahead
  if form == .range then return Option.none
  else
    match binaryOperator? ts with
    | some (m, strength) =>
      if strength < base then return Option.none
      else
        let isComparison := strength == Strength.comparison
        demand !(isComparison && form == .comparison)
        mark m
        g.operand structs strength
        return some (if isComparison then .comparison else .other)
    | Option.none =>
      if base ≤ Strength.assignment && hasAssignment ts then
        mark "="
        g.operand structs Strength.assignment
        return some .other
      else if base ≤ Strength.range && hasMark ".." ts then
        g.rangeEnd structs
        return some .range
      else if base ≤ Strength.cast && hasWord "as" ts then
        word "as"
        discard <| g.innerType false
        demand !(← sees followsNoCast)
        return some .other
      else return Option.none

/-- Operators no weaker than `base` after an expression, at most as many as the number. -/
def operatorsFrom (structs : Bool) (base : Nat) : Nat → Form → Reader Form
  | 0, _ => failure
  | n + 1, form => do
    match ← g.operatorStep structs base form with
    | some form => operatorsFrom structs base n form
    | Option.none => return form

/-- Operators no weaker than `base` after an expression, with what is on their right. -/
def operators (structs : Bool) (base : Nat) (form : Form) : Reader Form := do
  g.operatorsFrom structs base ((← ahead).length + 1) form

/-- An expression; `structs` admits a structure without brackets around it. -/
def expression (structs : Bool) : Reader Form := do
  let form ← g.innerUnary structs
  g.innerOperators structs Strength.none form

end WideColumn.Source.Grammar
