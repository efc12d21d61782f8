/-
# Whole texts of source

The knot of the grammar is tied: what lies inside a piece of source is read by the grammar one
level below, and the levels are as many as a text can need.
-/
import WideColumn.Source.Statement

namespace WideColumn.Source

namespace Grammar

/-- The grammar whose inner readers are the readers of another one. -/
def above (g : Grammar) : Grammar where
  innerType := g.type
  innerBound := g.bound
  innerExpression := g.expression
  innerUnary := g.unary
  innerOperators := g.operators
  innerBlockForm := g.blockForm
  innerStatements := g.statements
  innerPattern := g.pattern
  innerDefinition := g.definition

/-- The grammar for source that is nested no deeper than a number of levels. -/
def ofDepth : Nat → Grammar
  | 0 => none
  | n + 1 => (ofDepth n).above

end Grammar

/-- The laid-out text of the type that a text writes.  Every tree adds at most four levels, and
there is at least one character to a tree. -/
def Type.ofText? (s : String) : Option String := do
  let ts ← Tree.ofText? s
  let (_, p) ← ((Grammar.ofDepth (4 * s.length + 8)).type true).run ⟨ts, []⟩
  if p.trees.isEmpty then some (lay p.written.reverse) else none

end WideColumn.Source
