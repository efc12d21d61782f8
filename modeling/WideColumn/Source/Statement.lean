/-
# Statements in source

A block holds statements.  A semicolon ends a statement, or the statement ends by itself: a
definition does, and so does an expression that ends in its own block.  The last expression of a
block may stand without a semicolon in any case.
-/
import WideColumn.Source.Definition
import WideColumn.Source.Expression

namespace WideColumn.Source.Grammar

open Reader Ahead

variable (g : Grammar)

/-- Whether trees that have been taken end in curly brackets. -/
def endsInBlock (ts : List Tree) : Bool :=
  match ts.getLast? with
  | some (.group .curly _) => true
  | _ => false

/-- Names for the parts of a value, and a block for a value of another form. -/
def binding : Reader Unit := do
  word "let"
  discard g.innerPattern
  if ← markIf ":" then discard <| g.innerType true
  if ← markIf "=" then
    let before ← get
    discard <| g.innerExpression true
    if !endsInBlock (← takenSince before) && (← wordIf "else") then g.block
  mark ";"

/-- The path and the exclamation mark of a call of something that makes source. -/
def calling : Reader Unit := do
  bareSegments
  mark "!"

/-- Whether the brackets of a call are a whole statement. -/
def isWholeCall (ts : List Tree) : Bool :=
  hasGroup .curly ts && !hasPoint (ts.drop 1) && !hasMark "?" (ts.drop 1)

/-- A call of something that makes source, as a whole statement. -/
def wholeCall : Reader Unit := do
  g.attributes
  calling
  group
  discard <| markIf ";"

/-- A statement; tells whether it ends by itself. -/
def statement : Reader Bool := do
  let ts := (← glimpse g.attributes).getD []
  let called := (← glimpse do g.attributes; calling).getD []
  if isWholeCall called then
    g.wholeCall
    return true
  else if hasWord "let" ts then
    g.attributes
    g.binding
    return true
  else if beginsDefinition ts || hasName called || hasWord "try" called then
    g.definition
    return true
  else
    let form ← g.boundaryExpression
    let hasEnd ← markIf ";"
    return hasEnd || !form.needsSemicolon

/-- Statements up to the end. -/
def statements : Reader Unit :=
  repeated do
    if ← atEnd then return false
    else if ← markIf ";" then return true
    else
      let isWhole ← g.statement
      demand (isWhole || (← atEnd))
      return true

end WideColumn.Source.Grammar
