/-
# Expressions in source

An expression is built from ATOMS, which signs may stand before and calls, fields and indices
after, and from operators between such parts.

Some expressions end in a block of their own.  At the beginning of a statement or of an arm they
end there, unless a point or a question mark follows.
-/
import WideColumn.Source.Operator

namespace WideColumn.Source.Grammar

open Reader Ahead

variable (g : Grammar)

/-! ## What follows an atom -/

/-- Expressions in round brackets. -/
def roundRow : Reader Unit :=
  inside .round <| separated "," do discard <| g.innerExpression true

/-- Places in tuples that are written like a real number, up to the last point of them; tells
whether another field has to follow it. -/
def places (s : String) : Reader Bool := do
  let parts := s.splitOn "."
  let needsField := parts.getLast? == some ""
  let parts := if needsField then parts.dropLast else parts
  let ns := parts.filterMap Literal.place?
  demand (ns.length == parts.length)
  skip 1
  writeAll ((ns.map toString).intersperse ".")
  if needsField then write "."
  return needsField

/-- A field, or a function that is called like one. -/
def field : Reader Unit := do
  if !(← wordIf "await") then
    let isNamed ← member
    if isNamed then
      let hasArguments ← sees (hasMark "::")
      if hasArguments then discard g.arguments
      if hasArguments || (← sees (hasGroup .round)) then g.roundRow

/-- What follows a point. -/
def access : Reader Unit := do
  match ← ahead with
  | .literal s :: _ =>
    if Literal.isReal s then
      if ← places s then g.field
    else g.field
  | _ => g.field

/-- A call, a field, an index or a question mark after an expression, if there is one. -/
def trailerIf : Reader Bool := do
  let ts ← ahead
  if hasGroup .round ts then
    g.roundRow
    return true
  else if hasPoint ts then
    mark "."
    g.access
    return true
  else if hasGroup .square ts then
    inside .square do discard <| g.innerExpression true
    return true
  else markIf "?"

/-- Calls, fields, indices and question marks after an expression of some form; gives the form of
the whole.  None follow a range. -/
def trailers (form : Form) : Reader Form := do
  if form != .range && (← g.trailerIf) then
    repeated g.trailerIf
    return .other
  else return form

/-! ## Expressions that end in a block -/

/-- Whether names that a function is for are next. -/
def hasBinder (ts : List Tree) : Bool :=
  hasWord "for" ts && hasMark "<" (ts.drop 1)
    && (hasLifetime (ts.drop 2) || hasMark ">" (ts.drop 2))

/-- Whether an expression that ends in its own block begins here, unless it has a label. -/
def beginsBlockForm (ts : List Tree) : Bool :=
  hasGroup .curly ts || hasOneOf ["if", "while", "loop", "match", "unsafe"] ts
    || hasWord "for" ts && !hasBinder ts
    || hasOneOf ["try", "const"] ts && hasGroup .curly (ts.drop 1)

/-- A condition, or what is gone through. -/
def condition : Reader Unit := do discard <| g.innerExpression false

/-- Blocks under conditions. -/
def conditional : Reader Unit :=
  repeated do
    word "if"
    g.condition
    g.block
    if ← wordIf "else" then
      if ← sees (hasWord "if") then return true
      g.block
    return false

/-- An expression at the beginning of a statement or of an arm. -/
def boundaryExpression : Reader Form := do
  g.attributes
  let ts ← ahead
  if beginsBlockForm ts || hasLifetime ts then
    g.innerBlockForm
    if ← sees fun ts => hasPoint ts || hasMark "?" ts then
      discard <| g.trailers .other
      g.innerOperators true Strength.none .other
    else return .block
  else g.innerExpression true

/-- An arm: a pattern, a condition, and an expression. -/
def arm : Reader Unit := do
  g.attributes
  discard g.choice
  if ← wordIf "if" then discard <| g.innerExpression true
  mark "=>"
  let form ← g.boundaryExpression
  if form != .block && !(← atEnd) then mark "," else discard <| markIf ","

/-- Arms in curly brackets. -/
def arms : Reader Unit :=
  inside .curly do
    g.innerAttributes
    repeated do
      if ← atEnd then return false
      g.arm
      return true

/-- An expression that ends in its own block, without what may follow it. -/
def blockForm : Reader Unit := do
  let isLabelled ← optionally hasLifetime do
    lifetime
    mark ":"
  let ts ← ahead
  demand (beginsBlockForm ts)
  demand (!isLabelled || hasGroup .curly ts || hasOneOf ["while", "for", "loop"] ts)
  if hasWord "if" ts then g.conditional
  else if ← wordIf "while" then
    g.condition
    g.attributedBlock
  else if ← wordIf "for" then
    discard g.choice
    word "in"
    g.condition
    g.attributedBlock
  else if ← wordIf "match" then
    g.condition
    g.arms
  else if ← wordIf "try" then g.block
  else
    if !hasGroup .curly ts then anyWord
    g.attributedBlock

/-! ## Functions without a name -/

/-- Whether a function without a name begins here. -/
def beginsClosure (ts : List Tree) : Bool :=
  hasMark "|" ts || hasOneOf ["move", "static"] ts || hasBinder ts
    || hasWord "const" ts && !hasGroup .curly (ts.drop 1)
    || hasWord "async" ts && (hasMark "|" (ts.drop 1) || hasWord "move" (ts.drop 1))

/-- A parameter of a function without a name. -/
def closureParameter : Reader Unit := do
  g.attributes
  discard g.innerPattern
  if ← markIf ":" then discard <| g.innerType true

/-- A function without a name. -/
def closure (structs : Bool) : Reader Unit := do
  discard g.binderIf
  for w in ["const", "static", "async", "move"] do
    discard <| wordIf w
  mark "|"
  repeated do
    if ← sees (hasMark "|") then return false
    g.closureParameter
    if ← sees (hasMark "|") then return false
    mark ","
    return true
  mark "|"
  if ← markIf "->" then
    discard <| g.innerType true
    g.block
  else discard <| g.innerExpression structs

/-! ## Leaving what is run -/

/-- Whether an expression can begin here. -/
def beginsExpression (ts : List Tree) : Bool :=
  hasAnyWord ts || hasAnyGroup ts || hasLiteral ts || hasLifetime ts || hasOneMark ["..", "::", "#"] ts
    || hasMark "!" ts && !hasMark "!=" ts
    || hasMark "-" ts && !hasOneMark ["-=", "->"] ts
    || hasMark "*" ts && !hasMark "*=" ts
    || hasMark "|" ts && !hasMark "|=" ts
    || hasMark "&" ts && !hasMark "&=" ts
    || hasMark "<" ts && !hasOneMark ["<=", "<<="] ts

/-- The value that is handed out, if there is one. -/
def resultValueIf : Reader Unit := do
  discard <| optionally beginsExpression do discard <| g.innerExpression true

/-- The end of a loop or of a block with a label, and its value. -/
def breaking (structs : Bool) : Reader Unit := do
  word "break"
  let hasLabel ← optionally hasLifetime lifetime
  let ts ← ahead
  demand !(hasLabel && hasMark ":" ts)
  if structs || !hasGroup .curly ts then g.resultValueIf

/-! ## Atoms -/

/-- The fields of a structure; after dots stands where the others come from. -/
def structFields : Reader Unit :=
  inside .curly <| repeated do
    if ← atEnd then return false
    if ← markIf ".." then
      if !(← atEnd) then discard <| g.innerExpression true
      return false
    g.attributes
    let isNamed ← member
    if !isNamed || (← sees (hasMark ":")) then
      mark ":"
      discard <| g.innerExpression true
    if ← atEnd then return false
    mark ","
    return true

/-- A path, a call of something that makes source, or a structure. -/
def pathExpression (structs : Bool) : Reader Form := do
  let form ← g.path true
  match ← invocation? form with
  | some curly => return .invocation curly
  | Option.none =>
    if structs && (← sees (hasGroup .curly)) then g.structFields
    return .other

/-- Expressions in square brackets, or one and how often it is repeated. -/
def squareRow : Reader Unit :=
  inside .square do
    if !(← atEnd) then
      discard <| g.innerExpression true
      if ← markIf ";" then discard <| g.innerExpression true
      else if ← markIf "," then separated "," do discard <| g.innerExpression true

/-- A pattern that a value is compared with in a condition. -/
def comparedPattern (structs : Bool) : Reader Unit := do
  word "let"
  discard g.choice
  mark "="
  let form ← g.innerUnary structs
  discard <| g.innerOperators structs Strength.comparison form

/-- What is built into the language and no part of its grammar. -/
def builtIn : Reader Unit :=
  verbatim do
    anyWord
    mark "#"
    name
    treeWhere (hasGroup .round)

/-- An atom that begins with a word that is no part of a path. -/
def wordAtom (structs : Bool) : Reader Unit := do
  let ts ← ahead
  if hasWord "break" ts then g.breaking structs
  else if ← wordIf "continue" then discard <| optionally hasLifetime lifetime
  else if hasOneOf ["return", "yield"] ts then
    anyWord
    g.resultValueIf
  else if hasWord "become" ts then
    verbatim do
      anyWord
      discard <| g.innerExpression true
  else if hasWord "let" ts then g.comparedPattern structs
  else word "_"

/-- Whether a block begins here that runs on its own time. -/
def beginsAsync (ts : List Tree) : Bool :=
  let rest := ts.drop 1
  hasWord "async" ts && (hasGroup .curly rest || hasWord "move" rest && hasGroup .curly (rest.drop 1))

/-- An atom. -/
def atom (structs : Bool) : Reader Form := do
  let ts ← ahead
  let rest := ts.drop 1
  if hasLiteral ts then
    Reader.literal
    return .other
  else if beginsAsync ts then
    word "async"
    discard <| wordIf "move"
    g.block
    return .other
  else if beginsClosure ts then
    g.closure structs
    return .other
  else if hasWord "builtin" ts && hasMark "#" rest then
    builtIn
    return .other
  else if beginsValuePath ts || hasWord "try" ts && hasOneMark ["!", "::"] rest then
    g.pathExpression structs
  else if hasMark ".." ts then
    g.rangeEnd structs
    return .range
  else if beginsBlockForm ts || hasLifetime ts then
    g.blockForm
    return .block
  else
    if hasGroup .round ts then g.roundRow
    else if hasGroup .square ts then g.squareRow
    else g.wordAtom structs
    return .other

/-- Whether the address of something is taken without a reference. -/
def takesAddress (ts : List Tree) : Bool :=
  hasWord "raw" ts && hasOneOf ["mut", "const"] (ts.drop 1)

/-- An expression without operators between parts of it.  No attributes stand before a range. -/
def unary (structs : Bool) : Reader Form := do
  let before ← ahead
  g.attributes
  let ts ← ahead
  if ← markIf "&" then
    if ← sees takesAddress then anyWord
    discard <| optionally (hasOneOf (if takesAddress (ts.drop 1) then ["mut", "const"] else ["mut"])) anyWord
    discard <| g.innerUnary structs
    return .other
  else if hasOneMark ["*", "!", "-"] ts then
    tree
    discard <| g.innerUnary structs
    return .other
  else
    let form ← g.atom structs
    demand (form != .range || ts.length == before.length)
    g.trailers form

end WideColumn.Source.Grammar
