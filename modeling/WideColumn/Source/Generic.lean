/-
# Bounds and generic parameters

A bound says what a type has to be: a trait it meets, a lifetime it outlives, or the names it may
hold on to.  Parameters of generic items are lifetimes, types and constants; what they have to be
is said beside them or in clauses that follow.
-/
import WideColumn.Source.Path

namespace WideColumn.Source.Grammar

open Reader Ahead

variable (g : Grammar)

/-! ## Parameters -/

/-- A bound of a lifetime, up to where none is wanted any more. -/
def lifetimeRow (ends : List Tree → Bool) : Reader Unit :=
  repeated do
    if ← sees ends then return false
    lifetime
    markIf "+"

/-- A colon with what follows it, written unless nothing follows. -/
def boundsIf (row : Reader Unit) : Reader Unit := do
  if ← sees (hasMark ":") then
    skip 1
    let (_, pieces) ← captured row
    if !pieces.isEmpty then writeAll (":" :: pieces)

/-- A lifetime with its bounds. -/
def lifetimeParameter : Reader Unit := do
  lifetime
  boundsIf (lifetimeRow fun ts => ts.isEmpty || hasOneMark [",", ">"] ts)

/-- A type with its bounds and the type that stands for it by default. -/
def typeParameter : Reader Unit := do
  name
  boundsIf (g.boundRow (fun ts => ts.isEmpty || hasOneMark [",", ">", "="] ts) true)
  if ← markIf "=" then discard <| g.innerType true

/-- A constant with its type and the value that stands for it by default. -/
def constantParameter : Reader Unit := do
  word "const"
  name
  mark ":"
  discard <| g.innerType true
  if ← markIf "=" then
    if ← sees hasName then name else g.constant

/-- A parameter, and whether it is a lifetime; `blank` admits one without a name. -/
def parameter (blank : Bool) : Reader Bool := do
  g.attributes
  let ts ← ahead
  if hasLifetime ts then
    lifetimeParameter
    return true
  else if hasName ts then
    g.typeParameter
    return false
  else if hasWord "const" ts then
    g.constantParameter
    return false
  else
    demand (blank && hasWord "_" ts)
    anyWord
    return false

/-- The parameters of a generic item, lifetimes first; none are written if there are none.  Tells
whether there were angle brackets. -/
def parameters : Reader Bool := do
  if ← sees (hasMark "<") then
    let (n, pieces) ← captured (angledRow (g.parameter true))
    if n != 0 then writeAll pieces
    return true
  else return false

/-- Names that a bound or a function type is for. -/
def binder : Reader Unit := do
  word "for"
  mark "<"
  repeated do
    if ← sees (hasMark ">") then return false
    discard <| g.parameter false
    if ← sees (hasMark ">") then return false
    mark ","
    return true
  mark ">"

/-- Names that a bound is for, if there are any. -/
def binderIf : Reader Bool := optionally (hasWord "for") g.binder

/-! ## Bounds -/

/-- A result type after an arrow, if there is one. -/
def resultIf (plus : Bool) : Reader Unit := do
  if ← markIf "->" then discard <| g.innerType plus

/-- Parameter types in brackets, and a result type. -/
def signature : Reader Unit := do
  inside .round (separated "," do discard <| g.innerType true)
  g.resultIf false

/-- Names that a type may hold on to, lifetimes first. -/
def capture : Reader Unit := do
  word "use"
  discard <| angledRow do
    let ts ← ahead
    if hasLifetime ts then
      lifetime
      return true
    else
      treeWhere fun ts => hasName ts || hasWord "Self" ts
      return false

/-- A trait with what stands before it, and whether it is constant.  One that need not be met is
for no names. -/
def trait (constants : Bool) : Reader Bool := do
  let bindsNames ← g.binderIf
  let ts ← ahead
  let isConstant := hasGroup .square ts || hasWord "const" ts
  if hasGroup .square ts then inside .square (word "const")
  else if hasWord "const" ts then word "const"
  demand (constants || !isConstant)
  let isOptional ← markIf "?"
  demand (!(bindsNames && isOptional))
  let form ← g.plainPath false
  let ts ← ahead
  let afterColons := hasMark "::" ts && hasGroup .round (ts.drop 2)
  if hasGroup .round ts || afterColons then
    if let some n := form.hollow then
      unwrite n
      if afterColons then skip 2
      g.signature
  return isConstant

/-- A bound. -/
def bound (captures constants : Bool) : Reader BoundForm := do
  let ts ← ahead
  if hasLifetime ts then
    lifetime
    return .lifetime
  else if hasWord "use" ts then
    capture
    demand captures
    return .capture
  else
    let before ← get
    let isConstant ←
      if hasGroup .round ts then inside .round (g.trait constants) else g.trait constants
    if isConstant then
      writeVerbatim before
      return .constant
    else return .trait

/-- Bounds with plus signs between them, at most as many as the number; tells whether one of them
is a trait. -/
def boundsFrom (plus captures constants : Bool) : Nat → Bool → Reader Bool
  | 0, _ => failure
  | n + 1, found => do
    let form ← g.bound captures constants
    let found := found || form == .trait || form == .constant
    if plus && (← sees (hasMark "+")) then
      mark "+"
      let ts ← ahead
      if beginsBound ts || constants && hasGroup .square ts then
        boundsFrom plus captures constants n found
      else return found
    else return found

/-- Bounds, one of which has to be a trait; `plus` admits more than one. -/
def bounds (plus captures constants : Bool) : Reader Unit := do
  demand (← g.boundsFrom plus captures constants ((← ahead).length + 1) false)

/-! ## Clauses -/

/-- Whether clauses or the bounds of one end here. -/
def endsClause (ts : List Tree) : Bool :=
  ts.isEmpty || hasGroup .curly ts || hasOneMark [",", ";", "="] ts
    || hasMark ":" ts && !hasMark "::" ts

/-- What a lifetime or a type has to be. -/
def clause : Reader Unit := do
  let ts ← ahead
  if hasLifetime ts && hasMark ":" (ts.drop 1) then
    lifetime
    mark ":"
    lifetimeRow endsClause
  else
    discard <| g.binderIf
    discard <| g.innerType true
    mark ":"
    g.boundRow endsClause true

/-- Clauses, if there are any: written unless there is none after the word.  Tells whether there
was the word. -/
def clausesIf : Reader Bool := do
  if ← sees (hasWord "where") then
    skip 1
    let (_, pieces) ← captured <| repeated do
      if ← sees endsClause then return false
      g.clause
      markIf ","
    if !pieces.isEmpty then writeAll ("where" :: pieces)
    return true
  else return false

end WideColumn.Source.Grammar
