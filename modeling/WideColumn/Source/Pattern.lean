/-
# Patterns in source

A pattern is what a value is compared with: a name, a constant, a range, or something made of
other patterns.  A choice between patterns stands wherever brackets or a keyword show its end.
-/
import WideColumn.Source.Generic

namespace WideColumn.Source.Grammar

open Reader Ahead

variable (g : Grammar)

/-! ## Members and ranges -/

/-- The name of a field, or its place as a number; tells whether it is a name. -/
def member : Reader Bool := do
  match ← ahead with
  | .literal s :: _ =>
    match Literal.place? s with
    | some n =>
      skip 1
      write (toString n)
      return false
    | Option.none => failure
  | _ =>
    name
    return true

/-- The dots of a range; tells whether its end has to follow.  Three dots are an old spelling that
`old` admits. -/
def rangeDots (old : Bool) : Reader Bool := do
  let ts ← ahead
  if hasMark "..." ts then
    demand old
    skip 3
    write "..="
    return true
  else if ← markIf "..=" then return true
  else
    mark ".."
    return false

/-- Whether a path of an expression begins here. -/
def beginsValuePath (ts : List Tree) : Bool := beginsPath ts || hasOneMark ["::", "<"] ts

/-- Whether a pattern ends here before the end of a range. -/
def endsRange (ts : List Tree) : Bool :=
  ts.isEmpty || hasOneMark ["|", "=", ",", ";"] ts || hasMark ":" ts && !hasMark "::" ts
    || hasWord "if" ts

/-- An end of a range. -/
def rangeBound : Reader Unit := do
  let ts ← ahead
  if hasLiteral ts then Reader.literal
  else if beginsValuePath ts then discard <| g.path true
  else
    word "const"
    g.attributedBlock

/-- The dots of a range and its end; tells whether there is no end. -/
def rangeRest (old : Bool) : Reader Bool := do
  let isClosed ← rangeDots old
  if ← sees endsRange then
    demand !isClosed
    return true
  else
    g.rangeBound
    return false

/-! ## Patterns made of others -/

/-- Whether another pattern of a choice follows. -/
def hasAlternative (ts : List Tree) : Bool := hasMark "|" ts && !hasOneMark ["||", "|="] ts

/-- A pattern or a choice between patterns; tells whether it is a range with one end. -/
def choice : Reader Bool := do
  let isMarked ← markIf "|"
  let isHalfOpen ← g.innerPattern
  let isChoice ← sees hasAlternative
  repeated do
    if ← sees hasAlternative then
      mark "|"
      discard g.innerPattern
      return true
    else return false
  return isHalfOpen && !isMarked && !isChoice

/-- Patterns in round brackets. -/
def tuplePattern : Reader Unit :=
  inside .round (separated "," do discard g.choice)

/-- Patterns in square brackets, none of them a range with one end. -/
def slicePattern : Reader Unit :=
  inside .square <| separated "," do demand !(← g.choice)

/-- A field in a pattern.  It may be named only, with what is to be done with its value. -/
def fieldPattern : Reader Unit := do
  let isBoxed ← wordIf "box"
  let isBorrowed ← wordIf "ref"
  let isMutable ← wordIf "mut"
  if isBoxed || isBorrowed || isMutable then name
  else
    let isNamed ← member
    if !isNamed || (← sees (hasMark ":")) then
      mark ":"
      discard g.choice

/-- Fields in curly brackets; dots stand for the others. -/
def structPattern : Reader Unit :=
  inside .curly <| repeated do
    if ← atEnd then return false
    g.attributes
    if ← markIf ".." then return false
    g.fieldPattern
    if ← atEnd then return false
    mark ","
    return true

/-- A pattern that begins with a path; tells whether it is a range with one end. -/
def pathPattern : Reader Bool := do
  let form ← g.path true
  if (← invocation? form).isSome then return false
  let ts ← ahead
  if hasGroup .curly ts then
    g.structPattern
    return false
  else if hasGroup .round ts then
    g.tuplePattern
    return false
  else if hasMark ".." ts then g.rangeRest true
  else return false

/-- A name for a value, and a pattern that the value has to match. -/
def namePattern : Reader Unit := do
  discard <| wordIf "ref"
  discard <| wordIf "mut"
  if ← sees (hasWord "self") then anyWord else name
  if ← markIf "@" then discard g.innerPattern

/-! ## Patterns -/

/-- Whether a pattern begins with a path here, and is more than a name. -/
def beginsPathPattern (ts : List Tree) : Bool :=
  let rest := ts.drop 1
  hasName ts
      && (hasOneMark ["::", "!", ".."] rest || hasGroup .curly rest || hasGroup .round rest)
    || hasWord "self" ts && hasMark "::" rest || hasOneMark ["::", "<"] ts
    || hasOneOf ["Self", "super", "crate"] ts

/-- A pattern that is no choice between others; tells whether it is a range with one end. -/
def pattern : Reader Bool := do
  let ts ← ahead
  if beginsPathPattern ts then g.pathPattern
  else if hasLiteral ts || hasWord "const" ts then
    g.rangeBound
    if ← sees (hasMark "..") then g.rangeRest true else return false
  else if hasMark ".." ts then return !(← g.rangeRest false)
  else
    if hasWord "_" ts then anyWord
    else if hasWord "box" ts then
      verbatim do
        anyWord
        discard g.innerPattern
    else if hasOneOf ["ref", "mut", "self"] ts || hasName ts then g.namePattern
    else if hasGroup .round ts then g.tuplePattern
    else if hasGroup .square ts then g.slicePattern
    else
      mark "&"
      discard <| wordIf "mut"
      discard g.innerPattern
    return false

end WideColumn.Source.Grammar
