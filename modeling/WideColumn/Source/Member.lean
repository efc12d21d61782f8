/-
# Functions, constants and names for types

These may be defined on their own, and also as MEMBERS of a trait, of an implementation, or of a
block of foreign things.  The places differ in what may be left out.  A reader here tells what it
found; a definition that holds more or less than is usual in its place is written verbatim.
-/
import WideColumn.Source.Type
import WideColumn.Source.Pattern

namespace WideColumn.Source.Grammar

open Reader Ahead

variable (g : Grammar)

/-! ## Who may see a definition -/

/-- Whether what is in brackets says who may see a definition by a single word. -/
def isScope : List Tree → Bool
  | [.word w] => ["crate", "self", "super"].contains w
  | _ => false

/-- Who may see a definition, if that is said; tells whether it is. -/
def visibility : Reader Bool := do
  if ← wordIf "pub" then
    match ← ahead with
    | .group .round inner :: _ =>
      if isScope inner then group
      else if hasWord "in" inner then
        inside .round do
          word "in"
          bareSegments
    | _ => return true
    return true
  else return false

/-! ## Functions -/

/-- What a function is called on: changed or not, by reference or with a type. -/
def receiver : Reader Unit := do
  let isReference ← markIf "&"
  if isReference then discard <| optionally hasLifetime lifetime
  discard <| wordIf "mut"
  word "self"
  if !isReference then
    if ← markIf ":" then discard <| g.innerType true

/-- The end of a parameter that stands for any number of others. -/
def openEnd : Reader Unit := do
  mark "..."
  if !(← atEnd) then mark ","

/-- A parameter of a function; only the first one may be what the function is called on.  Tells
whether others may follow. -/
def functionParameter (first : Bool) : Reader Bool := do
  g.attributes
  let ts ← ahead
  if hasMark "..." ts then
    openEnd
    return false
  else if (← glimpse g.receiver).isSome then
    demand first
    g.receiver
    return true
  else if hasName ts && hasMark "<" (ts.drop 1) then
    writeAll ["_", ":"]
    discard <| g.innerType true
    return true
  else
    discard g.innerPattern
    mark ":"
    if ← sees (hasMark "...") then
      openEnd
      return false
    else
      discard <| g.innerType true
      return true

/-- The parameters of a function from one on, at most as many as the number. -/
def functionParameters (first : Bool) : Nat → Reader Unit
  | 0 => failure
  | n + 1 => do
    if !(← atEnd) then
      if ← g.functionParameter first then
        if !(← atEnd) then
          mark ","
          functionParameters false n

/-- The words before the name of a function.  `safe` admits that it is said to be safe; tells
whether it is. -/
def functionHead (safe : Bool) : Reader Bool := do
  discard <| wordIf "const"
  discard <| wordIf "async"
  let isUnsafe ← wordIf "unsafe"
  let isSafe ← if safe && !isUnsafe then wordIf "safe" else pure false
  conventionIf
  word "fn"
  return isSafe

/-- Everything of a function but its body; tells whether it is said to be safe. -/
def functionSignature (safe : Bool) : Reader Bool := do
  let isSafe ← functionHead safe
  name
  discard g.parameters
  inside .round do g.functionParameters true ((← ahead).length + 1)
  g.resultIf true
  discard g.clausesIf
  return isSafe

/-- Whether a function begins here. -/
def beginsFunction (safe : Bool) : Reader Bool := do return (← glimpse (functionHead safe)).isSome

/-- The body of a function or a semicolon; tells whether there is a body. -/
def bodyOrNot : Reader Bool := do
  if ← markIf ";" then return false
  else
    g.attributedBlock
    return true

/-! ## Constants and names for types -/

/-- What a definition says beyond its name. -/
structure Extent where
  /-- It has a value, or a type that it stands for. -/
  hasValue : Bool
  /-- It has parameters or clauses. -/
  isGeneric : Bool
  /-- It has bounds. -/
  isBounded : Bool

/-- A constant. -/
def constantDefinition : Reader Extent := do
  word "const"
  treeWhere fun ts => hasName ts || hasWord "_" ts
  let hasParameters ← g.parameters
  mark ":"
  discard <| g.innerType true
  let hasValue ← optionally (hasMark "=") do
    mark "="
    discard <| g.innerExpression true
  let hasClauses ← g.clausesIf
  mark ";"
  return ⟨hasValue, hasParameters || hasClauses, false⟩

/-- A name for a type.  Clauses may stand before the type, after it, or at either place. -/
def typeDefinition (clausesBefore clausesAfter : Bool) : Reader Extent := do
  word "type"
  name
  let hasParameters ← g.parameters
  let isBounded ← sees (hasMark ":")
  boundsIf (g.boundRow (fun ts => hasWord "where" ts || hasOneMark ["=", ";"] ts) true)
  let hasClauses ← if clausesBefore then g.clausesIf else pure false
  let hasValue ← optionally (hasMark "=") do
    mark "="
    discard <| g.innerType true
  let hasClausesAfter ← if clausesAfter && !hasClauses then g.clausesIf else pure false
  mark ";"
  return ⟨hasValue, hasParameters || hasClauses || hasClausesAfter, isBounded⟩

/-- A call of something that makes definitions.  `named` admits a name before its brackets. -/
def definingCall (named : Bool) : Reader Unit := do
  bareSegments
  mark "!"
  if named then discard <| optionally (fun ts => hasName ts || hasWord "try" ts) anyWord
  let isCurly ← sees (hasGroup .curly)
  group
  if !isCurly then mark ";"

/-! ## Members -/

/-- Reads a member with its attributes, and writes it verbatim if the reader says so. -/
def unlessUsual (member : Reader Bool) : Reader Unit := do
  let before ← get
  g.attributes
  if ← member then writeVerbatim before

/-- A member of a trait. -/
def traitMember : Reader Unit :=
  g.unlessUsual do
    let isVisible ← visibility
    let isDefault ← wordIf "default"
    let ts ← ahead
    if ← beginsFunction false then
      discard <| g.functionSignature false
      discard g.bodyOrNot
      return isVisible || isDefault
    else if hasWord "const" ts then
      let extent ← g.constantDefinition
      return isVisible || isDefault || extent.isGeneric
    else if hasWord "type" ts then
      discard <| g.typeDefinition false true
      return isVisible || isDefault
    else
      demand !(isVisible || isDefault)
      definingCall false
      return false

/-- A member of an implementation. -/
def implementationMember : Reader Unit :=
  g.unlessUsual do
    let isVisible ← visibility
    let ts ← ahead
    let isDefault ← if hasMark "!" (ts.drop 1) then pure false else wordIf "default"
    let ts ← ahead
    if ← beginsFunction false then
      discard <| g.functionSignature false
      return !(← g.bodyOrNot)
    else if hasWord "const" ts then
      let extent ← g.constantDefinition
      return !extent.hasValue || extent.isGeneric
    else if hasWord "type" ts then
      let extent ← g.typeDefinition false true
      return !extent.hasValue || extent.isBounded
    else
      demand !(isVisible || isDefault)
      definingCall false
      return false

/-- A variable that is foreign; tells whether it is said to be safe or unsafe, or has a value. -/
def foreignVariable : Reader Bool := do
  let isRated ← optionally (hasOneOf ["unsafe", "safe"]) anyWord
  word "static"
  discard <| wordIf "mut"
  name
  mark ":"
  discard <| g.innerType true
  let hasValue ← optionally (hasMark "=") do
    mark "="
    discard <| g.innerExpression true
  mark ";"
  return isRated || hasValue

/-- A member of a block of foreign things. -/
def foreignMember : Reader Unit :=
  g.unlessUsual do
    let isVisible ← visibility
    let ts ← ahead
    if ← beginsFunction true then
      let isSafe ← g.functionSignature true
      let hasBody ← g.bodyOrNot
      return isSafe || hasBody
    else if hasWord "static" ts
        || hasOneOf ["unsafe", "safe"] ts && hasWord "static" (ts.drop 1) then g.foreignVariable
    else if hasWord "type" ts then
      let extent ← g.typeDefinition true true
      return extent.hasValue || extent.isBounded
    else
      demand !isVisible
      definingCall false
      return false

/-- Members in curly brackets. -/
def members (member : Reader Unit) : Reader Unit :=
  inside .curly do
    g.innerAttributes
    repeated do
      if ← atEnd then return false
      member
      return true

end WideColumn.Source.Grammar
