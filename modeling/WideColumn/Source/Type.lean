/-
# Types in source

A type is a path, a tuple, a slice or an array, a pointer or a reference, a function, a row of
bounds, or a call that makes a type.  Round brackets may stand around a type, and around a bound:
which of the two they were is known only when a plus sign follows.
-/
import WideColumn.Source.Generic

namespace WideColumn.Source.Grammar

open Reader Ahead

variable (g : Grammar)

/-! ## Functions -/

/-- Whether a parameter is next that stands for any number of others. -/
def isOpenEnded (ts : List Tree) : Bool :=
  hasMark "..." ts
    || (hasName ts || hasWord "_" ts) && hasMark ":" (ts.drop 1) && hasMark "..." (ts.drop 2)

/-- The parameter of a function type that stands for any number of others. -/
def openEnded : Reader Unit := do
  if !(← sees (hasMark "...")) then
    anyWord
    mark ":"
  mark "..."
  discard <| markIf ","

/-- Whether what a function is called on is next, and may be changed. -/
def hasChangingSelf (ts : List Tree) : Bool := hasWord "mut" ts && hasWord "self" (ts.drop 1)

/-- A parameter of a function type.  The first one may be what the function is called on, and is
written verbatim if it may be changed. -/
def functionTypeParameter (first : Bool) : Reader Unit := do
  let before ← get
  let changes := first && hasChangingSelf before.trees
  if changes then word "mut"
  let ts ← ahead
  let isNamed := (hasName ts || hasWord "_" ts || first && hasWord "self" ts)
    && hasMark ":" (ts.drop 1) && !hasMark "::" (ts.drop 1)
  if isNamed then
    anyWord
    mark ":"
  let changesAfterName := first && !hasWord "self" ts && (← sees hasChangingSelf)
  if changesAfterName then
    word "mut"
    word "self"
  else if changes && !isNamed then word "self"
  else discard <| g.innerType true
  if changes || changesAfterName then writeVerbatim before

/-- The parameters of a function type from one on, at most as many as the number. -/
def functionTypeParameters (first : Bool) : Nat → Reader Unit
  | 0 => failure
  | n + 1 => do
    if ← atEnd then return ()
    g.attributes
    if ← sees isOpenEnded then openEnded
    else
      g.functionTypeParameter first
      if !(← atEnd) then
        mark ","
        functionTypeParameters false n

/-- The word of a calling convention and its name, if there is the word. -/
def conventionIf : Reader Unit := do
  if ← wordIf "extern" then discard <| optionally hasText tree

/-- A function type. -/
def functionType : Reader Unit := do
  discard <| wordIf "unsafe"
  conventionIf
  word "fn"
  inside .round do g.functionTypeParameters true ((← ahead).length + 1)
  g.resultIf false

/-! ## Rows of bounds -/

/-- Other bounds after a first one. -/
def moreBounds : Reader Unit :=
  repeated do
    if ← markIf "+" then
      discard <| g.bound false false
      return true
    else return false

/-- Other bounds after a first one; a plus sign may follow the last. -/
def moreBoundsOrPlus : Reader Unit :=
  repeated do
    if ← markIf "+" then optionally beginsBound do discard <| g.bound false false
    else return false

/-- What stands in round brackets; a path alone may be a bound. -/
def enclosed : Reader TypeForm := do
  let ts ← ahead
  if ts.isEmpty then return .other
  else if hasLifetime ts then
    g.bounds true false false
    return .other
  else if hasMark "?" ts then
    let (_, pieces) ← captured (g.trait false)
    writeAll pieces
    return .bound pieces
  else
    let (form, pieces) ← captured (g.innerType true)
    writeAll pieces
    if ← markIf "," then
      separated "," do discard <| g.innerType true
      return .other
    else
      match form with
      | .name | .path => return .bound pieces
      | form => return form

/-- A type that begins with round brackets: a tuple, a type in brackets, or bounds the first of
which is in brackets. -/
def enclosedType (plus : Bool) : Reader TypeForm := do
  let before ← get
  let isOptional := match before.trees with
    | .group _ inner :: _ => hasMark "?" inner
    | _ => false
  let form ← inside .round g.enclosed
  let several ← sees (hasMark "+")
  match form with
  | .bound pieces =>
    if isOptional || plus && several then
      modify fun p => { p with written := before.written }
      writeAll (Bracket.round.opening :: pieces ++ [Bracket.round.closing])
      g.moreBounds
      return if several then .other else .bound pieces
    else return .other
  | _ => return .other

/-- A type that begins with a path: the path, a call, or bounds.  `names` are the pieces of what
the type is for; a call is for no names. -/
def pathType (plus : Bool) (names : List String) : Reader TypeForm := do
  let ((form, call), pieces) ← captured do
    let form ← g.path false
    return (form, ← invocation? form)
  if call.isSome then
    writeAll pieces
    return .other
  else
    writeAll (names ++ pieces)
    if form.qualified then return .other
    else if plus && (← sees (hasMark "+")) then
      g.moreBoundsOrPlus
      return .other
    else if !names.isEmpty then return .bound (names ++ pieces)
    else return if form.single then .name else .path

/-! ## Types -/

/-- Whether a function type begins here. -/
def beginsFunctionType (ts : List Tree) : Bool := hasOneOf ["fn", "unsafe", "extern"] ts

/-- Whether a type that begins with a path begins here. -/
def beginsPathType (ts : List Tree) : Bool := beginsPath ts || hasOneMark ["::", "<"] ts

/-- A type that is for some names; it is a function or begins with a word. -/
def boundType (plus : Bool) : Reader TypeForm := do
  let (_, names) ← captured g.binder
  if ← sees beginsFunctionType then
    writeAll names
    g.functionType
    return .other
  else
    demand (← sees beginsPath)
    g.pathType plus names

/-- Bounds after the word that announces them; they are written verbatim if a star follows it. -/
def dynamicType (plus : Bool) : Reader Unit := do
  let before ← get
  word "dyn"
  let hasStar ← markIf "*"
  g.bounds plus false false
  if hasStar then writeVerbatim before

/-- A slice or an array. -/
def sliceType : Reader Unit :=
  inside .square do
    discard <| g.innerType true
    if ← markIf ";" then discard <| g.innerExpression true

/-- A pointer. -/
def pointerType : Reader Unit := do
  mark "*"
  treeWhere (hasOneOf ["const", "mut"])
  discard <| g.innerType false

/-- A reference. -/
def referenceType : Reader Unit := do
  mark "&"
  discard <| optionally hasLifetime lifetime
  discard <| wordIf "mut"
  discard <| g.innerType false

/-- A type that begins with neither a path, nor round brackets, nor names that it is for. -/
def plainType (plus : Bool) : Reader Unit := do
  let ts ← ahead
  if beginsFunctionType ts then g.functionType
  else if hasWord "dyn" ts then g.dynamicType plus
  else if hasGroup .square ts then g.sliceType
  else if hasMark "*" ts then g.pointerType
  else if hasMark "&" ts then g.referenceType
  else if hasMark "!" ts then mark "!"
  else if hasWord "impl" ts then
    word "impl"
    g.bounds plus true true
  else if hasLifetime ts then g.bounds true false false
  else word "_"

/-- A type; `plus` admits several bounds without brackets around them. -/
def type (plus : Bool) : Reader TypeForm := do
  let ts ← ahead
  if hasWord "for" ts then g.boundType plus
  else if hasGroup .round ts then g.enclosedType plus
  else if beginsPathType ts then g.pathType plus []
  else
    g.plainType plus
    return .other

end WideColumn.Source.Grammar
