/-
# Definitions in source

What may be defined inside a block or a module.  Attributes and who may see the definition come
first.  A definition that the grammar admits but that means nothing of its own is written
verbatim.
-/
import WideColumn.Source.Member

namespace WideColumn.Source.Grammar

open Reader Ahead

variable (g : Grammar)

/-! ## Types with parts -/

/-- A part of a type without a name. -/
def unnamedPart : Reader Unit := do
  g.attributes
  discard visibility
  discard <| g.innerType true

/-- A part of a type with its name. -/
def namedPart : Reader Unit := do
  g.attributes
  discard visibility
  treeWhere fun ts => hasName ts || hasWord "_" ts
  mark ":"
  discard <| g.innerType true

/-- Parts in round brackets. -/
def unnamedParts : Reader Unit := inside .round (separated "," g.unnamedPart)

/-- Parts in curly brackets. -/
def namedParts : Reader Unit := inside .curly (separated "," g.namedPart)

/-- A name with parameters, after the word that tells what it names. -/
def namedHead (w : String) : Reader Unit := do
  word w
  name
  discard g.parameters

/-- A structure. -/
def structDefinition : Reader Unit := do
  g.namedHead "struct"
  let hasClauses ← g.clausesIf
  let ts ← ahead
  if hasGroup .curly ts then g.namedParts
  else
    if !hasClauses && hasGroup .round ts then
      g.unnamedParts
      discard g.clausesIf
    mark ";"

/-- A case of an enumeration; who may see it is not written. -/
def enumerationCase : Reader Unit := do
  g.attributes
  discard <| captured visibility
  name
  let ts ← ahead
  if hasGroup .curly ts then g.namedParts
  else if hasGroup .round ts then g.unnamedParts
  if ← markIf "=" then discard <| g.innerExpression true

/-- An enumeration. -/
def enumDefinition : Reader Unit := do
  g.namedHead "enum"
  discard g.clausesIf
  inside .curly (separated "," g.enumerationCase)

/-- Parts that share their place. -/
def unionDefinition : Reader Unit := do
  g.namedHead "union"
  discard g.clausesIf
  g.namedParts

/-! ## Traits and implementations -/

/-- A trait, or another name for bounds. -/
def traitDefinition : Reader Unit := do
  let isPlain ← sees (hasWord "trait")
  discard <| wordIf "unsafe"
  discard <| wordIf "auto"
  g.namedHead "trait"
  if isPlain && (← markIf "=") then
    g.boundRow (fun ts => hasWord "where" ts || hasMark ";" ts) false
    discard g.clausesIf
    mark ";"
  else
    boundsIf (g.boundRow (fun ts => hasWord "where" ts || hasGroup .curly ts) true)
    discard g.clausesIf
    g.members g.traitMember

/-- Whether parameters begin here, and not a path that begins at a type. -/
def beginsParameters (ts : List Tree) : Bool :=
  let first := ts.drop 1
  let second := ts.drop 2
  hasMark "<" ts
    && (hasOneMark [">", "#"] first || hasWord "const" first
      || (hasLifetime first || hasName first)
        && (hasOneMark [">", ",", "="] second || hasMark ":" second && !hasMark "::" second))

/-- The trait and the type of an implementation, or its type alone; tells whether they are more
than a path and a type.  Only a trait can be denied. -/
def implementationTypes (denied : Bool) : Reader Bool := do
  let form ← g.innerType true
  if ← wordIf "for" then
    discard <| g.innerType true
    match form with
    | .name | .path => return false
    | _ => return true
  else return denied

/-- An implementation; tells whether it is to be written verbatim. -/
def implementation : Reader Bool := do
  discard <| wordIf "default"
  discard <| wordIf "unsafe"
  word "impl"
  if ← sees beginsParameters then discard g.parameters
  let ts ← ahead
  let isConstant := hasWord "const" ts || hasMark "?" ts && hasWord "const" (ts.drop 1)
  if isConstant then
    discard <| markIf "?"
    word "const"
  let ts ← ahead
  let isDenied := hasMark "!" ts && !hasGroup .curly (ts.drop 1)
  if isDenied then mark "!"
  let isUnusual ← g.implementationTypes isDenied
  discard g.clausesIf
  g.members g.implementationMember
  return isConstant || isUnusual

/-! ## Names from elsewhere -/

/-- What is used of a module: a name, a name with another one for it, everything, or several of
these.  `fromRoot` admits the double colon of the root; the number bounds the depth. -/
def used : Nat → (fromRoot : Bool) → Reader Unit
  | 0, _ => failure
  | n + 1, fromRoot => do
    let ts ← ahead
    if ← markIf "*" then return ()
    else if hasGroup .curly ts then
      inside .curly <| separated "," do
        let isRooted ← if fromRoot then markIf "::" else pure false
        used n (fromRoot && !isRooted)
    else
      treeWhere fun ts => hasName ts || hasOneOf ["self", "super", "crate", "try"] ts
      if ← markIf "::" then used n false
      else if ← wordIf "as" then treeWhere fun ts => hasName ts || hasWord "_" ts

/-- What is used of other modules.  It is nested no deeper than its text is long. -/
def use : Reader Unit := do
  let depth := (Tree.rowText (← ahead)).length
  word "use"
  let isRooted ← markIf "::"
  used depth !isRooted
  mark ";"

/-- A whole library that is used. -/
def library : Reader Unit := do
  word "extern"
  word "crate"
  if ← sees (hasWord "self") then anyWord else name
  if ← wordIf "as" then treeWhere fun ts => hasName ts || hasWord "_" ts
  mark ";"

/-- A block of foreign things. -/
def foreignBlock : Reader Unit := do
  discard <| wordIf "unsafe"
  conventionIf
  g.members g.foreignMember

/-- A module. -/
def moduleDefinition : Reader Unit := do
  discard <| wordIf "unsafe"
  word "mod"
  if ← sees (hasWord "try") then anyWord else name
  if !(← markIf ";") then g.members g.innerDefinition

/-! ## Definitions -/

/-- A variable; tells whether its type or its value is left out. -/
def variableDefinition : Reader Bool := do
  word "static"
  discard <| wordIf "mut"
  name
  let hasType ← optionally (!hasMark "=" ·) do
    mark ":"
    discard <| g.innerType true
  let hasValue ← optionally (fun ts => !hasType || !hasMark ";" ts) do
    mark "="
    discard <| g.innerExpression true
  mark ";"
  return !(hasType && hasValue)

/-- Something that makes source, given by rules. -/
def ruled : Reader Unit := do
  word "macro"
  name
  discard <| optionally (hasGroup .round) tree
  treeWhere (hasGroup .curly)

/-- Whether a block of foreign things begins here. -/
def beginsForeignBlock (ts : List Tree) : Bool :=
  hasWord "extern" ts
      && (hasGroup .curly (ts.drop 1) || hasText (ts.drop 1) && hasGroup .curly (ts.drop 2))
    || hasWord "unsafe" ts && hasWord "extern" (ts.drop 1)

/-- Whether a trait begins here. -/
def beginsTrait (ts : List Tree) : Bool :=
  let ts := if hasWord "unsafe" ts then ts.drop 1 else ts
  hasWord "trait" ts || hasWord "auto" ts && hasWord "trait" (ts.drop 1)

/-- A definition without attributes; tells whether it is to be written verbatim. -/
def definitionBody : Reader Bool := do
  let isVisible ← visibility
  let ts ← ahead
  let next := ts.drop 1
  if ← beginsFunction false then
    discard <| g.functionSignature false
    return !(← g.bodyOrNot)
  else if hasWord "extern" ts && hasWord "crate" next then
    library
    return false
  else if beginsForeignBlock ts then
    demand !isVisible
    g.foreignBlock
    return false
  else if hasWord "use" ts then
    use
    return false
  else if hasWord "static" ts then g.variableDefinition
  else if hasWord "const" ts then
    let extent ← g.constantDefinition
    return !extent.hasValue || extent.isGeneric
  else if beginsTrait ts then
    g.traitDefinition
    return false
  else if hasWord "mod" ts || hasWord "unsafe" ts && hasWord "mod" next then
    g.moduleDefinition
    return false
  else if hasWord "type" ts then
    let extent ← g.typeDefinition true false
    return !extent.hasValue || extent.isBounded
  else if hasWord "struct" ts then
    g.structDefinition
    return false
  else if hasWord "enum" ts then
    g.enumDefinition
    return false
  else if hasWord "union" ts && hasName next then
    g.unionDefinition
    return false
  else if hasWord "impl" ts || hasWord "unsafe" ts && hasWord "impl" next
      || hasWord "default" ts && !hasMark "!" next then
    let isUnusual ← g.implementation
    return isVisible || isUnusual
  else if hasWord "macro" ts then
    ruled
    return true
  else
    demand !isVisible
    definingCall true
    return false

/-- A definition. -/
def definition : Reader Unit := g.unlessUsual g.definitionBody

/-- Whether a variable begins here, and not a function without a name. -/
def beginsVariable (ts : List Tree) : Bool :=
  let next := ts.drop 1
  hasWord "static" ts
    && (hasWord "mut" next || hasName next
      && !(hasWord "async" next && (hasWord "move" (ts.drop 2) || hasMark "|" (ts.drop 2))))

/-- Whether a constant or a function begins with the word for constants here. -/
def beginsConstantDefinition (ts : List Tree) : Bool :=
  let next := ts.drop 1
  hasWord "const" ts
    && !(hasGroup .curly next || hasOneOf ["static", "move"] next || hasMark "|" next
      || hasWord "async" next && !hasOneOf ["unsafe", "extern", "fn"] (ts.drop 2))

/-- Whether a definition begins at a word here. -/
def beginsDefinition (ts : List Tree) : Bool :=
  let next := ts.drop 1
  hasOneOf ["pub", "extern", "use", "fn", "mod", "type", "struct", "enum", "trait", "impl",
      "macro"] ts
    || hasWord "crate" ts && !hasMark "::" next
    || beginsVariable ts || beginsConstantDefinition ts
    || hasWord "unsafe" ts && !hasGroup .curly next
    || hasWord "async" ts && hasOneOf ["unsafe", "extern", "fn"] next
    || hasWord "union" ts && hasName next
    || hasWord "auto" ts && hasWord "trait" next
    || hasWord "default" ts && hasOneOf ["unsafe", "impl"] next

end WideColumn.Source.Grammar
