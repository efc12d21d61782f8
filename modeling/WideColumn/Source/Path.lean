/-
# Attributes and paths

An attribute decorates what it stands before, or what it stands in.  A path names an item by its
segments; a segment may have generic arguments, and a path may begin at a type in angle brackets.
In expressions arguments need a double colon before them.
-/
import WideColumn.Source.Grammar

namespace WideColumn.Source.Grammar

open Reader Ahead

variable (g : Grammar)

/-! ## Attributes -/

/-- The words a path may begin with although they are reserved. -/
def roots : List String := ["super", "self", "Self", "crate"]

/-- Whether a path can begin with a word here. -/
def beginsPath (ts : List Tree) : Bool := hasName ts || hasOneOf roots ts

/-- A path without arguments. -/
def bareSegments : Reader Unit := do
  discard <| markIf "::"
  treeWhere beginsPath
  repeated do
    if ← markIf "::" then
      treeWhere beginsPath
      return true
    else return false

/-- The value of an attribute. -/
def attributeValue : Reader Unit := do
  let ts ← ahead
  if hasMark "#" ts && hasGroup .square (ts.drop 1) then failure
  else discard <| g.innerExpression true

/-- What an attribute says. -/
def attributeText : Reader Unit := do
  if !(← wordIf "unsafe") then bareSegments
  let ts ← ahead
  if hasAnyGroup ts then group
  else if hasMark "=" ts && !hasOneMark ["==", "=>"] ts then
    mark "="
    g.attributeValue

/-- Attributes of what follows. -/
def attributes : Reader Unit :=
  repeated do
    if ← markIf "#" then
      inside .square g.attributeText
      return true
    else return false

/-- Attributes of what they stand in. -/
def innerAttributes : Reader Unit :=
  repeated do
    let ts ← ahead
    if hasMark "#" ts && hasMark "!" (ts.drop 1) then
      mark "#"
      mark "!"
      inside .square g.attributeText
      return true
    else return false

/-- A block. -/
def block : Reader Unit := inside .curly g.innerStatements

/-- A block that may begin with attributes of its own. -/
def attributedBlock : Reader Unit :=
  inside .curly do
    g.innerAttributes
    g.innerStatements

/-! ## Generic arguments -/

/-- An argument: its pieces, whether it is a lifetime, and whether a comma follows it. -/
structure Argument where
  pieces : List String
  isLifetime : Bool
  comma : Bool

/-- Arguments in the order in which they are written out; `open` tells that the last one had no
comma after it. -/
def argumentPieces : Bool → List Argument → List String
  | _, [] => []
  | isOpen, a :: as =>
    (if isOpen && !a.isLifetime then [","] else []) ++ a.pieces
      ++ (if a.comma then [","] else []) ++ argumentPieces (!a.comma) as

/-- Arguments, lifetimes first. -/
def arrange (as : List Argument) : List String :=
  argumentPieces false (as.filter (·.isLifetime) ++ as.filter (!·.isLifetime))

/-- Arguments up to a closing angle bracket, at most as many as the number; each is read by a
reader that tells whether it is a lifetime. -/
def argumentRow (item : Reader Bool) : Nat → Reader (List Argument)
  | 0 => failure
  | n + 1 => do
    if ← sees (hasMark ">") then return []
    let (isLifetime, pieces) ← captured item
    if ← sees (hasMark ">") then return [⟨pieces, isLifetime, false⟩]
    discard <| captured (mark ",")
    return ⟨pieces, isLifetime, true⟩ :: (← argumentRow item n)

/-- A row of arguments in angle brackets, written lifetimes first; gives their number. -/
def angledRow (item : Reader Bool) : Reader Nat := do
  mark "<"
  let as ← argumentRow item ((← ahead).length + 1)
  writeAll (arrange as)
  mark ">"
  return as.length

/-- A constant among arguments: a literal or a block. -/
def constant : Reader Unit := do
  if ← sees hasLiteral then Reader.literal else g.attributedBlock

/-- Whether a constant is next. -/
def beginsConstant (ts : List Tree) : Bool := hasLiteral ts || hasGroup .curly ts

/-- Bounds with plus signs between them, up to where none is wanted any more; the last one may
have a plus sign after it. -/
def boundRow (ends : List Tree → Bool) (constants : Bool) : Reader Unit :=
  repeated do
    if ← sees ends then return false
    discard <| g.innerBound false constants
    markIf "+"

/-- A generic argument, and whether it is a lifetime.  A single name may be given a value or
bounds. -/
def argument : Reader Bool := do
  let ts ← ahead
  if hasLifetime ts && !hasMark "+" (ts.drop 1) then
    lifetime
    return true
  else if beginsConstant ts then
    g.constant
    return false
  else
    match ← g.innerType true with
    | .name =>
      if ← markIf "=" then
        if ← sees beginsConstant then g.constant else discard <| g.innerType true
      else if ← markIf ":" then g.boundRow (hasOneMark [",", ">"]) true
      return false
    | _ => return false

/-- Generic arguments with the double colon that may stand before them; gives their number. -/
def arguments : Reader Nat := do
  discard <| markIf "::"
  angledRow g.argument

/-! ## Paths -/

/-- What is known of a path that has been read. -/
structure PathForm where
  /-- It begins at a type in angle brackets. -/
  qualified : Bool
  /-- It has one segment and no double colon before it. -/
  single : Bool
  /-- No segment has arguments. -/
  bare : Bool
  /-- How many pieces the arguments of the last segment take, if there is none among them. -/
  hollow : Option Nat

/-- A segment of a path, and how many pieces its arguments take: none at all if it has none, and
nothing if one is among them. -/
def segment (colons : Bool) : Reader (Bool × Option Nat) := do
  if ← sees (hasOneOf ["super", "self", "crate", "try"]) then
    anyWord
    return (true, some 0)
  else
    if ← sees (hasWord "Self") then anyWord else name
    let ts ← ahead
    let afterColons := hasMark "::" ts && hasMark "<" (ts.drop 2)
    if !colons && hasMark "<" ts && !hasOneMark ["<=", "<<="] ts || afterColons then
      let n ← g.arguments
      return (false, if n == 0 then some (if afterColons then 3 else 2) else Option.none)
    else return (true, some 0)

/-- The other segments of a path, at most as many as the number. -/
def segments (colons : Bool) (more : List Tree → Bool) : Nat → PathForm → Reader PathForm
  | 0, _ => failure
  | n + 1, form => do
    if ← sees more then
      mark "::"
      let (bare, hollow) ← g.segment colons
      segments colons more n { form with
        single := false, bare := form.bare && bare, hollow := hollow }
    else return form

/-- Whether another segment follows, and not a parameter list. -/
def hasSegment (ts : List Tree) : Bool := hasMark "::" ts && !hasGroup .round (ts.drop 2)

/-- A path that does not begin at a type. -/
def plainPath (colons : Bool) : Reader PathForm := do
  let rooted ← markIf "::"
  let (bare, hollow) ← g.segment colons
  g.segments colons hasSegment ((← ahead).length + 1) ⟨false, !rooted, bare, hollow⟩

/-- A path. -/
def path (colons : Bool) : Reader PathForm := do
  if ← markIf "<" then
    discard <| g.innerType true
    if ← wordIf "as" then discard <| g.plainPath false
    mark ">"
    mark "::"
    let (bare, hollow) ← g.segment colons
    g.segments colons (hasMark "::") ((← ahead).length + 1) ⟨true, false, bare, hollow⟩
  else g.plainPath colons

/-- The rest of a call of something that makes source, if the path before it was one: whether it
was, and whether its brackets are curly. -/
def invocation? (form : PathForm) : Reader (Option Bool) := do
  let ts ← ahead
  if !form.qualified && form.bare && hasMark "!" ts && !hasMark "!=" ts then
    mark "!"
    let curly ← sees (hasGroup .curly)
    group
    return some curly
  else return Option.none

end WideColumn.Source.Grammar
