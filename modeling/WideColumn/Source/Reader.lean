/-
# Readers of source

A READER takes trees from the front of a row and writes out what it has taken, piece by piece; it
fails where the row is not what it reads.  Most readers write what they take as it stands.  A few
move pieces, and some write a whole stretch VERBATIM: with the spaces of the text it comes from.

What lies ahead is asked by plain functions on rows, so that a choice between readers is made
before anything is taken.
-/
import WideColumn.Source.Tree

namespace WideColumn.Source

/-! ## What lies ahead -/

namespace Ahead

/-- Whether a given word is next. -/
def hasWord (w : String) : List Tree → Bool
  | .word v :: _ => v == w
  | _ => false

/-- Whether one of several words is next. -/
def hasOneOf (ws : List String) : List Tree → Bool
  | .word v :: _ => ws.contains v
  | _ => false

/-- Whether any word is next. -/
def hasAnyWord : List Tree → Bool
  | .word _ :: _ => true
  | _ => false

/-- Whether a word that is not reserved is next. -/
def hasName : List Tree → Bool
  | .word v :: _ => Word.isName v
  | _ => false

/-- Whether a lifetime is next. -/
def hasLifetime : List Tree → Bool
  | .lifetime _ :: _ => true
  | _ => false

/-- Whether a literal is next: a truth value counts, and so does a number with its sign. -/
def hasLiteral : List Tree → Bool
  | .literal _ :: _ => true
  | .word v :: _ => v == "true" || v == "false"
  | .mark '-' _ :: .literal s :: _ => Literal.isNumber s
  | _ => false

/-- Whether a text is next. -/
def hasText : List Tree → Bool
  | .literal s :: _ => Literal.isText s
  | _ => false

/-- Whether a group in given brackets is next. -/
def hasGroup (b : Bracket) : List Tree → Bool
  | .group c _ :: _ => b == c
  | _ => false

/-- Whether any group is next. -/
def hasAnyGroup : List Tree → Bool
  | .group _ _ :: _ => true
  | _ => false

/-- Whether characters are next as marks that touch each other. -/
def hasMarks : List Char → List Tree → Bool
  | [], _ => true
  | [c], .mark d _ :: _ => c == d
  | c :: cs, .mark d joint :: ts => c == d && joint && hasMarks cs ts
  | _ :: _, _ => false

/-- Whether a mark of one or more characters is next; it may be the beginning of a longer one. -/
def hasMark (m : String) : List Tree → Bool := hasMarks m.toList

/-- Whether one of several marks is next. -/
def hasOneMark (ms : List String) (ts : List Tree) : Bool := ms.any (hasMark · ts)

/-- Whether a point that begins no range is next. -/
def hasPoint (ts : List Tree) : Bool := hasMark "." ts && !hasMark ".." ts

/-- Whether a bound can begin here, unless a constant one is looked for. -/
def beginsBound (ts : List Tree) : Bool :=
  hasAnyWord ts || hasLifetime ts || hasGroup .round ts || hasOneMark ["::", "?"] ts

end Ahead

/-! ## Readers -/

/-- What is still to be read, and the pieces written so far, last one first. -/
structure Progress where
  trees : List Tree
  written : List String

/-- A reader. -/
abbrev Reader := StateT Progress Option

namespace Reader

variable {α : Type}

/-- What lies ahead. -/
def ahead : Reader (List Tree) := do return (← get).trees

/-- Whether nothing lies ahead. -/
def atEnd : Reader Bool := do return (← ahead).isEmpty

/-- Whether what lies ahead is of some kind. -/
def sees (p : List Tree → Bool) : Reader Bool := do return p (← ahead)

/-- Fails unless a condition holds. -/
def demand (b : Bool) : Reader Unit := if b then return () else failure

/-- Writes a piece. -/
def write (s : String) : Reader Unit := modify fun p => { p with written := s :: p.written }

/-- Writes pieces. -/
def writeAll (ss : List String) : Reader Unit :=
  modify fun p => { p with written := ss.reverse ++ p.written }

/-- Takes trees without writing anything. -/
def skip (n : Nat) : Reader Unit := modify fun p => { p with trees := p.trees.drop n }

/-- Takes back the pieces written last. -/
def unwrite (n : Nat) : Reader Unit := modify fun p => { p with written := p.written.drop n }

/-! ### Single trees -/

/-- Any tree, verbatim. -/
def tree : Reader Unit := do
  match ← ahead with
  | t :: _ => skip 1; write t.text
  | [] => failure

/-- A tree of some kind, verbatim. -/
def treeWhere (p : List Tree → Bool) : Reader Unit := do
  demand (← sees p)
  tree

/-- A given word. -/
def word (w : String) : Reader Unit := treeWhere (Ahead.hasWord w)

/-- Any word. -/
def anyWord : Reader Unit := treeWhere Ahead.hasAnyWord

/-- A word that is not reserved. -/
def name : Reader Unit := treeWhere Ahead.hasName

/-- A lifetime. -/
def lifetime : Reader Unit := treeWhere Ahead.hasLifetime

/-- Any group, verbatim. -/
def group : Reader Unit := treeWhere Ahead.hasAnyGroup

/-- A mark of one or more characters. -/
def mark (m : String) : Reader Unit := do
  demand (← sees (Ahead.hasMark m))
  skip m.length
  write m

/-- A literal. -/
def literal : Reader Unit := do
  demand (← sees Ahead.hasLiteral)
  if ← sees (Ahead.hasMark "-") then tree
  tree

/-! ### Choices and rows -/

/-- Reads if what lies ahead is of some kind, and tells whether it did. -/
def optionally (p : List Tree → Bool) (r : Reader Unit) : Reader Bool := do
  if ← sees p then
    r
    return true
  else return false

/-- A given word, if it is next. -/
def wordIf (w : String) : Reader Bool := optionally (Ahead.hasWord w) (word w)

/-- A mark, if it is next. -/
def markIf (m : String) : Reader Bool := optionally (Ahead.hasMark m) (mark m)

/-- Takes steps, at most as many as the number, until one tells that it was the last. -/
def steps (step : Reader Bool) : Nat → Reader Unit
  | 0 => failure
  | n + 1 => do if ← step then steps step n else return ()

/-- Takes steps until one tells that it was the last.  Every other one has to take a tree. -/
def repeated (step : Reader Bool) : Reader Unit := do
  steps step ((← ahead).length + 1)

/-- Items up to the end, with a mark between them; one may follow the last. -/
def separated (m : String) (item : Reader Unit) : Reader Unit :=
  repeated do
    if ← atEnd then return false
    item
    if ← atEnd then return false
    mark m
    return true

/-- What is in given brackets, all of it. -/
def inside (b : Bracket) (r : Reader α) : Reader α := do
  match ← get with
  | ⟨.group c inner :: rest, written⟩ =>
    demand (b == c)
    set (Progress.mk inner (b.opening :: written))
    let a ← r
    demand (← atEnd)
    modify fun p => ⟨rest, b.closing :: p.written⟩
    return a
  | _ => failure

/-! ### What is written -/

/-- Reads, and gives the pieces instead of writing them. -/
def captured (r : Reader α) : Reader (α × List String) := do
  let before ← get
  set { before with written := [] }
  let a ← r
  let after ← get
  set { after with written := before.written }
  return (a, after.written.reverse)

/-- The trees that have been taken since some progress. -/
def takenSince (before : Progress) : Reader (List Tree) := do
  return before.trees.take (before.trees.length - (← ahead).length)

/-- Writes what has been taken since some progress verbatim, in place of what was written. -/
def writeVerbatim (before : Progress) : Reader Unit := do
  let taken ← takenSince before
  modify fun p => { p with written := Tree.rowText taken :: before.written }

/-- Reads, and writes what was taken verbatim. -/
def verbatim (r : Reader α) : Reader α := do
  let before ← get
  let a ← r
  writeVerbatim before
  return a

/-- Whether a reader succeeds, and what would lie ahead if it did. -/
def glimpse (r : Reader α) : Reader (Option (List Tree)) := do
  return (r.run (← get)).map fun (_, p) => p.trees

end Reader

end WideColumn.Source
