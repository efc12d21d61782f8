/-
# Source as trees

A row of source is cut into TREES: words, lifetimes, literals, marks and groups in brackets.
White space and comments between them are dropped; a comment that documents becomes the
decoration that it abbreviates.  A mark is one character and remembers whether another mark
touches it: only then may the two form a longer one.
-/
import WideColumn.Source.Layout
import WideColumn.Source.Literal

namespace WideColumn.Source

open WideColumn.Text

/-- The brackets around a group. -/
inductive Bracket where
  | round
  | square
  | curly
  deriving DecidableEq

namespace Bracket

/-- The bracket that a character opens. -/
def ofOpening? : Char → Option Bracket
  | '(' => some round
  | '[' => some square
  | '{' => some curly
  | _ => none

/-- The bracket that a character closes. -/
def ofClosing? : Char → Option Bracket
  | ')' => some round
  | ']' => some square
  | '}' => some curly
  | _ => none

/-- The opening bracket. -/
def opening : Bracket → String
  | round => "("
  | square => "["
  | curly => "\x7b"

/-- The closing bracket. -/
def closing : Bracket → String
  | round => ")"
  | square => "]"
  | curly => "\x7d"

end Bracket

/-- A piece of source. -/
inductive Tree where
  | word (s : String)
  | lifetime (s : String)
  | literal (s : String)
  /-- A mark; `joint` tells that another one touches it. -/
  | mark (c : Char) (joint : Bool)
  | group (b : Bracket) (inner : List Tree)

namespace Tree

mutual

/-- The text of a tree. -/
def text : Tree → String
  | word s | lifetime s | literal s => s
  | mark c _ => c.toString
  | group b inner => lay [b.opening, rowText inner, b.closing]

/-- The text of a row of trees: single spaces, except after a mark that another one touches. -/
def rowText : List Tree → String
  | [] => ""
  | [t] => t.text
  | .mark c true :: ts => c.toString ++ rowText ts
  | t :: ts => t.text ++ " " ++ rowText ts

end

/-! ## White space and comments -/

/-- What may stand between trees: white space and the marks of writing direction. -/
def isSpace (c : Char) : Bool :=
  CodeSet.blank.contains c || c.toNat == 0x200e || c.toNat == 0x200f

/-- What a comment to the end of the line holds, and what is left after it. -/
def scanLine : List Char → List Char × List Char
  | [] => ([], [])
  | '\r' :: '\n' :: rest => ([], '\n' :: rest)
  | '\n' :: rest => ([], '\n' :: rest)
  | c :: rest =>
    let (line, rest) := scanLine rest
    (c :: line, rest)

/-- What comments that opened `depth` times more hold up to their end, and what is left. -/
def scanBlock? : Nat → List Char → Option (List Char × List Char)
  | _, [] => none
  | depth, '/' :: '*' :: rest =>
    (scanBlock? (depth + 1) rest).map fun (s, rest) => ('/' :: '*' :: s, rest)
  | 0, '*' :: '/' :: rest => some ([], rest)
  | depth + 1, '*' :: '/' :: rest =>
    (scanBlock? depth rest).map fun (s, rest) => ('*' :: '/' :: s, rest)
  | depth, c :: rest => (scanBlock? depth rest).map fun (s, rest) => (c :: s, rest)

/-- A comment in front of a text: what it says of the source, if it documents, with a `true` if it
documents what it stands in. -/
def scanComment? (cs : List Char) : Option (Option (Bool × List Char) × List Char) :=
  match cs with
  | '/' :: '/' :: '!' :: rest =>
    let (line, rest) := scanLine rest
    some (some (true, line), rest)
  | '/' :: '/' :: '/' :: '/' :: rest => some (none, (scanLine rest).2)
  | '/' :: '/' :: '/' :: rest =>
    let (line, rest) := scanLine rest
    some (some (false, line), rest)
  | '/' :: '/' :: rest => some (none, (scanLine rest).2)
  | '/' :: '*' :: inner =>
    (scanBlock? 0 inner).map fun (s, rest) =>
      match inner with
      | '!' :: _ => (some (true, s.drop 1), rest)
      | '*' :: '*' :: _ | '*' :: '/' :: _ => (none, rest)
      | '*' :: _ => (some (false, s.drop 1), rest)
      | _ => (none, rest)
  | _ => none

/-- Whether every carriage return is followed by a line feed. -/
def hasWholeLineEnds : List Char → Bool
  | [] => true
  | '\r' :: '\n' :: rest => hasWholeLineEnds rest
  | c :: rest => c != '\r' && hasWholeLineEnds rest

/-- The decoration that a documenting comment abbreviates. -/
def ofComment (inside : Bool) (s : List Char) : List Tree :=
  .mark '#' false :: (if inside then [.mark '!' false] else [])
    ++ [.group .square [.word "doc", .mark '=' false, .literal (stringLiteral (String.ofList s))]]

/-! ## Marks and leaves -/

/-- Whether a text starts with a mark, and not with a comment. -/
def startsMark : List Char → Bool
  | '/' :: '/' :: _ | '/' :: '*' :: _ => false
  | c :: _ => "~!@#$%^&*-=+|;:,<.>/?'".toList.contains c
  | [] => false

/-- What stands for a piece of source that could not be made. -/
def brokenPiece : List Char := "(/*ERROR*/)".toList

/-- A lifetime whose apostrophe is already read. -/
def scanLifetime? (cs : List Char) : Option (Tree × List Char) := do
  let (name, rest) ← Word.scan? cs
  let isRaw := ['r', '#'].isPrefixOf cs
  if rest.head? == some '\'' || rest.head? == some '#' && !isRaw then none
  else some (.lifetime (String.ofList ('\'' :: name)), rest)

/-- What a word must not begin with: the marks of texts and bytes. -/
def literalPrefixes : List String :=
  ["r\"", "r#\"", "r##", "b\"", "b'", "br\"", "br#", "c\"", "cr\"", "cr#"]

/-- A tree without brackets in front of a text. -/
def scanLeaf? (cs : List Char) : Option (Tree × List Char) :=
  match Literal.scan? cs with
  | some (s, rest) => some (.literal (String.ofList s), rest)
  | none =>
    match cs with
    | '\'' :: rest => scanLifetime? rest
    | c :: rest =>
      if startsMark cs then some (.mark c (startsMark rest), rest)
      else if brokenPiece.isPrefixOf cs then
        some (.literal (String.ofList brokenPiece), cs.drop brokenPiece.length)
      else if literalPrefixes.any fun p => p.toList.isPrefixOf cs then none
      else (Word.scan? cs).map fun (w, rest) => (.word (String.ofList w), rest)
    | [] => none

/-! ## Groups -/

/-- A group that is open: its bracket, and the trees before it, last one first. -/
structure Open where
  bracket : Bracket
  before : List Tree

/-- The trees of a text.  `opened` are the groups that are open, innermost first, and `found` the
trees of the innermost one so far, last one first; `fuel` bounds the steps. -/
def scanRow? : Nat → List Open → List Tree → List Char → Option (List Tree)
  | _, [], found, [] => some found.reverse
  | _, _ :: _, _, [] => none
  | 0, _, _, _ :: _ => none
  | fuel + 1, opened, found, c :: cs =>
    if isSpace c then scanRow? fuel opened found cs
    else
      match scanComment? (c :: cs) with
      | some (none, rest) => scanRow? fuel opened found rest
      | some (some (inside, s), rest) =>
        if hasWholeLineEnds s then
          scanRow? fuel opened ((ofComment inside s).reverse ++ found) rest
        else none
      | none =>
        match Bracket.ofOpening? c, Bracket.ofClosing? c, opened with
        | some b, _, _ =>
          if brokenPiece.isPrefixOf (c :: cs) then
            (scanLeaf? (c :: cs)).bind fun (t, rest) => scanRow? fuel opened (t :: found) rest
          else scanRow? fuel (⟨b, found⟩ :: opened) [] cs
        | none, some b, o :: outer =>
          if o.bracket == b then scanRow? fuel outer (.group b found.reverse :: o.before) cs
          else none
        | none, some _, [] => none
        | none, none, _ =>
          (scanLeaf? (c :: cs)).bind fun (t, rest) => scanRow? fuel opened (t :: found) rest

/-- The trees of a text; a byte order mark in front of it is passed over. -/
def ofText? (s : String) : Option (List Tree) :=
  match s.toList with
  | '\ufeff' :: cs => scanRow? cs.length [] [] cs
  | cs => scanRow? cs.length [] [] cs

end Tree

/-- The name that a text gives for an item: one word that is not reserved. -/
def identifier? (s : String) : Option String :=
  match Tree.ofText? s with
  | some [.word w] => if Word.isName w then some w else none
  | _ => none

/-- Whether a text put together by the generator can be a name at all. -/
def isName (s : String) : Bool :=
  match s.toList with
  | 'r' :: '#' :: cs => Word.isPlain cs
  | cs => Word.isPlain cs

end WideColumn.Source
