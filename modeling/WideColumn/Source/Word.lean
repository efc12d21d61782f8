/-
# Words of source

A word is a name or a reserved word.  A raw mark `r#` in front of a reserved word makes a name of
it, with a few exceptions that keep their meaning whatever is put before them.
-/
import WideColumn.Text.CodeSet

namespace WideColumn.Source.Word

open WideColumn.Text

/-- Whether a word may begin with a character. -/
def isStart (c : Char) : Bool :=
  c == '_' || CodeSet.identifierStart.contains c

/-- Whether a word may go on with a character. -/
def isRest (c : Char) : Bool :=
  CodeSet.identifierStart.contains c || CodeSet.identifierRest.contains c

/-- Whether a row of characters is a word without a raw mark. -/
def isPlain : List Char → Bool
  | [] => false
  | c :: cs => isStart c && cs.all isRest

/-- The words that stand for themselves only. -/
def reserved : List String :=
  ["_", "abstract", "as", "async", "await", "become", "box", "break", "const", "continue",
    "crate", "do", "dyn", "else", "enum", "extern", "false", "final", "fn", "for", "if", "impl",
    "in", "let", "loop", "macro", "match", "mod", "move", "mut", "override", "priv", "pub", "ref",
    "return", "Self", "self", "static", "struct", "super", "trait", "true", "try", "type",
    "typeof", "unsafe", "unsized", "use", "virtual", "where", "while", "yield"]

/-- The words that keep their meaning whatever is put before them. -/
def neverRaw : List String := ["_", "super", "self", "Self", "crate"]

/-- Whether a word is a name: it is not reserved. -/
def isName (w : String) : Bool := !reserved.contains w

/-- A word without a raw mark in front of a text. -/
def scanPlain? : List Char → Option (List Char × List Char)
  | [] => none
  | c :: cs =>
    let tail := cs.takeWhile isRest
    if isStart c then some (c :: tail, cs.drop tail.length) else none

/-- A word, raw or not, in front of a text. -/
def scan? : List Char → Option (List Char × List Char)
  | 'r' :: '#' :: cs =>
    (scanPlain? cs).bind fun (w, rest) =>
      if neverRaw.contains (String.ofList w) then none else some ('r' :: '#' :: w, rest)
  | cs => scanPlain? cs

end WideColumn.Source.Word
