/-
# Words of an identifier, and the cases they are joined in

An identifier such as `createdAt`, `created_at` or `HTTPServer2` is a row of words.  A word ends
at a delimiter (an underscore, a hyphen or a space, which is dropped) and wherever the letters
change kind: a lower letter before an upper one, a letter before a digit or a digit before a
letter, and before the last of several upper letters when a lower one follows it.  Empty words,
as two delimiters in a row make them, are kept.

The walk goes over CLUSTERS, a character together with the marks that belong to it, so that an
accented letter spelled with a combining mark still counts as a letter.
-/
import WideColumn.Text.LetterCase

namespace WideColumn.Text

/-- One character with the marks that belong to it. -/
abbrev Cluster := List Char

/-- The joiner, which ties two pictures together. -/
def joiner : Char := '\u200d'

/-- Whether a character belongs to the one before it. -/
def joinsPrevious (c : Char) : Bool :=
  CodeSet.extending.contains c || CodeSet.spacingMark.contains c || c == joiner

/-- Whether nothing joins a character: controls and line ends. -/
def standsAlone (c : Char) : Bool :=
  CodeSet.control.contains c || c == '\r' || c == '\n'

/-- Whether a row of characters, last one first, is a picture with extending marks after it. -/
def isMarkedPictograph (passed : List Char) : Bool :=
  (passed.dropWhile CodeSet.extending.contains).head?.any CodeSet.pictograph.contains

/-- Whether a character goes on with the cluster whose characters are given, last one first. -/
def continues (c : Char) : List Char → Bool
  | [] => true
  | d :: before =>
    !standsAlone c && !standsAlone d
      && (joinsPrevious c || CodeSet.prepended.contains d
        || d == joiner && CodeSet.pictograph.contains c && isMarkedPictograph before)

/-- The clusters of a text when one, its last character first, is under way. -/
def clustersFrom (current : List Char) : List Char → List Cluster
  | [] => if current.isEmpty then [] else [current.reverse]
  | c :: rest =>
    if continues c current then clustersFrom (c :: current) rest
    else current.reverse :: clustersFrom [c] rest

/-- The clusters of a text, in order. -/
def clusters (cs : List Char) : List Cluster := clustersFrom [] cs

namespace Cluster

/-- Whether the cluster ends a word and is dropped. -/
def isDelimiter (c : Cluster) : Bool :=
  c == ['_'] || c == ['-'] || c == [' ']

/-- Upper case, and there is a lower case to differ from. -/
def isUpper (c : Cluster) : Bool :=
  upper c != lower c && c == upper c

/-- Lower case, and there is an upper case to differ from. -/
def isLower (c : Cluster) : Bool :=
  upper c != lower c && c == lower c

/-- A decimal digit. -/
def isDigit (c : Cluster) : Bool :=
  c.all Char.isDigit

/-- Whether a word ends after `c`, seen what comes next. -/
def endsWord (c : Cluster) : List Cluster → Bool
  | [] => false
  | next :: rest =>
    c.isLower && (isUpper next || isDigit next)
      || c.isUpper && isDigit next
      || c.isDigit && (isLower next || isUpper next)
      || c.isUpper && isUpper next && (rest.head?.any isLower)

end Cluster

/-- Cuts clusters into words; `current` is the word under way, last cluster first. -/
def cutWords (current : List Cluster) : List Cluster → List (List Cluster)
  | [] => [current.reverse]
  | c :: rest =>
    if c.isDelimiter then current.reverse :: cutWords [] rest
    else if c.endsWord rest then (c :: current).reverse :: cutWords [] rest
    else cutWords (c :: current) rest

/-- The words of a text. -/
def words (s : String) : List (List Char) :=
  (cutWords [] (clusters s.toList)).map List.flatten

/-- A word with its first character in upper case and the others in lower case. -/
def capitalized : List Char → List Char
  | [] => []
  | c :: rest => upperChar c ++ lower rest

/-- Words in lower case, joined by underscores: `created_at`. -/
def snakeCase (s : String) : String :=
  String.ofList (List.intercalate ['_'] ((words s).map lower))

/-- Words capitalized and run together: `CreatedAt`. -/
def pascalCase (s : String) : String :=
  String.ofList ((words s).flatMap capitalized)

end WideColumn.Text
