/-
# Quoted text

How a text is written between double quotes, for people to read in a log and for a compiler to
read back.  Both forms escape the quote, the backslash and the usual control characters by a
letter, and every other character that would not show (controls, odd blanks, unassigned code
points) or would run into its neighbour (combining marks) by its number.  They differ in one
thing: in source, a NUL before an octal digit takes the two-digit form, so that no reader takes
the digit for a part of the escape.
-/
import WideColumn.Text.CodeSet

namespace WideColumn.Text

/-- The lower-case hexadecimal digits of a number, without leading zeros. -/
def hexDigits (n : Nat) : List Char :=
  Nat.toDigits 16 n

/-- A byte as two lower-case hexadecimal digits. -/
def hexByte (n : Nat) : List Char :=
  [Nat.digitChar (n / 16 % 16), Nat.digitChar (n % 16)]

/-- An escape by number. -/
def numericEscape (c : Char) : List Char :=
  '\\' :: 'u' :: '{' :: (hexDigits c.toNat ++ ['}'])

/-- Whether a character beyond the plain ones is shown by its number. -/
def needsNumber (c : Char) : Bool :=
  CodeSet.combining.contains c || CodeSet.invisible.contains c

/-- One character inside quotes. -/
def escapeChar (c : Char) : List Char :=
  if c == '"' then ['\\', '"']
  else if c == '\\' then ['\\', '\\']
  else if c == '\n' then ['\\', 'n']
  else if c == '\r' then ['\\', 'r']
  else if c == '\t' then ['\\', 't']
  else if c.toNat == 0 then ['\\', '0']
  else if 0x20 ≤ c.toNat && c.toNat < 0x7f then [c]
  else if needsNumber c then numericEscape c
  else [c]

/-- The characters of a text between quotes, for people. -/
def quotedChars (s : List Char) : List Char :=
  '"' :: (s.flatMap escapeChar ++ ['"'])

/-- A text between quotes, for people. -/
def quoted (s : String) : String :=
  String.ofList (quotedChars s.toList)

/-- A text without the double quotes around it. -/
def unquoted (s : String) : String :=
  let cs := s.toList.dropWhile (· == '"')
  String.ofList (cs.reverse.dropWhile (· == '"')).reverse

/-- Whether an escape of NUL would swallow this character. -/
def isOctalDigit (c : Char) : Bool :=
  '0' ≤ c && c ≤ '7'

/-- The inside of a string literal in source. -/
def escapeLiteral : List Char → List Char
  | [] => []
  | c :: rest =>
    (if c.toNat == 0 && rest.head?.any isOctalDigit then ['\\', 'x', '0', '0']
    else escapeChar c) ++ escapeLiteral rest

/-- A string literal in source. -/
def stringLiteral (s : String) : String :=
  String.ofList ('"' :: (escapeLiteral s.toList ++ ['"']))

end WideColumn.Text
