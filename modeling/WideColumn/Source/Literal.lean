/-
# Literals of source

Texts, characters and numbers as source writes them, in front of a row of characters.  Every
reader here says only where a literal ends, since source is kept as it is written; the numbers
that name a place in a tuple are read as well.

A text comes in three KINDS: plain ones, rows of bytes and rows of bytes that end in a zero.  They
differ in the characters and the escapes they take.  Any literal may carry a suffix, which is a
word right behind it.
-/
import WideColumn.Source.Word
import WideColumn.Text.Scan

namespace WideColumn.Source.Literal

open WideColumn.Text

/-- The kinds of texts. -/
inductive Kind where
  | plain
  | bytes
  | terminated
  deriving DecidableEq

namespace Kind

/-- Whether a character stands for itself. -/
def takes : Kind → Char → Bool
  | plain, _ => true
  | bytes, c => c.toNat < 0x80
  | terminated, c => c.toNat != 0

/-- Whether two hexadecimal digits number a character of this kind. -/
def takesPair (k : Kind) (a b : Char) : Bool :=
  match hexValue? a, hexValue? b with
  | some high, some low =>
    match k with
    | plain => high < 8
    | bytes => true
    | terminated => high != 0 || low != 0
  | _, _ => false

/-- Whether a character may be given by its code point. -/
def takesCode : Kind → Nat → Bool
  | plain, _ => true
  | bytes, _ => false
  | terminated, n => n != 0

end Kind

/-! ## Escapes -/

/-- A code point in hexadecimal up to the closing brace: at most six digits, and underscores
between and after them.  `digits` counts those already read, `value` is their value. -/
def scanCode? (digits value : Nat) : List Char → Option (Nat × List Char)
  | [] => none
  | c :: rest =>
    if c == '_' && 0 < digits then scanCode? digits value rest
    else if c == '}' && 0 < digits then
      if value < 0xd800 || 0xdfff < value && value < 0x110000 then some (value, rest) else none
    else
      match hexValue? c with
      | some d => if digits == 6 then none else scanCode? (digits + 1) (16 * value + d) rest
      | none => none

/-- What is left after an escape whose backslash is already read. -/
def skipEscape? (k : Kind) : List Char → Option (List Char)
  | 'x' :: a :: b :: rest => if k.takesPair a b then some rest else none
  | 'u' :: '{' :: rest =>
    (scanCode? 0 0 rest).bind fun (n, rest) => if k.takesCode n then some rest else none
  | '0' :: rest => if k == .terminated then none else some rest
  | c :: rest => if ['n', 'r', 't', '\\', '\'', '"'].contains c then some rest else none
  | [] => none

/-- What is left after line ends and the blanks around them. -/
def skipFold? : List Char → Option (List Char)
  | '\r' :: '\n' :: rest => skipFold? rest
  | c :: rest =>
    if c == '\r' then none
    else if c == ' ' || c == '\t' || c == '\n' then skipFold? rest
    else some (c :: rest)
  | [] => none

/-! ## Texts -/

/-- What is left after a suffix, if there is one. -/
def skipSuffix (cs : List Char) : List Char :=
  ((Word.scanPlain? cs).map (·.2)).getD cs

/-- What is left after the rest of a text with escapes, up to its closing quote; `fuel` bounds its
pieces. -/
def skipCooked? (k : Kind) : Nat → List Char → Option (List Char)
  | 0, _ => none
  | _ + 1, [] => none
  | _ + 1, '"' :: rest => some (skipSuffix rest)
  | fuel + 1, '\r' :: '\n' :: rest => skipCooked? k fuel rest
  | fuel + 1, '\\' :: c :: rest =>
    if c == '\n' || c == '\r' then (skipFold? (c :: rest)).bind (skipCooked? k fuel)
    else (skipEscape? k (c :: rest)).bind (skipCooked? k fuel)
  | fuel + 1, c :: rest =>
    if c == '\r' || c == '\\' || !k.takes c then none else skipCooked? k fuel rest

/-- What is left after the rest of a text without escapes, up to a quote with `hashes` after
it. -/
def skipUncooked? (k : Kind) (hashes : List Char) : List Char → Option (List Char)
  | [] => none
  | '\r' :: '\n' :: rest => skipUncooked? k hashes rest
  | c :: rest =>
    if c == '"' && hashes.isPrefixOf rest then some (skipSuffix (rest.drop hashes.length))
    else if c == '\r' || !k.takes c then none
    else skipUncooked? k hashes rest

/-- What is left after a text without escapes, from the marks in front of its quote on. -/
def skipRaw? (k : Kind) (cs : List Char) : Option (List Char) :=
  let hashes := cs.takeWhile (· == '#')
  match cs.drop hashes.length with
  | '"' :: rest => if hashes.length ≤ 255 then skipUncooked? k hashes rest else none
  | _ => none

/-- What is left after a character or a byte whose first quote is already read. -/
def skipSingle? (k : Kind) (cs : List Char) : Option (List Char) := do
  let rest ← match cs with
    | '\\' :: rest => skipEscape? k rest
    | c :: rest => if k.takes c then some rest else none
    | [] => none
  let rest ← skipChar? '\'' rest
  return skipSuffix rest

/-! ## Numbers -/

/-- A digit or the mark that may stand between digits. -/
def isDigitOrGap (c : Char) : Bool := c.isDigit || c == '_'

/-- What is left after an exponent whose letter is already read; `signed` tells that its sign is
read as well. -/
def skipExponent? (signed : Bool) : List Char → Option (List Char)
  | [] => none
  | c :: rest =>
    if c == '+' || c == '-' then if signed then none else skipExponent? true rest
    else if c == '_' then skipExponent? signed rest
    else if c.isDigit then some (rest.dropWhile isDigitOrGap)
    else none

/-- What is left after the digits of a real: a point, an exponent or both belong to it.  A point
before a second one or before a word does not. -/
def skipRealDigits? (cs : List Char) : Option (List Char) := do
  let (hasPoint, rest) ← match cs.dropWhile isDigitOrGap with
    | '.' :: rest =>
      if rest.head?.any fun c => c == '.' || Word.isStart c then none
      else some (true, rest.dropWhile isDigitOrGap)
    | rest => some (false, rest)
  match rest with
  | 'e' :: exponent | 'E' :: exponent =>
    (skipExponent? false exponent).or (if hasPoint then some rest else none)
  | _ => if hasPoint then some rest else none

/-- What is left after the digits of an integer. -/
def skipIntegerDigits? (cs : List Char) : Option (List Char) :=
  let (base, digits) := match cs with
    | '0' :: 'x' :: rest => (16, rest)
    | '0' :: 'o' :: rest => (8, rest)
    | '0' :: 'b' :: rest => (2, rest)
    | rest => (10, rest)
  let run := digits.takeWhile fun c => isDigitOrGap c || base == 16 && (hexValue? c).isSome
  if run.any fun c => (hexValue? c).any (base ≤ ·) then none
  else if run.all (· == '_') || base == 10 && run.head? == some '_' then none
  else some (digits.drop run.length)

/-- What is left after the suffix of a number, behind which no word may go on. -/
def endNumber? (cs : List Char) : Option (List Char) :=
  let rest := skipSuffix cs
  if rest.head?.any Word.isRest then none else some rest

/-- What is left after a number. -/
def skipNumber? (cs : List Char) : Option (List Char) :=
  ((skipRealDigits? cs).bind endNumber?).or ((skipIntegerDigits? cs).bind endNumber?)

/-! ## Literals -/

/-- What is left after a literal. -/
def skip? (cs : List Char) : Option (List Char) :=
  match cs with
  | '"' :: rest => skipCooked? .plain (rest.length + 1) rest
  | 'r' :: rest => skipRaw? .plain rest
  | 'b' :: '"' :: rest => skipCooked? .bytes (rest.length + 1) rest
  | 'b' :: 'r' :: rest => skipRaw? .bytes rest
  | 'b' :: '\'' :: rest => skipSingle? .bytes rest
  | 'c' :: '"' :: rest => skipCooked? .terminated (rest.length + 1) rest
  | 'c' :: 'r' :: rest => skipRaw? .terminated rest
  | '\'' :: rest => skipSingle? .plain rest
  | c :: _ => if c.isDigit then skipNumber? cs else none
  | [] => none

/-- A literal in front of a text. -/
def scan? (cs : List Char) : Option (List Char × List Char) :=
  (skip? cs).map fun rest => (cs.take (cs.length - rest.length), rest)

/-! ## What a literal denotes -/

/-- Whether a literal is a plain text. -/
def isText (s : String) : Bool := s.startsWith "\"" || s.startsWith "r"

/-- Whether a literal is a number. -/
def isNumber (s : String) : Bool := s.toList.head?.any Char.isDigit

/-- Whether what follows the letter of an exponent makes a decimal number a real. -/
def isExponent (cs : List Char) : Bool :=
  let rest := cs.dropWhile isDigitOrGap
  rest.head?.any (fun c => c == '+' || c == '-') || (cs.take (cs.length - rest.length)).any Char.isDigit

/-- The digits of an integer and its suffix, from the end of what marks its base on. -/
def splitInteger? (base value : Nat) : List Char → Option (Nat × List Char)
  | [] => some (value, [])
  | c :: rest =>
    if c == '_' then splitInteger? base value rest
    else if base == 10 && (c == '.' || (c == 'e' || c == 'E') && isExponent rest) then none
    else
      match hexValue? c with
      | some d =>
        if d < base then splitInteger? base (base * value + d) rest
        else if c.isDigit then none
        else some (value, c :: rest)
      | none => some (value, c :: rest)

/-- The value of a number that is an integer, and its suffix. -/
def integer? (s : String) : Option (Nat × List Char) :=
  match s.toList with
  | '0' :: 'x' :: rest => splitInteger? 16 0 rest
  | '0' :: 'o' :: rest => splitInteger? 8 0 rest
  | '0' :: 'b' :: rest => splitInteger? 2 0 rest
  | cs => splitInteger? 10 0 cs

/-- Whether a number is a real. -/
def isReal (s : String) : Bool := isNumber s && (integer? s).isNone

/-- The place that an integer without a suffix names; thirty-two bits hold it. -/
def place? (s : String) : Option Nat :=
  if isNumber s then
    match integer? s with
    | some (n, []) => if n < Nat.pow 2 32 then some n else none
    | _ => none
  else none

end WideColumn.Source.Literal
