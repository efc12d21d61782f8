/-
# JSON

Reading and writing documents as JSON text.

Reading takes the grammar as it stands: no comments, no trailing commas, nothing after the value.
A number that is too large, and a text with an escape that denotes no character, have the form of
a value and are malformed; so is a table with such a key.  `outline?` leaves them in the tree for a
reader that may pass them over, `read?` refuses them and more than `maxDepth` nested lists and
tables.

A number without point and exponent is an integer if sixty-four bits hold it and a real
otherwise.  The digits of a real are gathered in a
word of sixty-four bits, the digits past it only counted, and scaled by a power of ten: two
roundings, which is what readers of this format commonly do.

Writing is compact: no blanks at all.
-/
import WideColumn.Document
import WideColumn.Number.Layout
import WideColumn.Text.Scan
import WideColumn.Text.Quoted

namespace WideColumn.Document.Json

open WideColumn.Text WideColumn.Number

/-! ## Numbers -/

/-- The largest word of sixty-four bits. -/
def maxWord : Nat := 18446744073709551615

/-- Digits gathered so far: their value, whether a digit did not fit any more, and how many
digits were left out or stand after the point. -/
structure Gathered where
  value : Nat
  full : Bool
  exponent : Int

/-- Takes one digit; `left` is what a digit that no longer fits adds to the exponent, `kept` what
one that fits adds. -/
def Gathered.push (left kept : Int) (g : Gathered) (c : Char) : Gathered :=
  let next := 10 * g.value + (c.toNat - '0'.toNat)
  if g.full || maxWord < next then { g with full := true, exponent := g.exponent + left }
  else { g with value := next, exponent := g.exponent + kept }

/-- The digits before and after the point. -/
def gather (whole fraction : List Char) : Gathered :=
  let g := whole.foldl (Gathered.push 1 0) ⟨0, false, 0⟩
  fraction.foldl (Gathered.push 0 (-1)) { g with full := false }

/-- Scales by a power of ten; none if the result is too large.  An exponent below what one
division can do is worked off in steps; `fuel` bounds their number. -/
def scale : Nat → Double → Int → Option Double
  | 0, x, _ => some x
  | fuel + 1, x, e =>
    if e.natAbs ≤ 308 then
      let power : Double := Binary.ofDecimal false 1 e.natAbs
      if 0 ≤ e then
        let y := x.times power
        if y.isInfinite then none else some y
      else some (x.quotient power)
    else if x.magnitude == 0 then some x
    else if 0 ≤ e then none
    else scale fuel (x.quotient (Binary.ofDecimal false 1 308)) (e + 308)

/-- The parts of a number's text. -/
structure NumberText where
  negative : Bool
  whole : List Char
  fraction : Option (List Char)
  exponent : Option (Bool × List Char)

/-- The number that a text with these parts denotes. -/
def NumberText.value? (t : NumberText) : Option Document :=
  let sign := if t.negative then Binary.negate else id
  let g := gather t.whole (t.fraction.getD [])
  let zero : Double := Binary.ofInt 0
  match t.fraction, t.exponent with
  | none, none =>
    let n := digitsValue t.whole
    if !t.negative && n ≤ maxWord then some (.integer n)
    else if t.negative && 0 < n && n ≤ Nat.pow 2 63 then some (.integer (-n))
    else (scale 8 (Binary.ofInt g.value) g.exponent).map fun x => .real (sign x)
  | _, none => (scale 8 (Binary.ofInt g.value) g.exponent).map fun x => .real (sign x)
  | _, some (negative, ds) =>
    let e : Int := digitsValue ds
    if 2147483647 < e then
      if g.value != 0 && !negative then none else some (.real (sign zero))
    else
      (scale 8 (Binary.ofInt g.value) (g.exponent + if negative then -e else e)).map
        fun x => .real (sign x)

/-- One or more digits. -/
def spanSome? (cs : List Char) : Option (List Char × List Char) :=
  match cs.span Char.isDigit with
  | ([], _) => none
  | found => some found

/-- A fraction with its point, if there is one. -/
def scanFraction? : List Char → Option (Option (List Char) × List Char)
  | '.' :: rest => (spanSome? rest).map fun (ds, rest) => (some ds, rest)
  | rest => some (none, rest)

/-- An exponent with its letter and sign, if there is one. -/
def scanExponent? : List Char → Option (Option (Bool × List Char) × List Char)
  | 'e' :: rest | 'E' :: rest =>
    match rest with
    | '-' :: rest => (spanSome? rest).map fun (ds, rest) => (some (true, ds), rest)
    | '+' :: rest => (spanSome? rest).map fun (ds, rest) => (some (false, ds), rest)
    | rest => (spanSome? rest).map fun (ds, rest) => (some (false, ds), rest)
  | rest => some (none, rest)

/-- A number in front of a text. -/
def scanNumber? (cs : List Char) : Option (Document × List Char) := do
  let (negative, rest) := match cs with
    | '-' :: rest => (true, rest)
    | rest => (false, rest)
  let (whole, rest) ← spanSome? rest
  let (fraction, rest) ← scanFraction? rest
  let (exponent, rest) ← scanExponent? rest
  if whole.head? == some '0' && 1 < whole.length then none
  else return ((NumberText.mk negative whole fraction exponent).value?.getD .malformed, rest)

/-! ## Texts -/

/-- A code unit of sixteen bits after `\u`. -/
def scanUnit? : List Char → Option (Nat × List Char)
  | a :: b :: c :: d :: rest => (hexNumber? [a, b, c, d]).map fun n => (n, rest)
  | _ => none

/-- A piece of a text: a character as it stands, or the code unit of an escape. -/
inductive Piece where
  | plain (c : Char)
  | unit (n : Nat)

/-- The piece an escape denotes, the backslash already read. -/
def scanEscape? : List Char → Option (Piece × List Char)
  | '"' :: rest => some (.plain '"', rest)
  | '\\' :: rest => some (.plain '\\', rest)
  | '/' :: rest => some (.plain '/', rest)
  | 'b' :: rest => some (.plain '\x08', rest)
  | 'f' :: rest => some (.plain '\x0c', rest)
  | 'n' :: rest => some (.plain '\n', rest)
  | 'r' :: rest => some (.plain '\r', rest)
  | 't' :: rest => some (.plain '\t', rest)
  | 'u' :: rest => (scanUnit? rest).map fun (n, rest) => (.unit n, rest)
  | _ => none

/-- The pieces of the rest of a text whose quote is already read; `fuel` bounds them. -/
def scanPieces? : Nat → List Char → Option (List Piece × List Char)
  | 0, _ => none
  | _ + 1, [] => none
  | _ + 1, '"' :: rest => some ([], rest)
  | fuel + 1, '\\' :: rest => do
    let (p, rest) ← scanEscape? rest
    let (ps, rest) ← scanPieces? fuel rest
    return (p :: ps, rest)
  | fuel + 1, c :: rest =>
    if c.toNat < 0x20 then none
    else (scanPieces? fuel rest).map fun (ps, rest) => (.plain c :: ps, rest)

/-- Whether a code unit is the first of a pair. -/
def isHigh (n : Nat) : Bool := 0xd800 ≤ n && n < 0xdc00

/-- Whether a code unit is the second of a pair. -/
def isLow (n : Nat) : Bool := 0xdc00 ≤ n && n ≤ 0xdfff

/-- The characters that pieces denote: a code unit alone is one, and so is a pair of them. -/
def characters? : List Piece → Option (List Char)
  | [] => some []
  | .plain c :: ps => (characters? ps).map (c :: ·)
  | .unit high :: .unit low :: ps =>
    if isHigh high && isLow low then
      (characters? ps).map
        (Char.ofNat (0x10000 + (high - 0xd800) * 1024 + (low - 0xdc00)) :: ·)
    else if isHigh high || isLow high then none
    else (characters? (.unit low :: ps)).map (Char.ofNat high :: ·)
  | .unit n :: ps =>
    if isHigh n || isLow n then none else (characters? ps).map (Char.ofNat n :: ·)

/-- The rest of a text whose quote is already read, or nothing in its place if it has the form of
a text but denotes none. -/
def scanText? (fuel : Nat) (cs : List Char) : Option (Option String × List Char) :=
  (scanPieces? fuel cs).map fun (ps, rest) => ((characters? ps).map String.ofList, rest)

/-! ## Values -/

/-- How many lists and tables may be open at once. -/
def maxDepth : Nat := 127

/-- The white space of the notation. -/
def isBlank (c : Char) : Bool :=
  c == ' ' || c == '\n' || c == '\t' || c == '\r'

/-- What is left after white space. -/
def skip (cs : List Char) : List Char := cs.dropWhile isBlank

/-- What is left after a given word. -/
def skipWord? (word : List Char) (cs : List Char) : Option (List Char) :=
  if cs.take word.length == word then some (cs.drop word.length) else none

/-- The table of entries with their keys; malformed if a key is. -/
def tableOf (entries : List (Option String × Document)) : Document :=
  match entries.mapM fun e => e.1.map fun key => (key, e.2) with
  | some es => .table es
  | none => .malformed

mutual

/-- A value in front of a text that does not start with white space; `fuel` bounds the steps. -/
def scanValue? : Nat → List Char → Option (Document × List Char)
  | 0, _ => none
  | fuel + 1, cs =>
    match cs with
    | '"' :: rest =>
      (scanText? fuel rest).map fun (s, rest) => (s.elim .malformed .text, rest)
    | '[' :: rest =>
      match skip rest with
      | ']' :: rest => some (.list [], rest)
      | rest => (scanItems? fuel rest).map fun (ds, rest) => (.list ds, rest)
    | '{' :: rest =>
      match skip rest with
      | '}' :: rest => some (.table [], rest)
      | rest => (scanEntries? fuel rest).map fun (es, rest) => (tableOf es, rest)
    | 't' :: rest => (skipWord? ['r', 'u', 'e'] rest).map fun rest => (.boolean true, rest)
    | 'f' :: rest => (skipWord? ['a', 'l', 's', 'e'] rest).map fun rest => (.boolean false, rest)
    | 'n' :: rest => (skipWord? ['u', 'l', 'l'] rest).map fun rest => (.null, rest)
    | cs => scanNumber? cs

/-- Items up to the closing bracket, at least one. -/
def scanItems? : Nat → List Char → Option (List Document × List Char)
  | 0, _ => none
  | fuel + 1, cs => do
    let (d, rest) ← scanValue? fuel (skip cs)
    match skip rest with
    | ']' :: rest => some ([d], rest)
    | ',' :: rest => (scanItems? fuel rest).map fun (ds, rest) => (d :: ds, rest)
    | _ => none

/-- Entries up to the closing brace, at least one. -/
def scanEntries? : Nat → List Char → Option (List (Option String × Document) × List Char)
  | 0, _ => none
  | fuel + 1, cs =>
    match skip cs with
    | '"' :: rest => do
      let (key, rest) ← scanText? fuel rest
      let rest ← skipChar? ':' (skip rest)
      let (d, rest) ← scanValue? fuel (skip rest)
      match skip rest with
      | '}' :: rest => some ([(key, d)], rest)
      | ',' :: rest =>
        (scanEntries? fuel rest).map fun (es, rest) => ((key, d) :: es, rest)
      | _ => none
    | _ => none

end

/-- The tree of a text, malformed pieces and all. -/
def outline? (s : String) : Option Document := do
  let cs := skip s.toList
  let (d, rest) ← scanValue? (2 * cs.length + 2) cs
  if (skip rest).isEmpty then some d else none

/-- The document a text writes. -/
def read? (s : String) : Option Document :=
  (outline? s).filter fun d => d.isSound && d.depth ≤ maxDepth

/-! ## Writing -/

/-- One character inside quotes. -/
def escapeChar (c : Char) : List Char :=
  if c == '"' then ['\\', '"']
  else if c == '\\' then ['\\', '\\']
  else if c == '\x08' then ['\\', 'b']
  else if c == '\x0c' then ['\\', 'f']
  else if c == '\n' then ['\\', 'n']
  else if c == '\r' then ['\\', 'r']
  else if c == '\t' then ['\\', 't']
  else if c.toNat < 0x20 then '\\' :: 'u' :: '0' :: '0' :: hexByte c.toNat
  else [c]

/-- A text between quotes. -/
def writeText (s : String) : List Char :=
  '"' :: (s.toList.flatMap escapeChar ++ ['"'])

/-- A real; one that is not finite is written as null. -/
def writeReal {f : Format} (x : Binary f) : List Char :=
  if x.isFinite then ((Layout.document f).text x).toList else ['n', 'u', 'l', 'l']

mutual

/-- The compact text of a document. -/
def write : Document → List Char
  | .null | .malformed => ['n', 'u', 'l', 'l']
  | .boolean b => (toString b).toList
  | .integer n => (toString n).toList
  | .real x => writeReal x
  | .single x => writeReal x
  | .text s | .moment s => writeText s
  | .list ds => '[' :: (writeItems ds ++ [']'])
  | .table es => '{' :: (writeEntries es ++ ['}'])

/-- Items with commas between them. -/
def writeItems : List Document → List Char
  | [] => []
  | [d] => write d
  | d :: ds => write d ++ ',' :: writeItems ds

/-- Entries with commas between them. -/
def writeEntries : List (String × Document) → List Char
  | [] => []
  | [(key, d)] => writeText key ++ ':' :: write d
  | (key, d) :: es => writeText key ++ ':' :: write d ++ ',' :: writeEntries es

end

/-- The compact text of a document, as a string. -/
def text (d : Document) : String := String.ofList (write d)

end WideColumn.Document.Json
