/-
# TOML

Reading documents from TOML text.

A text is read in two steps.  The first turns it into LINES: table headers, headers of table
arrays, and settings of a dotted key.  The second plays the lines, in order, on a tree that
remembers how each table came to be, since that decides who may add to it:

* a table that a header names is DEFINED once; another header for it is refused;
* a table that only lies on the way to one is IMPLIED, and a later header may define it;
* a table made by a dotted key is DOTTED: more dotted keys may add to it, but no header;
* a value, be it a list or an inline table, is closed.

A number that its width cannot hold has the form of a value and is malformed.
-/
import WideColumn.Document
import WideColumn.Document.Moment

namespace WideColumn.Document.Toml

open WideColumn.Text WideColumn.Number

/-! ## Blanks, comments and line ends -/

/-- The white space within a line. -/
def isBlank (c : Char) : Bool := c == ' ' || c == '\t'

/-- What is left after white space within the line. -/
def skip (cs : List Char) : List Char := cs.dropWhile isBlank

/-- Control characters, which stand nowhere as they are; the tab is none of them. -/
def isControl (c : Char) : Bool :=
  c.toNat < 0x20 && c != '\t' || c.toNat == 0x7f

/-- What is left after one line end. -/
def skipLineEnd? : List Char → Option (List Char)
  | '\n' :: rest => some rest
  | '\r' :: '\n' :: rest => some rest
  | _ => none

/-- What is left after a comment, if one stands in front. -/
def skipComment : List Char → List Char
  | '#' :: rest => rest.dropWhile (!isControl ·)
  | rest => rest

/-- What is left after the end of a line, blanks and a comment before it; the text may end
instead. -/
def skipRestOfLine? (cs : List Char) : Option (List Char) :=
  match skipComment (skip cs) with
  | [] => some []
  | rest => skipLineEnd? rest

/-- What is left after blanks, comments and line ends; `fuel` bounds the lines. -/
def skipLines : Nat → List Char → List Char
  | 0, cs => cs
  | fuel + 1, cs =>
    match skipLineEnd? (skipComment (skip cs)) with
    | some rest => skipLines fuel rest
    | none => skipComment (skip cs)

/-! ## Texts -/

/-- The character of a code point in hexadecimal, if there is such a character. -/
def charOfHex? (ds : List Char) : Option Char := do
  let n ← hexNumber? ds
  if n < 0xd800 || 0xdfff < n && n < 0x110000 then some (Char.ofNat n) else none

/-- The character of an escape of `width` digits. -/
def scanCode? (width : Nat) (cs : List Char) : Option (Char × List Char) :=
  let ds := cs.take width
  if ds.length == width then (charOfHex? ds).map fun c => (c, cs.drop width) else none

/-- The character an escape denotes, the backslash already read. -/
def scanEscape? : List Char → Option (Char × List Char)
  | '"' :: rest => some ('"', rest)
  | '\\' :: rest => some ('\\', rest)
  | 'b' :: rest => some ('\x08', rest)
  | 't' :: rest => some ('\t', rest)
  | 'n' :: rest => some ('\n', rest)
  | 'f' :: rest => some ('\x0c', rest)
  | 'r' :: rest => some ('\r', rest)
  | 'e' :: rest => some ('\x1b', rest)
  | 'x' :: rest => scanCode? 2 rest
  | 'u' :: rest => scanCode? 4 rest
  | 'U' :: rest => scanCode? 8 rest
  | _ => none

/-- The rest of a text on one line, up to the closing quote. -/
def scanBasic? : Nat → List Char → Option (List Char × List Char)
  | 0, _ => none
  | _ + 1, [] => none
  | _ + 1, '"' :: rest => some ([], rest)
  | fuel + 1, '\\' :: rest => do
    let (c, rest) ← scanEscape? rest
    let (s, rest) ← scanBasic? fuel rest
    return (c :: s, rest)
  | fuel + 1, c :: rest =>
    if isControl c then none else (scanBasic? fuel rest).map fun (s, rest) => (c :: s, rest)

/-- The rest of a literal text on one line, up to the closing apostrophe. -/
def scanLiteral? : List Char → Option (List Char × List Char)
  | [] => none
  | c :: rest =>
    if c == '\'' then some ([], rest)
    else if isControl c then none
    else (scanLiteral? rest).map fun (s, rest) => (c :: s, rest)

/-- What is left after white space and line ends, in a text of several lines. -/
def skipFold : List Char → List Char
  | '\r' :: '\n' :: rest => skipFold rest
  | c :: rest => if isBlank c || c == '\n' then skipFold rest else c :: rest
  | [] => []

/-- What is left after a backslash that ends its line: nothing but blanks may follow on it. -/
def skipContinuation? (cs : List Char) : Option (List Char) :=
  (skipLineEnd? (skip cs)).map skipFold

/-- How many of one quote stand in front. -/
def countQuotes (quote : Char) (cs : List Char) : Nat :=
  (cs.takeWhile (· == quote)).length

/-- The rest of a text of several lines, up to three closing quotes; one or two quotes more
belong to the text. -/
def scanLong? (quote : Char) : Nat → List Char → Option (List Char × List Char)
  | 0, _ => none
  | _ + 1, [] => none
  | fuel + 1, c :: rest =>
    if c == quote then
      let n := countQuotes quote (c :: rest)
      if 5 < n then none
      else if 3 ≤ n then some (List.replicate (n - 3) quote, (c :: rest).drop n)
      else (scanLong? quote fuel rest).map fun (s, rest) => (c :: s, rest)
    else if c == '\\' && quote == '"' then
      match skipContinuation? rest with
      | some rest => scanLong? quote fuel rest
      | none => do
        let (c, rest) ← scanEscape? rest
        let (s, rest) ← scanLong? quote fuel rest
        return (c :: s, rest)
    else if isControl c && (skipLineEnd? (c :: rest)).isNone then none
    else (scanLong? quote fuel rest).map fun (s, rest) => (c :: s, rest)

/-- A text of several lines, whose line ends stay as they are written; a line end right after the opening quotes is dropped. -/
def scanLongText? (quote : Char) (cs : List Char) : Option (List Char × List Char) :=
  let rest := (skipLineEnd? cs).getD cs
  scanLong? quote (rest.length + 1) rest

/-! ## Keys -/

/-- The characters of a bare key. -/
def isBareKey (c : Char) : Bool :=
  c.isAlphanum && c.toNat < 0x80 || c == '_' || c == '-'

/-- One part of a key. -/
def scanKeyPart? (cs : List Char) : Option (String × List Char) :=
  match cs with
  | '"' :: rest => (scanBasic? (rest.length + 1) rest).map fun (s, rest) => (String.ofList s, rest)
  | '\'' :: rest => (scanLiteral? rest).map fun (s, rest) => (String.ofList s, rest)
  | _ =>
    let ds := cs.takeWhile isBareKey
    if ds.isEmpty then none else some (String.ofList ds, cs.drop ds.length)

/-- The parts of a key, separated by points; `fuel` bounds them. -/
def scanKeyParts? : Nat → List Char → Option (List String × List Char)
  | 0, _ => none
  | fuel + 1, cs => do
    let (part, rest) ← scanKeyPart? (skip cs)
    match skip rest with
    | '.' :: rest => (scanKeyParts? fuel rest).map fun (parts, rest) => (part :: parts, rest)
    | rest => some ([part], rest)

/-- How many parts a key may have, and how many values may lie inside each other. -/
def maxDepth : Nat := 80

/-- A key. -/
def scanKey? (cs : List Char) : Option (List String × List Char) :=
  (scanKeyParts? (cs.length + 1) cs).filter fun found => found.1.length ≤ maxDepth

/-! ## Numbers and moments -/

/-- The characters of a number, a truth value or a moment. -/
def isBareValue (c : Char) : Bool :=
  c.isAlphanum && c.toNat < 0x80 || c == '_' || c == '-' || c == '+' || c == '.' || c == ':'

/-- Digits without the underscores between them, each of which has a digit on both sides. -/
def joinDigits? (isDigit : Char → Bool) : List Char → Option (List Char)
  | [] => none
  | [c] => if isDigit c then some [c] else none
  | c :: '_' :: d :: rest =>
    if isDigit c && isDigit d then (joinDigits? isDigit (d :: rest)).map (c :: ·) else none
  | c :: rest => if isDigit c then (joinDigits? isDigit rest).map (c :: ·) else none

/-- Takes a sign off. -/
def splitSign : List Char → Bool × List Char
  | '-' :: rest => (true, rest)
  | '+' :: rest => (false, rest)
  | rest => (false, rest)

/-- Decimal digits without a needless zero in front. -/
def plainDigits? (cs : List Char) : Option (List Char) :=
  (joinDigits? Char.isDigit cs).filter fun ds => ds.length == 1 || ds.head? != some '0'

/-- A whole number of at most sixty-four bits, be they signed or not. -/
def word (negative : Bool) (n : Nat) : Document :=
  let most := if negative then Nat.pow 2 63 else Nat.pow 2 64 - 1
  if n ≤ most then .integer (if negative then -n else n) else .malformed

/-- Digits of a base that is a power of two. -/
def baseNumber? (digits : List Char) (cs : List Char) : Option Document := do
  let ds ← joinDigits? (fun c => digits.contains c.toLower) cs
  return word false (ds.foldl (fun n c => digits.length * n + digits.idxOf c.toLower) 0)

/-- A whole number. -/
def integer? (cs : List Char) : Option Document :=
  match cs with
  | '0' :: 'x' :: rest => baseNumber? "0123456789abcdef".toList rest
  | '0' :: 'o' :: rest => baseNumber? "01234567".toList rest
  | '0' :: 'b' :: rest => baseNumber? "01".toList rest
  | _ => do
    let (negative, rest) := splitSign cs
    let ds ← plainDigits? rest
    return word negative (digitsValue ds)

/-- The real with given digits and exponent; far below the format it is zero. -/
def realOf (negative : Bool) (digits : List Char) (exponent : Int) : Document :=
  let top := exponent + digits.length
  if digitsValue digits == 0 || top < -400 then .real (Binary.ofParts negative 0)
  else if 400 < top then .malformed
  else
    let x : Double := Binary.ofDecimal negative (digitsValue digits) exponent
    if x.isInfinite then .malformed else .real x

/-- An exponent. -/
def exponent? (cs : List Char) : Option Int := do
  let (negative, rest) := splitSign cs
  let ds ← joinDigits? Char.isDigit rest
  return if negative then -(digitsValue ds : Int) else digitsValue ds

/-- A real: a fraction, an exponent or both after the digits. -/
def real? (cs : List Char) : Option Document := do
  let (negative, rest) := splitSign cs
  if rest == "inf".toList then some (.real (Binary.ofParts negative Format.double.infinity))
  else if rest == "nan".toList then
    some (.real (Binary.ofParts negative (Format.double.infinity + 1)))
  else
    let (mantissa, tail) := rest.span fun c => c != 'e' && c != 'E'
    let (whole, fraction) := mantissa.span (· != '.')
    let ds ← plainDigits? whole
    let fs ← if fraction.isEmpty then some [] else joinDigits? Char.isDigit (fraction.drop 1)
    let e ← if tail.isEmpty then some 0 else exponent? (tail.drop 1)
    if fraction.isEmpty && tail.isEmpty then none
    else some (realOf negative (ds ++ fs) (e - fs.length))

/-- The value of a bare word. -/
def bareValue? (cs : List Char) : Option Document :=
  if cs == "true".toList then some (.boolean true)
  else if cs == "false".toList then some (.boolean false)
  else ((integer? cs).or (real? cs)).or ((Moment.ofText? cs).map moment)

/-- A bare word; a date goes on after one blank with its time of day. -/
def scanBare? (cs : List Char) : Option (Document × List Char) :=
  let word := cs.takeWhile isBareValue
  let rest := cs.drop word.length
  let longer := match rest with
    | ' ' :: more => (Moment.ofText? (word ++ ' ' :: more.takeWhile isBareValue)).map fun m =>
      (moment m, more.dropWhile isBareValue)
    | _ => none
  longer.or ((bareValue? word).map fun d => (d, rest))

/-! ## Tables under construction -/

/-- How a table came to be. -/
inductive Origin where
  | defined
  | implied
  | dotted
  deriving DecidableEq

/-- A part of a tree under construction. -/
inductive Node where
  | value (d : Document)
  | table (origin : Origin) (entries : List (String × Node))
  /-- A table array, last table first. -/
  | tables (items : List (List (String × Node)))

/-- The entries of a table under construction. -/
abbrev Entries := List (String × Node)

/-- Replaces the entry of a key, or adds it at the end. -/
def put (key : String) (node : Node) : Entries → Entries
  | [] => [(key, node)]
  | (k, n) :: rest => if k == key then (k, node) :: rest else (k, n) :: put key node rest

/-- Changes the table at a key path, through the last table of each array on the way; `make` is
how a missing table comes to be, and `enter` says which tables may be gone into.  The change may
depend on how the table came to be; `origin` is how the first one did. -/
def descend? (make : Origin) (enter : Origin → Bool) (change : Origin → Entries → Option Entries) :
    List String → Origin → Entries → Option Entries
  | [], origin, es => change origin es
  | key :: path, _, es =>
    match es.lookup key with
    | none => do
      let inner ← descend? make enter change path make []
      return put key (.table make inner) es
    | some (.table origin inner) =>
      if enter origin then do
        let inner ← descend? make enter change path origin inner
        return put key (.table origin inner) es
      else none
    | some (.tables (last :: before)) => do
      let last ← descend? make enter change path .defined last
      return put key (.tables (last :: before)) es
    | some _ => none

/-- Sets a key that has no value yet. -/
def set? (key : String) (d : Document) (es : Entries) : Option Entries :=
  match es.lookup key with
  | none => some (put key (.value d) es)
  | some _ => none

/-- Sets a dotted key: on the way there is no defined table, and at its end one that a dotted key
made. -/
def setDotted? (path : List String) (key : String) (d : Document) (es : Entries) :
    Option Entries :=
  if path.isEmpty then set? key d es
  else
    descend? .dotted (· != .defined)
      (fun origin es => if origin == .dotted then set? key d es else none) path .defined es

/-- Defines the table of a key. -/
def define? (key : String) (es : Entries) : Option Entries :=
  match es.lookup key with
  | none => some (put key (.table .defined []) es)
  | some (.table .implied inner) => some (put key (.table .defined inner) es)
  | some _ => none

/-- Adds a table to the array of a key. -/
def append? (key : String) (es : Entries) : Option Entries :=
  match es.lookup key with
  | none => some (put key (.tables [[]]) es)
  | some (.tables items) => some (put key (.tables ([] :: items)) es)
  | some _ => none

mutual

/-- The document of a finished node. -/
def Node.document : Node → Document
  | .value d => d
  | .table _ es => .table (entriesDocument es)
  | .tables items => .list (itemsDocument items).reverse

/-- The entries of a finished table. -/
def entriesDocument : List (String × Node) → List (String × Document)
  | [] => []
  | (key, node) :: es => (key, node.document) :: entriesDocument es

/-- The tables of a finished array. -/
def itemsDocument : List (List (String × Node)) → List Document
  | [] => []
  | es :: items => .table (entriesDocument es) :: itemsDocument items

end

/-! ## Values -/

mutual

/-- A value in front of a text; `depth` counts the lists and tables that may still be opened,
`fuel` bounds the steps. -/
def scanValue? (depth : Nat) : Nat → List Char → Option (Document × List Char)
  | 0, _ => none
  | fuel + 1, cs =>
    match cs with
    | '"' :: '"' :: '"' :: rest =>
      (scanLongText? '"' rest).map fun (s, rest) => (.text (String.ofList s), rest)
    | '"' :: rest =>
      (scanBasic? (rest.length + 1) rest).map fun (s, rest) => (.text (String.ofList s), rest)
    | '\'' :: '\'' :: '\'' :: rest =>
      (scanLongText? '\'' rest).map fun (s, rest) => (.text (String.ofList s), rest)
    | '\'' :: rest => (scanLiteral? rest).map fun (s, rest) => (.text (String.ofList s), rest)
    | '[' :: rest =>
      match depth with
      | 0 => none
      | depth + 1 => (scanItems? depth fuel rest).map fun (ds, rest) => (.list ds, rest)
    | '{' :: rest =>
      match depth with
      | 0 => none
      | depth + 1 =>
        (scanPairs? depth fuel [] rest).map fun (es, rest) => (.table (entriesDocument es), rest)
    | cs => scanBare? cs

/-- Items up to the closing bracket; a comma may follow the last one. -/
def scanItems? (depth : Nat) : Nat → List Char → Option (List Document × List Char)
  | 0, _ => none
  | fuel + 1, cs =>
    match skipLines (cs.length + 1) cs with
    | ']' :: rest => some ([], rest)
    | rest => do
      let (d, rest) ← scanValue? depth fuel rest
      match skipLines (rest.length + 1) rest with
      | ']' :: rest => some ([d], rest)
      | ',' :: rest => (scanItems? depth fuel rest).map fun (ds, rest) => (d :: ds, rest)
      | _ => none

/-- Settings up to the closing brace, added to those already read; a comma may follow the last
one. -/
def scanPairs? (depth : Nat) : Nat → Entries → List Char → Option (Entries × List Char)
  | 0, _, _ => none
  | fuel + 1, es, cs =>
    match skipLines (cs.length + 1) cs with
    | '}' :: rest => some (es, rest)
    | rest => do
      let (key, rest) ← scanKey? rest
      let rest ← skipChar? '=' (skipLines (rest.length + 1) rest)
      let (d, rest) ← scanValue? depth fuel (skipLines (rest.length + 1) rest)
      let es ← setDotted? key.dropLast (key.getLast?.getD "") d es
      match skipLines (rest.length + 1) rest with
      | '}' :: rest => some (es, rest)
      | ',' :: rest => scanPairs? depth fuel es rest
      | _ => none

end

/-! ## Lines -/

/-- A document under construction: the whole tree and the table that settings go to. -/
structure Building where
  root : Entries
  current : List String

/-- The key of a header, the opening brackets already read. -/
def scanHeader? (closing : List Char) (cs : List Char) : Option (List String × List Char) := do
  let (key, rest) ← scanKey? cs
  let rest := skip rest
  if rest.take closing.length == closing then some (key, rest.drop closing.length) else none

/-- Plays a header: goes to the table before the last part of the key and changes it there. -/
def header? (change : String → Entries → Option Entries) (key : List String) (b : Building) :
    Option Building := do
  let root ← descend? .implied (fun _ => true) (fun _ => change (key.getLast?.getD ""))
    key.dropLast .defined b.root
  return ⟨root, key⟩

/-- Plays a setting. -/
def setting? (key : List String) (d : Document) (b : Building) : Option Building := do
  let root ← descend? .implied (fun _ => true)
    (fun _ => setDotted? key.dropLast (key.getLast?.getD "") d) b.current .defined b.root
  return { b with root := root }

/-- Plays one line. -/
def line? (b : Building) (cs : List Char) : Option (Building × List Char) :=
  match cs with
  | '[' :: '[' :: rest => do
    let (key, rest) ← scanHeader? [']', ']'] rest
    return (← header? append? key b, rest)
  | '[' :: rest => do
    let (key, rest) ← scanHeader? [']'] rest
    return (← header? define? key b, rest)
  | _ => do
    let (key, rest) ← scanKey? cs
    let rest ← skipChar? '=' rest
    let (d, rest) ← scanValue? maxDepth (2 * rest.length + 2) (skip rest)
    return (← setting? key d b, rest)

/-- Plays the lines of a text; `fuel` bounds their number. -/
def lines? : Nat → Building → List Char → Option Building
  | 0, b, cs => if cs.isEmpty then some b else none
  | fuel + 1, b, cs =>
    match skipLines (cs.length + 1) cs with
    | [] => some b
    | rest => do
      let (b, rest) ← line? b rest
      lines? fuel b (← skipRestOfLine? rest)

/-- The document a text writes. -/
def read? (s : String) : Option Document := do
  let cs := match s.toList with
    | '\ufeff' :: rest => rest
    | cs => cs
  let b ← lines? (cs.length + 1) ⟨[], []⟩ cs
  return .table (entriesDocument b.root)

end WideColumn.Document.Toml
