/-
# Network addresses

Addresses of version four (four bytes) and version six (eight groups of sixteen bits), as their
usual texts.  A text of version six may leave out one run of zero groups and may write its last
two groups as a version-four address; when an address is written, the longest run of two or more
zero groups is left out, the first of them on a tie, and only an address that stands for a
version-four one ends in dotted form.
-/
import WideColumn.Text.Scan
import WideColumn.Text.Quoted

namespace WideColumn.Network

open WideColumn.Text

/-- An address of either version. -/
inductive Address where
  /-- Four bytes, most significant first, as one number. -/
  | v4 (bits : BitVec 32)
  /-- Eight groups, most significant first, as one number. -/
  | v6 (bits : BitVec 128)
  deriving DecidableEq

namespace Address

/-- Version four comes before version six; within a version the bytes decide. -/
def order : Address → Address → Ordering
  | v4 a, v4 b => compare a.toNat b.toNat
  | v4 _, v6 _ => .lt
  | v6 _, v4 _ => .gt
  | v6 a, v6 b => compare a.toNat b.toNat

/-! ## Writing -/

/-- Four bytes with points between them. -/
def dotted (n : Nat) : List Char :=
  let byte := fun shift => Nat.toDigits 10 (n / Nat.pow 2 shift % 256)
  byte 24 ++ '.' :: byte 16 ++ '.' :: byte 8 ++ '.' :: byte 0

/-- The groups of sixteen bits, most significant first. -/
def groups (n : Nat) : List Nat :=
  [112, 96, 80, 64, 48, 32, 16, 0].map fun shift => n / Nat.pow 2 shift % 65536

/-- How many zeros a row begins with. -/
def leadingZeros (gs : List Nat) : Nat :=
  (gs.takeWhile (· == 0)).length

/-- Start and length of the longest run of zeros, the first of them on a tie; `start` is the
place of the row's first group. -/
def longestZeros (start : Nat) : List Nat → Nat × Nat
  | [] => (start, 0)
  | g :: rest =>
    let here := leadingZeros (g :: rest)
    let later := longestZeros (start + 1) rest
    if later.2 ≤ here then (start, here) else later

/-- Groups in hexadecimal with colons between them. -/
def colonHex (gs : List Nat) : List Char :=
  List.intercalate [':'] (gs.map hexDigits)

/-- The written form of eight groups. -/
def groupsText (gs : List Nat) : List Char :=
  let (start, length) := longestZeros 0 gs
  if 1 < length then colonHex (gs.take start) ++ ':' :: ':' :: colonHex (gs.drop (start + length))
  else colonHex gs

/-- The written form of an address. -/
def text : Address → List Char
  | v4 bits => dotted bits.toNat
  | v6 bits =>
    let n := bits.toNat
    if n / Nat.pow 2 32 == 0xffff then
      ':' :: ':' :: 'f' :: 'f' :: 'f' :: 'f' :: ':' :: dotted (n % Nat.pow 2 32)
    else groupsText (groups n)

/-! ## Reading -/

/-- A byte in decimal, without a leading zero. -/
def scanByte? (cs : List Char) : Option (Nat × List Char) :=
  match spanDigits 3 cs with
  | ([], _) => none
  | ('0' :: _ :: _, _) => none
  | (ds, rest) =>
    if digitsValue ds < 256 && !(rest.head?.any Char.isDigit) then some (digitsValue ds, rest)
    else none

/-- Four bytes with points between them. -/
def scanDotted? (cs : List Char) : Option (Nat × List Char) := do
  let (a, rest) ← scanByte? cs
  let (b, rest) ← scanByte? (← skipChar? '.' rest)
  let (c, rest) ← scanByte? (← skipChar? '.' rest)
  let (d, rest) ← scanByte? (← skipChar? '.' rest)
  return (((a * 256 + b) * 256 + c) * 256 + d, rest)

/-- A group of one to four hexadecimal digits. -/
def scanGroup? (cs : List Char) : Option (Nat × List Char) :=
  let ds := cs.takeWhile fun c => (hexValue? c).isSome
  if ds.isEmpty || 4 < ds.length then none
  else (hexNumber? ds).map fun n => (n, cs.drop ds.length)

/-- What is left after the colon before a group, which the first group has not. -/
def skipSeparator? (first : Bool) (cs : List Char) : Option (List Char) :=
  if first then some cs else skipChar? ':' cs

/-- At most `limit` groups, read as far as they go; the flag tells that the last two of them were
written in dotted form. -/
def scanGroups (first : Bool) : Nat → List Char → List Nat × Bool × List Char
  | 0, cs => ([], false, cs)
  | limit + 1, cs =>
    match if limit == 0 then none else (skipSeparator? first cs).bind scanDotted? with
    | some (n, rest) => ([n / 65536, n % 65536], true, rest)
    | none =>
      match (skipSeparator? first cs).bind scanGroup? with
      | some (g, rest) =>
        let (gs, inDots, rest) := scanGroups false limit rest
        (g :: gs, inDots, rest)
      | none => ([], false, cs)

/-- Groups as one number. -/
def ofGroups (gs : List Nat) : Nat :=
  gs.foldl (fun n g => n * 65536 + g) 0

/-- An address of version six. -/
def scanGroupsText? (cs : List Char) : Option (Nat × List Char) :=
  let (head, inDots, rest) := scanGroups true 8 cs
  if head.length == 8 then some (ofGroups head, rest)
  else if inDots then none
  else match rest with
    | ':' :: ':' :: rest =>
      let (tail, _, rest) := scanGroups true (7 - head.length) rest
      let zeros := List.replicate (8 - head.length - tail.length) 0
      some (ofGroups (head ++ zeros ++ tail), rest)
    | _ => none

/-- The address a text writes. -/
def ofText? (s : String) : Option Address :=
  match scanDotted? s.toList with
  | some (n, []) => some (v4 (BitVec.ofNat 32 n))
  | _ =>
    match scanGroupsText? s.toList with
    | some (n, []) => some (v6 (BitVec.ofNat 128 n))
    | _ => none

end Address

end WideColumn.Network
