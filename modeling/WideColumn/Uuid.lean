/-
# Universally unique identifiers

A hundred and twenty-eight bits, written as thirty-two hexadecimal digits in groups of eight,
four, four, four and twelve.  Reading also takes the digits without hyphens, in braces, or after
the name of their registry.
-/
import WideColumn.Text.Scan
import WideColumn.Text.Quoted

namespace WideColumn

open WideColumn.Text

/-- An identifier of a hundred and twenty-eight bits. -/
structure Uuid where
  bits : BitVec 128
  deriving DecidableEq

namespace Uuid

/-- Identifiers compare by their bytes, most significant first. -/
def order (a b : Uuid) : Ordering :=
  compare a.bits.toNat b.bits.toNat

/-- The thirty-two digits. -/
def digits (u : Uuid) : List Char :=
  let ds := hexDigits u.bits.toNat
  List.replicate (32 - ds.length) '0' ++ ds

/-- Cuts a row of digits into groups of the given lengths. -/
def cutGroups : List Nat → List Char → List (List Char)
  | [], _ => []
  | n :: ns, cs => cs.take n :: cutGroups ns (cs.drop n)

/-- The lengths of the groups. -/
def groupLengths : List Nat := [8, 4, 4, 4, 12]

/-- The written form. -/
def text (u : Uuid) : List Char :=
  List.intercalate ['-'] (cutGroups groupLengths u.digits)

/-- The identifier of thirty-two digits without hyphens. -/
def ofDigits? (cs : List Char) : Option Uuid :=
  if cs.length == 32 then (hexNumber? cs).map fun n => ⟨BitVec.ofNat 128 n⟩ else none

/-- The identifier of digits with hyphens in their places. -/
def ofHyphenated? (cs : List Char) : Option Uuid :=
  let ds := cs.filter (· != '-')
  if List.intercalate ['-'] (cutGroups groupLengths ds) == cs then ofDigits? ds else none

/-- The identifier a text writes. -/
def ofText? (s : String) : Option Uuid :=
  let cs := s.toList
  let registry := "urn:uuid:".toList
  if cs.length == 32 then ofDigits? cs
  else if cs.take registry.length == registry then ofHyphenated? (cs.drop registry.length)
  else match cs with
    | '{' :: rest =>
      if rest.getLast? == some '}' then ofHyphenated? rest.dropLast else none
    | _ => ofHyphenated? cs

end Uuid

end WideColumn
