/-
# Reading by byte positions

A text can also be read IN PLACE: the reader keeps one position, counted in bytes, and every look
at the text is a cut at that position.  Such a cut can go wrong, since a position may lie beyond the
end of the text or in the middle of a character.  A `ByteReader` has no answer then, and none when
its steps run out.

`parseBytes` reads a type in that way, and it always has an answer, namely what `parse` says
(`parseBytes_eq`).  The reason is an invariant: the position always stands in front of the
characters that `scan` has left (`At`).  Characters are only passed over one by one, white space,
letters, digits and marks, and each of them is one byte long.
-/
import Mathlib.Data.List.TakeWhile
import WideColumn.Proofs.Type.Grammar

namespace WideColumn.TypeExpr

open WideColumn.Text (lowerAscii)

/-! ## 1. The reader -/

/-- The characters of a text from a byte position on; nothing at all if the position lies beyond
the end of the text or inside a character. -/
def tailAt? (s : String) (position : Nat) : Option (List Char) :=
  if h : String.Pos.Raw.IsValid s ⟨position⟩ then
    some (s.sliceFrom (s.pos ⟨position⟩ h)).copy.toList
  else none

/-- The part of a text between two byte positions, if it can be cut there. -/
def between? (s : String) (start stop : Nat) : Option String :=
  if h : String.Pos.Raw.IsValid s ⟨start⟩ ∧ String.Pos.Raw.IsValid s ⟨stop⟩
      ∧ start ≤ stop then
    some (s.slice (s.pos ⟨start⟩ h.1) (s.pos ⟨stop⟩ h.2.1) h.2.2).copy
  else none

/-- What is read from a position on: a value and the next position, or a failure and where; no
answer after a cut at a wrong place or when the steps run out. -/
abbrev ByteReader (α : Type) := StateT Nat (ExceptT (Nat × String) Option) α

namespace ByteReader

section Definitions

variable {α : Type} (s : String)

/-- No answer. -/
def breakOff : ByteReader α := fun _ => none

def fail (reason : String) : ByteReader α := fun position => some (.error (position, reason))

/-- The position of the reading. -/
def here : ByteReader Nat := fun position => some (.ok (position, position))

def moveTo (position : Nat) : ByteReader Unit := fun _ => some (.ok ((), position))

/-- Goes on by some bytes. -/
def advance (bytes : Nat) : ByteReader Unit :=
  fun position => some (.ok ((), position + bytes))

/-- The next character. -/
def peek : ByteReader (Option Char) := fun position =>
  (tailAt? s position).map fun cs => .ok (cs.head?, position)

def cut (start stop : Nat) : ByteReader String := fun position =>
  (between? s start stop).map fun part => .ok (part, position)

/-- Passes over characters as if each were one byte long. -/
def skipWhile (test : Char → Bool) : Nat → ByteReader Unit
  | 0 => breakOff
  | steps + 1 => do
    if (← peek s).any test then
      advance 1
      skipWhile test steps

def skipBlanks : ByteReader Unit := skipWhile s isBlank (s.toList.length + 1)

def expect (mark : Char) : ByteReader Unit := do
  skipBlanks s
  if (← peek s) = some mark then advance mark.utf8Size
  else fail ("expected '" ++ mark.toString ++ "'")

def ident : ByteReader String := do
  skipBlanks s
  let start ← here
  skipWhile s isNameChar (s.toList.length + 1)
  let stop ← here
  if start = stop then fail "expected a type name" else cut s start stop

/-- The one argument of a constructor; with more of them the reading fails where they begin. -/
def unary (name : String) (arguments : ByteReader (List TypeExpr))
    (build : TypeExpr → TypeExpr) : ByteReader TypeExpr := do
  let start ← here
  match ← arguments with
  | [e] => return build e
  | _ =>
    moveTo start
    fail (name ++ " takes exactly one type argument")

/-- The two arguments of a map. -/
def binary (arguments : ByteReader (List TypeExpr)) : ByteReader TypeExpr := do
  let start ← here
  match ← arguments with
  | [k, v] => return .map k v
  | _ =>
    moveTo start
    fail "map takes exactly two type arguments"

mutual

/-- A type; `steps` bounds the depth of the recursion. -/
def expr : Nat → ByteReader TypeExpr
  | 0 => breakOff
  | steps + 1 => do
    let name ← ident s
    match lowerAscii name with
    | "counter" => return .counter
    | "list" => unary "list" (arguments steps) .list
    | "set" => unary "set" (arguments steps) .set
    | "frozen" => unary "frozen" (arguments steps) .frozen
    | "indexed" => unary "indexed" (arguments steps) .indexed
    | "map" => binary (arguments steps)
    | "tuple" => return .tuple (← arguments steps)
    | _ => return plain name

/-- Arguments between angle brackets. -/
def arguments : Nat → ByteReader (List TypeExpr)
  | 0 => breakOff
  | steps + 1 => do
    expect s '<'
    more steps

/-- Arguments up to the closing bracket, at least one. -/
def more : Nat → ByteReader (List TypeExpr)
  | 0 => breakOff
  | steps + 1 => do
    let e ← expr steps
    skipBlanks s
    match ← peek s with
    | some ',' =>
      advance 1
      return e :: (← more steps)
    | some '>' =>
      advance 1
      return [e]
    | _ => fail "expected ',' or '>'"

end

def whole : ByteReader TypeExpr := do
  let e ← expr s (3 * s.toList.length + 1)
  skipBlanks s
  if (← here) < s.utf8ByteSize then fail "unexpected trailing input"
  return e

end Definitions

end ByteReader

/-- The type a text writes, read by byte positions. -/
def parseBytes (s : String) : Option (Except ParseError TypeExpr) :=
  match ByteReader.whole s 0 with
  | none => none
  | some (.ok (e, _)) => some (.ok e)
  | some (.error (position, reason)) => some (.error ⟨s, position, reason⟩)

/-! ## 2. Positions in front of what is left -/

variable {s : String} {c : Char} {cs rest : List Char} {position : Nat}

/-- **A position in a text stands in front of the characters that are left.** -/
def At (s : String) (position : Nat) (rest : List Char) : Prop :=
  ∃ before, s = before ++ String.ofList rest ∧ position = before.utf8ByteSize

namespace At

theorem start (s : String) : At s 0 s.toList := ⟨"", by simp, rfl⟩

theorem finish (s : String) : At s s.utf8ByteSize [] := ⟨s, by simp, rfl⟩

theorem isValid (h : At s position rest) : String.Pos.Raw.IsValid s ⟨position⟩ := by
  obtain ⟨before, hs, rfl⟩ := h
  exact String.Pos.Raw.isValid_iff_exists_append.mpr ⟨before, _, hs, rfl⟩

theorem position_eq (h : At s position rest) :
    position = s.utf8ByteSize - (String.ofList rest).utf8ByteSize := by
  obtain ⟨before, hs, rfl⟩ := h
  rw [hs, String.utf8ByteSize_append, Nat.add_sub_cancel]

theorem position_le (h : At s position rest) : position ≤ s.utf8ByteSize :=
  h.position_eq ▸ Nat.sub_le _ _

theorem length_le (h : At s position rest) : rest.length ≤ s.toList.length := by
  obtain ⟨before, hs, rfl⟩ := h
  rw [hs, String.toList_append, String.toList_ofList, List.length_append]
  omega

theorem tailAt?_eq (h : At s position rest) : tailAt? s position = some rest := by
  rw [tailAt?, dif_pos h.isValid]
  obtain ⟨before, hs, rfl⟩ := h
  have hsplits : (s.pos ⟨before.utf8ByteSize⟩ (isValid ⟨before, hs, rfl⟩)).Splits before
      (String.ofList rest) := ⟨hs, rfl⟩
  rw [hsplits.copy_sliceFrom_eq, String.toList_ofList]

theorem next (h : At s position (c :: rest)) : At s (position + c.utf8Size) rest := by
  obtain ⟨before, rfl, rfl⟩ := h
  refine ⟨before ++ String.singleton c, ?_, ?_⟩
  · rw [String.append_assoc, ← String.toList_inj]
    simp
  · rw [String.utf8ByteSize_append, String.utf8ByteSize_singleton]

/-- What stands between two positions, as the difference of what is left at them. -/
theorem split {w : List Char} {stop : Nat} (h : At s position (w ++ rest))
    (hstop : At s stop rest) :
    ∃ before, s = before ++ String.ofList w ++ String.ofList rest
      ∧ position = before.utf8ByteSize ∧ stop = (before ++ String.ofList w).utf8ByteSize := by
  obtain ⟨before, hs, rfl⟩ := h
  obtain ⟨before', hs', rfl⟩ := hstop
  rw [String.ofList_append, ← String.append_assoc] at hs
  obtain rfl : before' = before ++ String.ofList w :=
    (String.append_left_inj _).mp (hs'.symm.trans hs)
  exact ⟨before, hs, rfl, rfl⟩

theorem eq_iff {w : List Char} {stop : Nat} (h : At s position (w ++ rest))
    (hstop : At s stop rest) : position = stop ↔ w = [] := by
  obtain ⟨before, -, rfl, rfl⟩ := h.split hstop
  rw [String.utf8ByteSize_append, Nat.left_eq_add, String.utf8ByteSize_eq_zero_iff,
    String.ofList_eq_empty_iff]

theorem lt_iff (h : At s position rest) : position < s.utf8ByteSize ↔ rest ≠ [] := by
  rw [← List.append_nil rest] at h
  rw [h.position_le.lt_iff_ne, ne_eq, h.eq_iff (finish s)]

theorem between?_eq {w : List Char} {stop : Nat} (h : At s position (w ++ rest))
    (hstop : At s stop rest) : between? s position stop = some (String.ofList w) := by
  have hvalid := h.isValid
  have hvalid' := hstop.isValid
  obtain ⟨before, hs, rfl, rfl⟩ := h.split hstop
  rw [between?, dif_pos ⟨hvalid, hvalid', by rw [String.utf8ByteSize_append]; omega⟩]
  have hstart : (s.pos _ hvalid).Splits before (String.ofList w ++ String.ofList rest) :=
    ⟨by rw [hs, String.append_assoc], rfl⟩
  have hend : (s.pos _ hvalid').Splits (before ++ String.ofList w) (String.ofList rest) :=
    ⟨hs, rfl⟩
  obtain ⟨_, hpart⟩ := String.copy_slice_eq_iff_splits.mpr ⟨_, _, hstart, hend⟩
  exact congrArg some hpart

end At

namespace ByteReader

variable {α β : Type} {m : ByteReader α} {k : α → ByteReader β} {a : α} {position' : Nat}
  {f : Nat × String}

/-! ## 3. One step after the other -/

theorem bind_of_ok (h : m position = some (.ok (a, position'))) :
    (m >>= k) position = k a position' := by
  change ExceptT.bind (m position) _ = _
  rw [h]
  rfl

theorem bind_of_error (h : m position = some (.error f)) :
    (m >>= k) position = some (.error f) := by
  change ExceptT.bind (m position) _ = _
  rw [h]
  rfl

theorem bind_here {k : Nat → ByteReader β} : (here >>= k) position = k position position :=
  bind_of_ok rfl

theorem bind_moveTo {k : Unit → ByteReader β} :
    (moveTo position' >>= k) position = k () position' :=
  bind_of_ok rfl

theorem bind_advance {bytes : Nat} {k : Unit → ByteReader β} :
    (advance bytes >>= k) position = k () (position + bytes) :=
  bind_of_ok rfl

theorem peek_eq (h : At s position cs) : peek s position = some (.ok (cs.head?, position)) := by
  rw [peek, h.tailAt?_eq]
  rfl

theorem bind_peek {k : Option Char → ByteReader β} (h : At s position cs) :
    (peek s >>= k) position = k cs.head? position :=
  bind_of_ok (peek_eq h)

/-- A run of characters of one byte each is passed over. -/
theorem skipWhile_eq {test : Char → Bool} (htest : ∀ c, test c = true → c.utf8Size = 1) :
    ∀ {steps : Nat} {cs : List Char} {position : Nat}, At s position cs → cs.length < steps →
      ∃ position', At s position' (cs.dropWhile test)
        ∧ skipWhile s test steps position = some (.ok ((), position'))
  | steps + 1, [], position, h, _ => ⟨position, h, bind_of_ok (peek_eq h)⟩
  | steps + 1, c :: cs, position, h, hsteps => by
    rw [skipWhile, bind_of_ok (peek_eq h), List.head?_cons, Option.any_some]
    cases hc : test c with
    | false => exact ⟨position, by rwa [List.dropWhile_cons_of_neg (by simp [hc])], rfl⟩
    | true =>
      rw [if_pos rfl, List.dropWhile_cons_of_pos hc]
      exact skipWhile_eq htest (htest c hc ▸ h.next) (by simpa using hsteps)

theorem utf8Size_of_isBlank (h : isBlank c = true) : c.utf8Size = 1 := by
  simp only [isBlank, Bool.or_eq_true, beq_iff_eq] at h
  rcases h with (((rfl | rfl) | rfl) | rfl) | rfl <;> rfl

theorem utf8Size_of_isNameChar (h : isNameChar c = true) : c.utf8Size = 1 := by
  have hlast : c.val ≤ 'z'.val := by
    rw [isNameChar, Char.isAlphanum, Bool.or_eq_true, Bool.or_eq_true, beq_iff_eq] at h
    rcases h with (hletter | hdigit) | rfl
    · rcases (Bool.or_eq_true _ _).mp hletter with hupper | hlower
      · have hrange : 'A'.val ≤ c.val ∧ c.val ≤ 'Z'.val := of_decide_eq_true hupper
        exact UInt32.le_trans hrange.2 (by decide)
      · exact of_decide_eq_true ((Bool.and_eq_true _ _).mp hlower).2
    · have hrange : c.val ≤ '9'.val := of_decide_eq_true ((Bool.and_eq_true _ _).mp hdigit).2
      exact UInt32.le_trans hrange (by decide)
    · decide
  exact Char.utf8Size_eq_one_iff.mpr (UInt32.le_trans hlast (by decide))

theorem skipBlanks_eq (h : At s position cs) : ∃ position', At s position' (skip cs)
    ∧ skipBlanks s position = some (.ok ((), position')) :=
  skipWhile_eq (fun _ => utf8Size_of_isBlank) h (Nat.lt_succ_of_le h.length_le)

/-! ## 4. Each reader beside the one on characters -/

/-- **A reading by bytes goes as one on characters does**: the same value or the same failure, and
a position in front of what the other has left. -/
def Reads (s : String) (outcome : Option (Except (Nat × String) (α × Nat))) :
    Except Failure (α × List Char) → Prop
  | .ok (a, rest) => ∃ position, At s position rest ∧ outcome = some (.ok (a, position))
  | .error f => ∃ position, At s position f.rest ∧ outcome = some (.error (position, f.reason))

theorem Reads.bind {r : Except Failure (α × List Char)}
    {g : α × List Char → Except Failure (β × List Char)} (h : Reads s (m position) r)
    (hk : ∀ a rest position', r = .ok (a, rest) → At s position' rest →
      Reads s (k a position') (g (a, rest))) : Reads s ((m >>= k) position) (r >>= g) := by
  cases r with
  | error f =>
    obtain ⟨position', hat, heq⟩ := h
    exact ⟨position', hat, bind_of_error heq⟩
  | ok result =>
    obtain ⟨a, rest⟩ := result
    obtain ⟨position', hat, heq⟩ := h
    rw [bind_of_ok heq]
    exact hk a rest position' rfl hat

theorem Reads.map {r : Except Failure (α × List Char)} {g : α → β}
    (h : Reads s (m position) r) :
    Reads s ((m >>= fun a => pure (g a)) position) (r.map fun (a, rest) => (g a, rest)) := by
  cases r with
  | error f =>
    obtain ⟨position', hat, heq⟩ := h
    exact ⟨position', hat, bind_of_error heq⟩
  | ok result =>
    obtain ⟨position', hat, heq⟩ := h
    exact ⟨position', hat, bind_of_ok heq⟩

theorem reads_fail {reason : String} (h : At s position cs) :
    Reads (α := α) s (fail reason position) (.error ⟨reason, cs⟩) :=
  ⟨position, h, rfl⟩

theorem reads_pure {a : α} (h : At s position cs) :
    Reads s ((pure a : ByteReader α) position) (.ok (a, cs)) :=
  ⟨position, h, rfl⟩

theorem reads_ident (h : At s position cs) : Reads s (ident s position) (scanName cs) := by
  obtain ⟨start, hstart, hskip⟩ := skipBlanks_eq h
  obtain ⟨stop, hstop, hname⟩ := skipWhile_eq (fun _ => utf8Size_of_isNameChar) hstart
    (Nat.lt_succ_of_le hstart.length_le)
  rw [ident, bind_of_ok hskip, bind_here, bind_of_ok hname, bind_here, scanName]
  have hparts : At s start ((skip cs).takeWhile isNameChar ++ (skip cs).dropWhile isNameChar) := by
    rwa [List.takeWhile_append_dropWhile]
  simp only [drop_length_takeWhile, List.isEmpty_iff, hparts.eq_iff hstop]
  split
  · rename_i hnone
    rw [(hparts.eq_iff hstop).mpr hnone] at hstart
    exact reads_fail hstart
  · rw [cut, hparts.between?_eq hstop]
    exact ⟨stop, hstop, rfl⟩

theorem reads_expect {mark : Char} {k : ByteReader α}
    {g : List Char → Except Failure (α × List Char)} (h : At s position cs)
    (hk : ∀ rest position', skipMark mark cs = .ok rest → At s position' rest →
      Reads s (k position') (g rest)) :
    Reads s ((do expect s mark; k) position) (skipMark mark cs >>= g) := by
  obtain ⟨start, hstart, hskip⟩ := skipBlanks_eq h
  have hexpect : expect s mark position =
      (if (skip cs).head? = some mark then advance mark.utf8Size
        else fail ("expected '" ++ mark.toString ++ "'")) start := by
    rw [expect, bind_of_ok hskip, bind_peek hstart]
  cases hcs : skip cs with
  | nil =>
    rw [hcs] at hstart hexpect
    have hmark : skipMark mark cs = .error ⟨"expected '" ++ mark.toString ++ "'", []⟩ := by
      simp only [skipMark, hcs]
    rw [hmark]
    exact ⟨start, hstart, bind_of_error hexpect⟩
  | cons c rest =>
    rw [hcs] at hstart hexpect
    by_cases hc : c = mark
    · subst hc
      rw [List.head?_cons, if_pos rfl] at hexpect
      have hmark := skipMark_eq_ok_iff.mpr hcs
      rw [hmark, bind_of_ok hexpect]
      exact hk rest _ hmark hstart.next
    · rw [List.head?_cons, if_neg (by simpa using hc)] at hexpect
      have hmark : skipMark mark cs =
          .error ⟨"expected '" ++ mark.toString ++ "'", c :: rest⟩ := by
        simp only [skipMark, hcs, beq_iff_eq, hc, if_false]
      rw [hmark]
      exact ⟨start, hstart, bind_of_error hexpect⟩

theorem reads_unary {name : String} {args : ByteReader (List TypeExpr)}
    {build : TypeExpr → TypeExpr} {r : Except Failure (List TypeExpr × List Char)}
    (h : At s position cs) (hargs : Reads s (args position) r) :
    Reads s (unary name args build position) (r.bind (TypeExpr.unary name cs build)) := by
  rw [unary, bind_here]
  refine hargs.bind fun es rest position' _ hrest => ?_
  split
  · exact reads_pure hrest
  · rename_i hes
    rw [bind_moveTo, TypeExpr.unary.eq_def]
    split
    · rename_i heq
      cases heq
      exact absurd rfl (hes _)
    · exact reads_fail h

theorem reads_binary {args : ByteReader (List TypeExpr)}
    {r : Except Failure (List TypeExpr × List Char)} (h : At s position cs)
    (hargs : Reads s (args position) r) :
    Reads s (binary args position) (r.bind (TypeExpr.binary cs)) := by
  rw [binary, bind_here]
  refine hargs.bind fun es rest position' _ hrest => ?_
  split
  · exact reads_pure hrest
  · rename_i hes
    rw [bind_moveTo, TypeExpr.binary.eq_def]
    split
    · rename_i heq
      cases heq
      exact absurd rfl (hes _ _)
    · exact reads_fail h

theorem length_skip_le (cs : List Char) : (skip cs).length ≤ cs.length :=
  (List.dropWhile_suffix _).length_le

/-- The recursive readers.  By induction on the bound of steps, which is wide enough: a type takes a
character at least, and no more than three steps lead from one type to the next. -/
theorem reads_expr (fuel : Nat) :
    (∀ {position cs}, At s position cs → 3 * cs.length + 1 ≤ fuel →
      Reads s (expr s fuel position) (scan fuel cs))
    ∧ (∀ {position cs}, At s position cs → 3 * cs.length + 3 ≤ fuel →
      Reads s (arguments s fuel position) (scanArguments fuel cs))
    ∧ ∀ {position cs}, At s position cs → 3 * cs.length + 2 ≤ fuel →
      Reads s (more s fuel position) (scanMore fuel cs) := by
  induction fuel with
  | zero => exact ⟨nofun, nofun, nofun⟩
  | succ fuel ih =>
    obtain ⟨ihType, ihArguments, ihMore⟩ := ih
    refine ⟨?type, ?arguments, ?more⟩
    case type =>
      intro position cs h hfuel
      rw [expr, scan]
      refine (reads_ident h).bind fun name rest position' hname hrest => ?_
      have hlength : rest.length < cs.length := by
        obtain ⟨hisName, hskip, -⟩ := scanName_eq_ok_iff.mp hname
        have hle := length_skip_le cs
        have hpos := List.length_pos_iff.mpr hisName.nonempty
        rw [hskip, List.length_append] at hle
        omega
      have hargs := ihArguments hrest (by omega)
      simp only
      generalize lowerAscii name = word
      by_cases hcounter : word = "counter"
      · subst hcounter
        exact reads_pure hrest
      by_cases hlist : word = "list"
      · subst hlist
        exact reads_unary hrest hargs
      by_cases hset : word = "set"
      · subst hset
        exact reads_unary hrest hargs
      by_cases hfrozen : word = "frozen"
      · subst hfrozen
        exact reads_unary hrest hargs
      by_cases hindexed : word = "indexed"
      · subst hindexed
        exact reads_unary hrest hargs
      by_cases hmap : word = "map"
      · subst hmap
        exact reads_binary hrest hargs
      by_cases htuple : word = "tuple"
      · subst htuple
        exact hargs.map
      · simp only
        exact reads_pure hrest
    case arguments =>
      intro position cs h hfuel
      rw [arguments, scanArguments]
      refine reads_expect h fun rest position' hmark hrest => ihMore hrest ?_
      have hle := length_skip_le cs
      rw [skipMark_eq_ok_iff.mp hmark, List.length_cons] at hle
      omega
    case more =>
      intro position cs h hfuel
      rw [more, scanMore]
      refine (ihType h (by omega)).bind fun e rest position' hscan hrest => ?_
      obtain ⟨start, hstart, hskip⟩ := skipBlanks_eq hrest
      rw [bind_of_ok hskip, bind_peek hstart]
      have hlength : (skip rest).length ≤ cs.length := by
        obtain ⟨d, front, -, rfl, -⟩ := (derives_of_scan fuel).1 hscan
        exact (length_skip_le rest).trans (by simp)
      simp only
      generalize skip rest = left at hstart hlength
      split
      · rw [List.length_cons] at hlength
        simp only [List.head?_cons, bind_advance]
        exact (ihMore hstart.next (by omega)).map
      · simp only [List.head?_cons, bind_advance]
        exact reads_pure hstart.next
      · rename_i hcomma hclosing
        generalize hhead : left.head? = head
        split
        · obtain ⟨rest', hleft⟩ := List.head?_eq_some_iff.mp hhead
          exact (hcomma rest' hleft).elim
        · obtain ⟨rest', hleft⟩ := List.head?_eq_some_iff.mp hhead
          exact (hclosing rest' hleft).elim
        · exact reads_fail hstart

theorem reads_whole (s : String) :
    Reads s (whole s 0) ((scanAll s.toList).map fun e => (e, [])) := by
  have hexpr := (reads_expr (3 * s.toList.length + 1)).1 (At.start s) le_rfl
  rw [whole, scanAll]
  cases hscan : scan (3 * s.toList.length + 1) s.toList with
  | error f =>
    rw [hscan] at hexpr
    obtain ⟨position, hat, heq⟩ := hexpr
    exact ⟨position, hat, bind_of_error heq⟩
  | ok result =>
    obtain ⟨e, rest⟩ := result
    rw [hscan] at hexpr
    obtain ⟨position, hat, heq⟩ := hexpr
    obtain ⟨stop, hstop, hskip⟩ := skipBlanks_eq hat
    rw [bind_of_ok heq, bind_of_ok hskip, bind_here]
    simp only [hstop.lt_iff]
    rw [Except.ok_bind]
    generalize skip rest = left at hstop
    cases left with
    | nil => exact reads_pure hstop
    | cons c left => exact reads_fail hstop

end ByteReader

/-! ## 5. What parsing accepts, and where it fails -/

/-- **Reading by bytes always has an answer**, and it is what is read from the characters. -/
theorem parseBytes_eq (s : String) : parseBytes s = some (parse s) := by
  rw [parseBytes, parse]
  have h := ByteReader.reads_whole s
  cases hscan : scanAll s.toList with
  | ok e =>
    rw [hscan] at h
    obtain ⟨position, -, heq⟩ := h
    rw [heq]
    rfl
  | error f =>
    rw [hscan] at h
    obtain ⟨position, hat, heq⟩ := h
    rw [heq, hat.position_eq]
    rfl

/-- A failure stands in front of some characters of the text. -/
theorem at_of_parse {f : ParseError} (h : parse s = .error f) :
    ∃ rest, At s f.position rest := by
  obtain ⟨f', hscan, rfl⟩ := Except.mapError_eq_error_iff.mp h
  have h := ByteReader.reads_whole s
  rw [hscan] at h
  obtain ⟨position, hat, -⟩ := h
  exact ⟨f'.rest, hat.position_eq ▸ hat⟩

/-- **Parsing accepts exactly the grammar, and always answers.**  Read by byte positions, every text
gets the answer of `parse`.  That is a type exactly if the text is derived as this type, and no text
has two derivations.  A failure is reported at a place between two characters, the ends of the text
included. -/
theorem parse_exact (s : String) :
    parseBytes s = some (parse s)
    ∧ (∀ e, parse s = .ok e ↔ ∃ d : Derivation, d.Derives e ∧ Laid d.tokens s.toList)
    ∧ (∀ d d' : Derivation, Laid d.tokens s.toList → Laid d'.tokens s.toList → d = d')
    ∧ ∀ f, parse s = .error f →
      f.position ≤ s.utf8ByteSize ∧ String.Pos.Raw.IsValid s ⟨f.position⟩ := by
  refine ⟨parseBytes_eq s, fun e => ⟨derives_of_parse, ?_⟩, fun d d' => eq_of_laid, ?_⟩
  · rintro ⟨d, hd, hlaid⟩
    exact parse_of_derives hd hlaid
  · intro f hf
    obtain ⟨rest, hat⟩ := at_of_parse hf
    exact ⟨hat.position_le, hat.isValid⟩

/-- White space and letter case do not matter in the first text; the second is no type because of
a letter that takes two bytes. -/
theorem parse_exact_of_map :
    (∃ (e : TypeExpr) (d : Derivation), parse " MAP < text , Indexed<bigint> > " = .ok e
      ∧ e.text = "map<text, indexed<bigint>>"
      ∧ d.Derives e ∧ Laid d.tokens " MAP < text , Indexed<bigint> > ".toList)
    ∧ ∃ f, parse "tuple<int, ñ>" = .error f ∧ f.position = 11
      ∧ String.Pos.Raw.IsValid "tuple<int, ñ>" ⟨f.position⟩ := by
  constructor
  · have hread : (parse " MAP < text , Indexed<bigint> > ").toOption.map text =
        some "map<text, indexed<bigint>>" := by decide +kernel
    obtain ⟨e, hparse, htext⟩ := Option.map_eq_some_iff.mp hread
    rw [Except.toOption_eq_some_iff] at hparse
    obtain ⟨d, hd, hlaid⟩ := ((parse_exact _).2.1 e).mp hparse
    exact ⟨e, d, hparse, htext, hd, hlaid⟩
  · have hread : (match parse "tuple<int, ñ>" with
        | .ok _ => none
        | .error f => some f.position) = some 11 := by decide +kernel
    cases hparse : parse "tuple<int, ñ>" with
    | ok e => simp [hparse] at hread
    | error f =>
      rw [hparse] at hread
      exact ⟨f, rfl, Option.some.inj hread, ((parse_exact _).2.2.2 f hparse).2⟩

end WideColumn.TypeExpr
