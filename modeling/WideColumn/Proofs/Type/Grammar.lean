/-
# The grammar of type expressions

A text is cut into TOKENS, names and the marks `<`, `,` and `>`, with white space allowed around
each (`Laid`).  A DERIVATION is the tree that the rules of the grammar build over tokens: a name
alone, or a name with one or more derivations between angle brackets (`Derivation`).  The rules
themselves are two short lists: what a name stands for alone (`Alone`), and what a keyword makes of
its arguments (`Applied`).

Reading a text and deriving it are the same.  Both directions rest on one equation for each step of
the reading (`scan_eq_ok_iff` and the two after it), which says what that step can do.

* What is read is derived (`derives_of_parse`): by induction on the bound of steps.
* What is derived is read (`parse_of_derives`): by induction on the derivation.  Every token takes
  at most one step, so the bound, three for each character, is never met.
* No text has two derivations (`eq_of_laid`), whatever the rules say of them: a name ends where its
  run of characters ends, and behind a type stands a mark or nothing.
-/
import Mathlib.Data.List.TakeWhile
import Mathlib.Tactic.ByContra
import WideColumn.Proofs.Except
import WideColumn.Proofs.Type.Leaf
import WideColumn.Type.Parser

namespace WideColumn.TypeExpr

open WideColumn.Text (lowerAscii)

variable {cs rest after : List Char} {name : String} {fuel : Nat} {e : TypeExpr}
  {es : List TypeExpr}

/-! ## 1. What the readers of names and marks take -/

/-- **A name** is a run of ASCII letters, digits and underscores, and not an empty one. -/
structure IsName (name : String) : Prop where
  nonempty : name.toList ≠ []
  chars : ∀ c ∈ name.toList, isNameChar c = true

instance (name : String) : Decidable (IsName name) :=
  decidable_of_iff (name.toList ≠ [] ∧ name.toList.all isNameChar = true)
    ⟨fun h => ⟨h.1, List.all_eq_true.mp h.2⟩, fun h => ⟨h.nonempty, List.all_eq_true.mpr h.chars⟩⟩

theorem isNameChar_of_isBlank {c : Char} (h : isBlank c = true) : isNameChar c = false := by
  simp only [isBlank, Bool.or_eq_true, beq_iff_eq] at h
  rcases h with (((rfl | rfl) | rfl) | rfl) | rfl <;> decide

theorem drop_length_takeWhile (p : Char → Bool) (cs : List Char) :
    cs.drop (cs.takeWhile p).length = cs.dropWhile p := by
  induction cs with
  | nil => rfl
  | cons c cs ih => by_cases h : p c <;> simp [h, ih]

/-- A name is read up to the end of its run. -/
theorem scanName_eq_ok_iff : scanName cs = .ok (name, rest) ↔
    IsName name ∧ skip cs = name.toList ++ rest ∧ ∀ c ∈ rest.head?, isNameChar c = false := by
  have hdrop := drop_length_takeWhile isNameChar (skip cs)
  rw [scanName]
  constructor
  · intro h
    split at h
    · cases h
    · rename_i hsome
      cases h
      rw [hdrop, String.toList_ofList, List.takeWhile_append_dropWhile]
      refine ⟨⟨by simpa using hsome, ?_⟩, rfl, ?_⟩
      · simpa using fun c hc => List.all_eq_true.mp List.all_takeWhile c hc
      · intro c hc
        have hstop := List.head?_dropWhile_not isNameChar (skip cs)
        rw [Option.mem_def.mp hc] at hstop
        simpa using hstop
  · rintro ⟨⟨hne, hchars⟩, hskip, hstops⟩
    have hnone : rest.takeWhile isNameChar = [] := by
      cases rest with
      | nil => rfl
      | cons c rest => exact List.takeWhile_cons_of_neg (by simp [hstops c rfl])
    have htake : (skip cs).takeWhile isNameChar = name.toList := by
      rw [hskip, List.takeWhile_append_of_pos hchars, hnone, List.append_nil]
    simp only [htake]
    rw [if_neg (by simpa using hne), hskip, List.drop_left, String.ofList_toList]

theorem skipMark_eq_ok_iff {mark : Char} :
    skipMark mark cs = .ok rest ↔ skip cs = mark :: rest := by
  rw [skipMark]
  split
  · rename_i h
    simp [h]
  · rename_i c rest' h
    rw [h]
    by_cases hc : c = mark <;> simp [hc]

/-! ## 2. The rules of the grammar, and the steps of the reading -/

/-- **What a name stands for without arguments**: the counter, a scalar type, or else a user type
that goes by the name.  The names of constructors and markers stand for nothing alone. -/
inductive Alone (name : String) : TypeExpr → Prop
  | counter (h : lowerAscii name = "counter") : Alone name .counter
  | scalar {s : Scalar} (h : lowerAscii name = s.name) : Alone name (.scalar s)
  | udt (h : Leaf.isTypeWord name = false) : Alone name (.udt name)

/-- **What a keyword makes of its arguments**, of which there is at least one. -/
inductive Applied : String → List TypeExpr → TypeExpr → Prop
  | list {e : TypeExpr} : Applied "list" [e] (.list e)
  | set {e : TypeExpr} : Applied "set" [e] (.set e)
  | frozen {e : TypeExpr} : Applied "frozen" [e] (.frozen e)
  | indexed {e : TypeExpr} : Applied "indexed" [e] (.indexed e)
  | map {k v : TypeExpr} : Applied "map" [k, v] (.map k v)
  | tuple {es : List TypeExpr} : Applied "tuple" es (.tuple es)

theorem ofName?_eq_some_iff {s : Scalar} :
    Scalar.ofName? name = some s ↔ lowerAscii name = s.name := by
  constructor
  · intro h
    rw [Scalar.ofName?] at h
    have hfound := List.find?_some h
    exact (beq_iff_eq.mp hfound).symm
  · intro h
    rw [Scalar.ofName?, h]
    cases s <;> decide +kernel

theorem bind_unary_eq_ok_iff {args : Except Failure (List TypeExpr × List Char)}
    {build : TypeExpr → TypeExpr} :
    args.bind (unary name rest build) = .ok (e, after) ↔
      ∃ inner, args = .ok ([inner], after) ∧ e = build inner := by
  cases args with
  | error f => simp [Except.bind]
  | ok result =>
    obtain ⟨es, after'⟩ := result
    rw [Except.bind, unary.eq_def]
    split <;> grind

theorem bind_binary_eq_ok_iff {args : Except Failure (List TypeExpr × List Char)} :
    args.bind (binary rest) = .ok (e, after) ↔
      ∃ k v, args = .ok ([k, v], after) ∧ e = .map k v := by
  cases args with
  | error f => simp [Except.bind]
  | ok result =>
    obtain ⟨es, after'⟩ := result
    rw [Except.bind, binary.eq_def]
    split <;> grind

/-- **Reading a type** is reading a name and then applying a rule to it. -/
theorem scan_eq_ok_iff : scan (fuel + 1) cs = .ok (e, after) ↔ ∃ name rest,
    scanName cs = .ok (name, rest) ∧ (Alone name e ∧ rest = after ∨
      ∃ es, scanArguments fuel rest = .ok (es, after) ∧ Applied (lowerAscii name) es e) := by
  rw [scan, Except.bind_eq_ok_iff]
  simp only [Prod.exists]
  refine exists_congr fun name => exists_congr fun rest => and_congr_right fun _ => ?_
  constructor
  · intro h
    split at h
    · cases h
      exact .inl ⟨.counter ‹_›, rfl⟩
    iterate 4
      rename_i hname
      obtain ⟨inner, hargs, rfl⟩ := bind_unary_eq_ok_iff.mp h
      exact .inr ⟨[inner], hargs, hname ▸ by constructor⟩
    · rename_i hname
      obtain ⟨k, v, hargs, rfl⟩ := bind_binary_eq_ok_iff.mp h
      exact .inr ⟨[k, v], hargs, hname ▸ .map⟩
    · rename_i hname
      obtain ⟨⟨es, after'⟩, hargs, heq⟩ := Except.map_eq_ok_iff.mp h
      cases heq
      exact .inr ⟨es, hargs, hname ▸ .tuple⟩
    · rename_i hcounter hlist hset hfrozen hindexed hmap htuple
      cases h
      refine .inl ⟨?_, rfl⟩
      rw [plain]
      split
      · rename_i hscalar
        exact .scalar (ofName?_eq_some_iff.mp hscalar)
      · rename_i hscalar
        have hother : lowerAscii name ∉ Leaf.typeWords := by
          simpa [Leaf.typeWords] using ⟨hcounter, hlist, hset, hfrozen, hindexed, hmap, htuple⟩
        exact .udt (by simp [Leaf.isTypeWord, hscalar, hother])
  · rintro (⟨halone, rfl⟩ | ⟨es, hargs, happlied⟩)
    · cases halone with
      | counter h => simp [h]
      | @scalar s h =>
        have hplain : plain name = .scalar s := by rw [plain, ofName?_eq_some_iff.mpr h]
        rw [h, hplain]
        cases s <;> rfl
      | udt h =>
        rw [Leaf.isTypeWord, Bool.or_eq_false_iff, Option.isSome_eq_false_iff,
          Option.isNone_iff_eq_none] at h
        have hplain : plain name = .udt name := by rw [plain, h.2]
        have hother : lowerAscii name ∉ Leaf.typeWords := by simpa using h.1
        rw [hplain]
        split <;> simp_all [Leaf.typeWords]
    · generalize lowerAscii name = keyword at happlied ⊢
      cases happlied <;> simp [hargs, Except.bind, unary, binary, Except.map]

theorem scanArguments_eq_ok_iff : scanArguments (fuel + 1) cs = .ok (es, after) ↔
    ∃ rest, skip cs = '<' :: rest ∧ scanMore fuel rest = .ok (es, after) := by
  rw [scanArguments, Except.bind_eq_ok_iff]
  simp only [skipMark_eq_ok_iff]

/-- **Reading arguments** is reading a type and then the closing bracket, or a comma and the other
arguments. -/
theorem scanMore_eq_ok_iff : scanMore (fuel + 1) cs = .ok (es, after) ↔ ∃ e rest,
    scan fuel cs = .ok (e, rest) ∧ (skip rest = '>' :: after ∧ es = [e] ∨
      ∃ rest' es', skip rest = ',' :: rest' ∧ scanMore fuel rest' = .ok (es', after)
        ∧ es = e :: es') := by
  rw [scanMore, Except.bind_eq_ok_iff]
  simp only [Prod.exists]
  refine exists_congr fun e => exists_congr fun rest => and_congr_right fun _ => ?_
  split
  · rename_i rest' hskip
    rw [Except.map_eq_ok_iff, hskip]
    grind
  · rename_i rest' hskip
    rw [hskip]
    grind
  · grind

/-- A whole text: a type, and white space at most behind it. -/
theorem parse_eq_ok_iff {text : String} : parse text = .ok e ↔ ∃ rest,
    scan (3 * text.toList.length + 1) text.toList = .ok (e, rest) ∧ skip rest = [] := by
  rw [parse, Except.mapError_eq_ok_iff, scanAll, Except.bind_eq_ok_iff]
  constructor
  · rintro ⟨⟨e', rest⟩, hscan, h⟩
    simp only at h
    split at h
    · rename_i hend
      cases h
      exact ⟨rest, hscan, hend⟩
    · cases h
  · rintro ⟨rest, hscan, hend⟩
    exact ⟨(e, rest), hscan, by simp only [hend]⟩

/-! ## 3. Texts as rows of tokens -/

/-- A name as a token. -/
@[ext]
structure Word where
  text : String
  isName : IsName text

inductive Token where
  | word (w : Word)
  | opening
  | comma
  | closing

namespace Token

/-- How a token is written. -/
def chars : Token → List Char
  | word w => w.text.toList
  | opening => ['<']
  | comma => [',']
  | closing => ['>']

/-- Whether a token may stand behind a type. -/
def endsType : Token → Bool
  | comma | closing => true
  | word _ | opening => false

/-- No token begins with white space. -/
theorem exists_chars (t : Token) : ∃ c rest, t.chars = c :: rest ∧ isBlank c = false := by
  cases t with
  | word w =>
    obtain ⟨c, rest, hc⟩ := List.exists_cons_of_ne_nil w.isName.nonempty
    refine ⟨c, rest, hc, ?_⟩
    by_contra hblank
    have hname := w.isName.chars c (hc ▸ List.mem_cons_self)
    rw [isNameChar_of_isBlank (by simpa using hblank)] at hname
    cases hname
  | opening | comma | closing => exact ⟨_, _, rfl, rfl⟩

end Token

variable {t : Token} {ts us : List Token} {w : Word}

/-- **A text is laid out as tokens**: they are written in it one behind the other, with white space
allowed in front of each and at the end. -/
def Laid : List Token → List Char → Prop
  | [], cs => ∀ c ∈ cs, isBlank c = true
  | t :: ts, cs => ∃ blanks rest,
      (∀ c ∈ blanks, isBlank c = true) ∧ cs = blanks ++ t.chars ++ rest ∧ Laid ts rest

theorem skip_append {blanks : List Char} (h : ∀ c ∈ blanks, isBlank c = true) :
    skip (blanks ++ cs) = skip cs := by
  rw [skip, List.dropWhile_append_of_pos h]
  rfl

theorem exists_blanks (cs : List Char) :
    ∃ blanks, (∀ c ∈ blanks, isBlank c = true) ∧ cs = blanks ++ skip cs :=
  ⟨cs.takeWhile isBlank, fun c hc => List.all_eq_true.mp List.all_takeWhile c hc,
    List.takeWhile_append_dropWhile.symm⟩

/-- What is found behind white space is laid out in front of what is left. -/
theorem exists_laid_of_skip (h : skip cs = t.chars ++ rest) :
    ∃ front, cs = front ++ rest ∧ Laid [t] front := by
  obtain ⟨blanks, hblanks, hcs⟩ := exists_blanks cs
  exact ⟨blanks ++ t.chars, by rw [hcs, h, List.append_assoc],
    blanks, [], hblanks, (List.append_nil _).symm, nofun⟩

namespace Laid

theorem nil_iff : Laid [] cs ↔ skip cs = [] := by
  rw [Laid, skip, List.dropWhile_eq_nil_iff]

theorem cons_iff : Laid (t :: ts) cs ↔ ∃ rest, skip cs = t.chars ++ rest ∧ Laid ts rest := by
  constructor
  · rintro ⟨blanks, rest, hblanks, rfl, hrest⟩
    refine ⟨rest, ?_, hrest⟩
    obtain ⟨c, chars, hchars, hc⟩ := t.exists_chars
    rw [List.append_assoc, skip_append hblanks, hchars, List.cons_append, skip,
      List.dropWhile_cons_of_neg (by simp [hc])]
  · rintro ⟨rest, hskip, hrest⟩
    obtain ⟨blanks, hblanks, hcs⟩ := exists_blanks cs
    exact ⟨blanks, rest, hblanks, by rw [hcs, hskip, List.append_assoc], hrest⟩

theorem single (t : Token) : Laid [t] t.chars :=
  ⟨[], [], nofun, by simp, nofun⟩

theorem append : ∀ {ts : List Token} {cs : List Char}, Laid ts cs → ∀ {us rest}, Laid us rest →
    Laid (ts ++ us) (cs ++ rest)
  | [], cs, h, us, rest, hrest => by
    cases us with
    | nil => exact List.forall_mem_append.mpr ⟨h, hrest⟩
    | cons u us =>
      obtain ⟨blanks, after, hblanks, rfl, hafter⟩ := hrest
      exact ⟨cs ++ blanks, after, List.forall_mem_append.mpr ⟨h, hblanks⟩, by simp, hafter⟩
  | t :: ts, _, ⟨blanks, after, hblanks, hcs, hafter⟩, us, rest, hrest =>
    ⟨blanks, after ++ rest, hblanks, by simp [hcs], hafter.append hrest⟩

/-- A text has at least as many characters as tokens. -/
theorem length_le : ∀ {ts : List Token} {cs : List Char}, Laid ts cs → ts.length ≤ cs.length
  | [], _, _ => Nat.zero_le _
  | t :: ts, _, ⟨blanks, rest, _, hcs, hrest⟩ => by
    obtain ⟨c, chars, hchars, -⟩ := t.exists_chars
    have hle := hrest.length_le
    simp only [hcs, hchars, List.length_append, List.length_cons]
    omega

/-- A text that begins with no name does not go on with the characters of one. -/
theorem stops (h : Laid us cs) (hfree : ∀ w vs, us ≠ .word w :: vs) :
    ∀ c ∈ cs.head?, isNameChar c = false := by
  intro c hc
  cases us with
  | nil => exact isNameChar_of_isBlank (h c (List.mem_of_mem_head? hc))
  | cons u us =>
    obtain ⟨blanks, rest, hblanks, rfl, -⟩ := h
    cases blanks with
    | cons b blanks =>
      cases hc
      exact isNameChar_of_isBlank (hblanks _ List.mem_cons_self)
    | nil =>
      cases u with
      | word w => exact absurd rfl (hfree w us)
      | opening | comma | closing => cases hc; rfl

end Laid

/-- A name that a text begins with is read from it. -/
theorem scanName_of_laid (h : Laid (.word w :: ts) cs) (hfree : ∀ w vs, ts ≠ .word w :: vs) :
    ∃ rest, scanName cs = .ok (w.text, rest) ∧ Laid ts rest := by
  obtain ⟨rest, hskip, hrest⟩ := Laid.cons_iff.mp h
  exact ⟨rest, scanName_eq_ok_iff.mpr ⟨w.isName, hskip, hrest.stops hfree⟩, hrest⟩

/-- What may follow a type: nothing, or first a comma or a closing bracket. -/
def Ends (ts : List Token) : Prop := ∀ t ∈ ts.head?, t.endsType = true

theorem Ends.nil : Ends [] := nofun

theorem Ends.cons (h : t.endsType = true) : Ends (t :: ts) := by
  rintro _ ⟨⟩
  exact h

theorem Ends.ne_word (h : Ends ts) (w : Word) (us : List Token) : ts ≠ .word w :: us := by
  rintro rfl
  cases h _ rfl

/-! ## 4. Derivations -/

mutual

/-- **A derivation of the grammar**: a name alone, or a name with arguments in angle brackets. -/
inductive Derivation where
  | name (w : Word)
  | applied (w : Word) (arguments : Arguments)

/-- One or more derivations with commas between them. -/
inductive Arguments where
  | last (d : Derivation)
  | more (d : Derivation) (others : Arguments)

end

mutual

/-- The tokens that a derivation is built over. -/
def Derivation.tokens : Derivation → List Token
  | .name w => [.word w]
  | .applied w arguments => .word w :: .opening :: (arguments.tokens ++ [.closing])

/-- The tokens of arguments, without the brackets around them. -/
def Arguments.tokens : Arguments → List Token
  | .last d => d.tokens
  | .more d others => d.tokens ++ .comma :: others.tokens

end

mutual

/-- **The type that a derivation derives**, if each of its steps keeps to a rule. -/
inductive Derivation.Derives : Derivation → TypeExpr → Prop
  | name {w : Word} {e : TypeExpr} (h : Alone w.text e) : Derivation.Derives (.name w) e
  | applied {w : Word} {arguments : Arguments} {es : List TypeExpr} {e : TypeExpr}
      (harguments : arguments.Derives es) (h : Applied (lowerAscii w.text) es e) :
      Derivation.Derives (.applied w arguments) e

/-- The types that arguments derive. -/
inductive Arguments.Derives : Arguments → List TypeExpr → Prop
  | last {d : Derivation} {e : TypeExpr} (h : d.Derives e) : Arguments.Derives (.last d) [e]
  | more {d : Derivation} {others : Arguments} {e : TypeExpr} {es : List TypeExpr}
      (h : d.Derives e) (hothers : others.Derives es) :
      Arguments.Derives (.more d others) (e :: es)

end

/-! ## 5. What is read is derived -/

/-- What is read is derived over what it is read from.  By induction on the bound of steps, for a
type, for arguments with their brackets and for arguments up to the closing one at once. -/
theorem derives_of_scan (fuel : Nat) :
    (∀ {cs e rest}, scan fuel cs = .ok (e, rest) → ∃ (d : Derivation) (front : List Char),
      d.Derives e ∧ cs = front ++ rest ∧ Laid d.tokens front)
    ∧ (∀ {cs es rest}, scanArguments fuel cs = .ok (es, rest) →
      ∃ (ds : Arguments) (front : List Char),
        ds.Derives es ∧ cs = front ++ rest ∧ Laid (.opening :: (ds.tokens ++ [.closing])) front)
    ∧ ∀ {cs es rest}, scanMore fuel cs = .ok (es, rest) →
      ∃ (ds : Arguments) (front : List Char),
        ds.Derives es ∧ cs = front ++ rest ∧ Laid (ds.tokens ++ [.closing]) front := by
  induction fuel with
  | zero => exact ⟨nofun, nofun, nofun⟩
  | succ fuel ih =>
    obtain ⟨ihType, ihArguments, ihMore⟩ := ih
    refine ⟨?type, ?arguments, ?more⟩
    case type =>
      intro cs e after h
      obtain ⟨name, rest, hname, hread⟩ := scan_eq_ok_iff.mp h
      obtain ⟨hisName, hskip, -⟩ := scanName_eq_ok_iff.mp hname
      obtain ⟨front, rfl, hfront⟩ := exists_laid_of_skip (t := .word ⟨name, hisName⟩) hskip
      rcases hread with ⟨halone, rfl⟩ | ⟨es, hargs, happlied⟩
      · exact ⟨.name ⟨name, hisName⟩, front, .name halone, rfl, hfront⟩
      · obtain ⟨ds, inside, hds, rfl, hinside⟩ := ihArguments hargs
        exact ⟨.applied ⟨name, hisName⟩ ds, front ++ inside, .applied hds happlied,
          (List.append_assoc ..).symm, hfront.append hinside⟩
    case arguments =>
      intro cs es after h
      obtain ⟨rest, hskip, hmore⟩ := scanArguments_eq_ok_iff.mp h
      obtain ⟨front, rfl, hfront⟩ := exists_laid_of_skip (t := .opening) hskip
      obtain ⟨ds, inside, hds, rfl, hinside⟩ := ihMore hmore
      exact ⟨ds, front ++ inside, hds, (List.append_assoc ..).symm, hfront.append hinside⟩
    case more =>
      intro cs es after h
      obtain ⟨e, rest, hscan, hread⟩ := scanMore_eq_ok_iff.mp h
      obtain ⟨d, front, hd, rfl, hfront⟩ := ihType hscan
      rcases hread with ⟨hskip, rfl⟩ | ⟨rest', es', hskip, hmore, rfl⟩
      · obtain ⟨mark, rfl, hmark⟩ := exists_laid_of_skip (t := .closing) hskip
        exact ⟨.last d, front ++ mark, .last hd, (List.append_assoc ..).symm,
          hfront.append hmark⟩
      · obtain ⟨mark, rfl, hmark⟩ := exists_laid_of_skip (t := .comma) hskip
        obtain ⟨ds, inside, hds, rfl, hinside⟩ := ihMore hmore
        refine ⟨.more d ds, front ++ (mark ++ inside), .more hd hds, by simp, ?_⟩
        rw [Arguments.tokens, List.append_assoc]
        exact hfront.append (hmark.append hinside)

/-- **What a text is read as is derived over it.** -/
theorem derives_of_parse {text : String} (h : parse text = .ok e) :
    ∃ d : Derivation, d.Derives e ∧ Laid d.tokens text.toList := by
  obtain ⟨rest, hscan, hend⟩ := parse_eq_ok_iff.mp h
  obtain ⟨d, front, hd, htext, hfront⟩ := (derives_of_scan _).1 hscan
  have hlaid := hfront.append (Laid.nil_iff.mpr hend)
  exact ⟨d, hd, by rwa [htext, ← d.tokens.append_nil]⟩

/-! ## 6. What is derived is read -/

mutual

/-- A derivation is read from a text that begins with its tokens.  By induction on the derivation;
a step for each token is enough. -/
theorem Derivation.scan_eq : (d : Derivation) → ∀ (fuel : Nat) {e cs us}, d.Derives e → Ends us →
    Laid (d.tokens ++ us) cs → d.tokens.length ≤ fuel →
    ∃ rest, scan fuel cs = .ok (e, rest) ∧ Laid us rest
  | .name w, fuel, e, cs, us, h, hends, hlaid, hfuel => by
    obtain ⟨fuel, rfl⟩ : ∃ n, fuel = n + 1 := Nat.exists_eq_add_one.mpr hfuel
    cases h with | name halone =>
    obtain ⟨rest, hname, hrest⟩ := scanName_of_laid hlaid hends.ne_word
    exact ⟨rest, scan_eq_ok_iff.mpr ⟨_, rest, hname, .inl ⟨halone, rfl⟩⟩, hrest⟩
  | .applied w ds, fuel, e, cs, us, h, _, hlaid, hfuel => by
    rw [Derivation.tokens, List.length_cons, List.length_cons, List.length_append,
      List.length_singleton] at hfuel
    rw [Derivation.tokens, List.cons_append, List.cons_append, List.append_assoc] at hlaid
    obtain ⟨fuel, rfl⟩ : ∃ n, fuel = n + 2 := ⟨fuel - 2, by omega⟩
    cases h with | applied hargs happlied =>
    obtain ⟨rest, hname, hrest⟩ := scanName_of_laid hlaid nofun
    obtain ⟨inside, hskip, hinside⟩ := Laid.cons_iff.mp hrest
    obtain ⟨after, hmore, hafter⟩ := ds.scanMore_eq fuel hargs hinside (by omega)
    refine ⟨after, scan_eq_ok_iff.mpr ⟨_, rest, hname, .inr ⟨_, ?_, happlied⟩⟩, hafter⟩
    exact scanArguments_eq_ok_iff.mpr ⟨inside, hskip, hmore⟩

theorem Arguments.scanMore_eq : (ds : Arguments) → ∀ (fuel : Nat) {es cs us}, ds.Derives es →
    Laid (ds.tokens ++ .closing :: us) cs → ds.tokens.length < fuel →
    ∃ rest, scanMore fuel cs = .ok (es, rest) ∧ Laid us rest
  | .last d, fuel, es, cs, us, h, hlaid, hfuel => by
    rw [Arguments.tokens] at hlaid hfuel
    obtain ⟨fuel, rfl⟩ : ∃ n, fuel = n + 1 := ⟨fuel - 1, by omega⟩
    cases h with | last hd =>
    obtain ⟨rest, hscan, hrest⟩ := d.scan_eq fuel hd (.cons rfl) hlaid (by omega)
    obtain ⟨after, hskip, hafter⟩ := Laid.cons_iff.mp hrest
    exact ⟨after, scanMore_eq_ok_iff.mpr ⟨_, rest, hscan, .inl ⟨hskip, rfl⟩⟩, hafter⟩
  | .more d ds, fuel, es, cs, us, h, hlaid, hfuel => by
    rw [Arguments.tokens, List.length_append, List.length_cons] at hfuel
    rw [Arguments.tokens, List.append_assoc] at hlaid
    obtain ⟨fuel, rfl⟩ : ∃ n, fuel = n + 1 := ⟨fuel - 1, by omega⟩
    cases h with | more hd hds =>
    obtain ⟨rest, hscan, hrest⟩ := d.scan_eq fuel hd (.cons rfl) hlaid (by omega)
    obtain ⟨others, hskip, hothers⟩ := Laid.cons_iff.mp hrest
    obtain ⟨after, hmore, hafter⟩ := ds.scanMore_eq fuel hds hothers (by omega)
    exact ⟨after, scanMore_eq_ok_iff.mpr
      ⟨_, rest, hscan, .inr ⟨others, _, hskip, hmore, rfl⟩⟩, hafter⟩

end

/-- **A text is read as what is derived over it.** -/
theorem parse_of_derives {text : String} {d : Derivation} (h : d.Derives e)
    (hlaid : Laid d.tokens text.toList) : parse text = .ok e := by
  have hfuel : d.tokens.length ≤ 3 * text.toList.length + 1 := by
    have := hlaid.length_le
    omega
  rw [← d.tokens.append_nil] at hlaid
  obtain ⟨rest, hscan, hrest⟩ := d.scan_eq _ h .nil hlaid hfuel
  exact parse_eq_ok_iff.mpr ⟨rest, hscan, Laid.nil_iff.mp hrest⟩

/-! ## 7. One derivation only -/

/-- A text begins with one name at most. -/
theorem word_unique {w' : Word} {ts' : List Token} (h : Laid (.word w :: ts) cs)
    (h' : Laid (.word w' :: ts') cs) (hfree : ∀ w vs, ts ≠ .word w :: vs)
    (hfree' : ∀ w vs, ts' ≠ .word w :: vs) : w = w' ∧ ∃ rest, Laid ts rest ∧ Laid ts' rest := by
  obtain ⟨rest, hname, hrest⟩ := scanName_of_laid h hfree
  obtain ⟨rest', hname', hrest'⟩ := scanName_of_laid h' hfree'
  rw [hname] at hname'
  injection hname' with heq
  obtain ⟨htext, rfl⟩ := Prod.mk.inj heq
  exact ⟨Word.ext htext, rest, hrest, hrest'⟩

/-- A text begins with one mark at most. -/
theorem mark_unique {t' : Token} {ts' : List Token} (h : Laid (t :: ts) cs)
    (h' : Laid (t' :: ts') cs) (ht : ∀ w, t ≠ .word w) (ht' : ∀ w, t' ≠ .word w) :
    t = t' ∧ ∃ rest, Laid ts rest ∧ Laid ts' rest := by
  obtain ⟨rest, hskip, hrest⟩ := Laid.cons_iff.mp h
  obtain ⟨rest', hskip', hrest'⟩ := Laid.cons_iff.mp h'
  have hchars : t.chars ++ rest = t'.chars ++ rest' := hskip.symm.trans hskip'
  obtain rfl : t = t' := by cases t <;> cases t' <;> simp_all [Token.chars]
  exact ⟨rfl, rest, hrest, List.append_cancel_left hchars ▸ hrest'⟩

/-- No arguments begin where a type has ended. -/
theorem not_laid_opening (hends : Ends us) (h : Laid us cs) : ¬Laid (.opening :: ts) cs := by
  intro h'
  cases us with
  | nil =>
    obtain ⟨rest, hskip, -⟩ := Laid.cons_iff.mp h'
    rw [Laid.nil_iff.mp h] at hskip
    cases hskip
  | cons u us =>
    obtain ⟨rfl, -⟩ := mark_unique h h' (fun w hw => hends.ne_word w us (hw ▸ rfl)) nofun
    cases hends _ rfl

mutual

theorem Derivation.unique : (d d' : Derivation) → ∀ {cs us us'}, Ends us → Ends us' →
    Laid (d.tokens ++ us) cs → Laid (d'.tokens ++ us') cs →
    d = d' ∧ ∃ rest, Laid us rest ∧ Laid us' rest
  | .name w, .name w', cs, us, us', hends, hends', hlaid, hlaid' => by
    obtain ⟨rfl, hrest⟩ := word_unique hlaid hlaid' hends.ne_word hends'.ne_word
    exact ⟨rfl, hrest⟩
  | .name w, .applied w' ds', cs, us, us', hends, hends', hlaid, hlaid' => by
    obtain ⟨-, rest, hrest, hrest'⟩ := word_unique hlaid hlaid' hends.ne_word nofun
    exact absurd hrest' (not_laid_opening hends hrest)
  | .applied w ds, .name w', cs, us, us', hends, hends', hlaid, hlaid' => by
    obtain ⟨-, rest, hrest, hrest'⟩ := word_unique hlaid hlaid' nofun hends'.ne_word
    exact absurd hrest (not_laid_opening hends' hrest')
  | .applied w ds, .applied w' ds', cs, us, us', hends, hends', hlaid, hlaid' => by
    rw [Derivation.tokens, List.cons_append, List.cons_append, List.append_assoc] at hlaid hlaid'
    obtain ⟨rfl, rest, hrest, hrest'⟩ := word_unique hlaid hlaid' nofun nofun
    obtain ⟨-, inside, hinside, hinside'⟩ := mark_unique hrest hrest' nofun nofun
    obtain ⟨rfl, hafter⟩ := ds.unique ds' hinside hinside'
    exact ⟨rfl, hafter⟩

theorem Arguments.unique : (ds ds' : Arguments) → ∀ {cs us us'},
    Laid (ds.tokens ++ .closing :: us) cs → Laid (ds'.tokens ++ .closing :: us') cs →
    ds = ds' ∧ ∃ rest, Laid us rest ∧ Laid us' rest
  | .last d, .last d', cs, us, us', hlaid, hlaid' => by
    obtain ⟨rfl, rest, hrest, hrest'⟩ := d.unique d' (.cons rfl) (.cons rfl) hlaid hlaid'
    exact ⟨rfl, (mark_unique hrest hrest' nofun nofun).2⟩
  | .last d, .more d' ds', cs, us, us', hlaid, hlaid' => by
    rw [Arguments.tokens, List.append_assoc] at hlaid'
    obtain ⟨-, rest, hrest, hrest'⟩ := d.unique d' (.cons rfl) (.cons rfl) hlaid hlaid'
    cases (mark_unique hrest hrest' nofun nofun).1
  | .more d ds, .last d', cs, us, us', hlaid, hlaid' => by
    rw [Arguments.tokens, List.append_assoc] at hlaid
    obtain ⟨-, rest, hrest, hrest'⟩ := d.unique d' (.cons rfl) (.cons rfl) hlaid hlaid'
    cases (mark_unique hrest hrest' nofun nofun).1
  | .more d ds, .more d' ds', cs, us, us', hlaid, hlaid' => by
    rw [Arguments.tokens, List.append_assoc] at hlaid hlaid'
    obtain ⟨rfl, rest, hrest, hrest'⟩ := d.unique d' (.cons rfl) (.cons rfl) hlaid hlaid'
    obtain ⟨-, others, hothers, hothers'⟩ := mark_unique hrest hrest' nofun nofun
    obtain ⟨rfl, hafter⟩ := ds.unique ds' hothers hothers'
    exact ⟨rfl, hafter⟩

end

/-- **A text has one derivation at most.** -/
theorem eq_of_laid {d d' : Derivation} (h : Laid d.tokens cs) (h' : Laid d'.tokens cs) :
    d = d' := by
  rw [← d.tokens.append_nil] at h
  rw [← d'.tokens.append_nil] at h'
  exact (d.unique d' .nil .nil h h').1

end WideColumn.TypeExpr
