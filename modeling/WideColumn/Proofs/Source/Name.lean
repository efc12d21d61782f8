/-
# Names are read as they are

A name of a declaration becomes a name of source by being read as source.  In general the two may
differ, since white space and comments around a word are dropped.  A name that the rules accept
has only letters, digits and underscores: the reader sees one word, which is the whole name, so
all that can keep it from being a name of source is that the word is reserved.
-/
import Mathlib.Data.List.TakeWhile
import WideColumn.Schema.Naming
import WideColumn.Source.Tree

namespace WideColumn.Source

/-! ## 1. Characters of names -/

/-- Whether a character may stand in an accepted name. -/
def isNameChar (c : Char) : Bool := c.isAlphanum || c == '_'

/-- Characters at which something other than a word begins. -/
def specialChars : List Char := ['\ufeff', '"', '#', '\'', '/', '(']

/-- What the readers ask about a character, answered for those of names. -/
structure Ordinary (c : Char) : Prop where
  rest : Word.isRest c = true
  space : Tree.isSpace c = false
  opening : Bracket.ofOpening? c = none
  closing : Bracket.ofClosing? c = none
  mark : "~!@#$%^&*-=+|;:,<.>/?'".toList.contains c = false
  special : c ∉ specialChars

instance (c : Char) : Decidable (Ordinary c) :=
  decidable_of_iff (Word.isRest c = true ∧ Tree.isSpace c = false ∧ Bracket.ofOpening? c = none
      ∧ Bracket.ofClosing? c = none ∧ "~!@#$%^&*-=+|;:,<.>/?'".toList.contains c = false
      ∧ c ∉ specialChars)
    ⟨fun ⟨h₁, h₂, h₃, h₄, h₅, h₆⟩ => ⟨h₁, h₂, h₃, h₄, h₅, h₆⟩,
      fun ⟨h₁, h₂, h₃, h₄, h₅, h₆⟩ => ⟨h₁, h₂, h₃, h₄, h₅, h₆⟩⟩

theorem ordinary_of_isNameChar {c : Char} (hascii : c.toNat < 128) (h : isNameChar c = true) :
    Ordinary c := by
  have hall : ∀ n < 128, isNameChar (Char.ofNat n) = true → Ordinary (Char.ofNat n) := by
    decide +kernel
  have hc := hall c.toNat hascii
  rw [Char.ofNat_toNat] at hc
  exact hc h

theorem isStart_of_isAlpha {c : Char} (hascii : c.toNat < 128) (h : c.isAlpha = true) :
    Word.isStart c = true ∧ c.isDigit = false := by
  have hall : ∀ n < 128, (Char.ofNat n).isAlpha = true →
      Word.isStart (Char.ofNat n) = true ∧ (Char.ofNat n).isDigit = false := by decide +kernel
  have hc := hall c.toNat hascii
  rw [Char.ofNat_toNat] at hc
  exact hc h

/-- Whether a character is an ASCII letter, an ASCII digit or an underscore. -/
def isPlainChar (c : Char) : Bool := c.toNat < 128 && isNameChar c

/-- **A text is a plain word**: a letter, and then letters, digits and underscores, all of them
ASCII. -/
structure IsPlainWord (n : String) : Prop where
  start : n.toList.head?.any Char.isAlpha = true
  chars : ∀ c ∈ n.toList, isPlainChar c = true

/-- What is asked of the first character of a text does not depend on what comes after the text. -/
theorem any_head?_append {q : Char → Bool} {a b : String} (h : a.toList.head?.any q = true) :
    (a ++ b).toList.head?.any q = true := by
  rw [Option.any_eq_true] at h ⊢
  obtain ⟨c, hc, hq⟩ := h
  exact ⟨c, by simp [String.toList_append, hc], hq⟩

/-- Whatever is put after a plain word, as long as its characters are plain, it stays one. -/
theorem IsPlainWord.append {a b : String} (ha : IsPlainWord a)
    (hb : ∀ c ∈ b.toList, isPlainChar c = true) : IsPlainWord (a ++ b) := by
  refine ⟨any_head?_append ha.start, fun c hc => ?_⟩
  rw [String.toList_append, List.mem_append] at hc
  exact hc.elim (ha.chars c) (hb c)

/-- An accepted name is a plain word. -/
theorem isPlainWord_of_nameFault? {n : String} (h : nameFault? n = none) : IsPlainWord n := by
  rw [nameFault?] at h
  split at h
  · cases h
  split at h
  · cases h
  split at h
  · cases h
  split at h
  · cases h
  rename_i hne hascii _ hform
  simp only [List.any_eq_true, not_exists, not_and, decide_eq_true_eq, Nat.not_le] at hascii
  simp only [Bool.or_eq_true, Bool.not_eq_true', List.any_eq_true, not_or, Bool.not_eq_false,
    not_exists, not_and] at hform
  refine ⟨hform.1, fun c hc => ?_⟩
  rw [isPlainChar, Bool.and_eq_true]
  exact ⟨decide_eq_true (hascii c hc), by simpa [isNameChar] using hform.2 c hc⟩

/-- The characters of a plain word: a letter first, and none that means anything in source. -/
theorem IsPlainWord.ordinary {n : String} (h : IsPlainWord n) :
    ∃ c cs, n.toList = c :: cs ∧ Word.isStart c = true ∧ c.isDigit = false
      ∧ ∀ x ∈ c :: cs, Ordinary x := by
  have hchars : ∀ x ∈ n.toList, x.toNat < 128 ∧ isNameChar x = true := by
    simpa [isPlainChar] using h.chars
  obtain ⟨c, hc, hletter⟩ := (Option.any_eq_true _ _).mp h.start
  obtain ⟨cs, hcs⟩ := List.head?_eq_some_iff.mp hc
  obtain ⟨hstart, hdigit⟩ := isStart_of_isAlpha (hchars c (hcs ▸ List.mem_cons_self)).1 hletter
  refine ⟨c, cs, hcs, hstart, hdigit, fun x hx => ?_⟩
  obtain ⟨hascii, hname⟩ := hchars x (hcs ▸ hx)
  exact ordinary_of_isNameChar hascii hname

/-! ## 2. One word -/

/-- Without a hash or a quote no raw text begins. -/
theorem skipRaw?_eq_none {k : Literal.Kind} {cs : List Char} (h : ∀ x ∈ cs, Ordinary x) :
    Literal.skipRaw? k cs = none := by
  cases cs with
  | nil => rfl
  | cons x rest =>
    have hspecial := (h x List.mem_cons_self).special
    simp only [specialChars, List.mem_cons, not_or, List.not_mem_nil, not_false_eq_true,
      and_true] at hspecial
    obtain ⟨-, hquote, hhash, -⟩ := hspecial
    simp [Literal.skipRaw?, hhash, hquote]

section
variable {c : Char} {cs : List Char} (hall : ∀ x ∈ c :: cs, Ordinary x)
include hall

/-- A piece of text with a special character does not stand in front of a name. -/
theorem isPrefixOf_eq_false {piece : List Char} {x : Char} (hx : x ∈ piece)
    (hspecial : x ∈ specialChars) : piece.isPrefixOf (c :: cs) = false := by
  by_contra hpiece
  have hbegins := List.isPrefixOf_iff_prefix.mp (Bool.not_eq_false _ ▸ hpiece)
  exact (hall x (hbegins.subset hx)).special hspecial

theorem not_mem_of_special {x : Char} (h : x ∈ specialChars) :
    x ∉ c :: cs :=
  fun hx => (hall x hx).special h

/-- A name is no literal. -/
theorem skip?_eq_none (hdigit : c.isDigit = false) : Literal.skip? (c :: cs) = none := by
  have hquote : '"' ∉ c :: cs := not_mem_of_special hall (by decide)
  have hsingle : '\'' ∉ c :: cs := not_mem_of_special hall (by decide)
  have hraw : ∀ (before : List Char) {k : Literal.Kind} {rest : List Char},
      c :: cs = before ++ rest → Literal.skipRaw? k rest = none := fun _ _ _ heq =>
    skipRaw?_eq_none fun x hx => hall x (heq ▸ List.mem_append_right _ hx)
  unfold Literal.skip?
  split <;> rename_i heq
  · simp [heq] at hquote
  · exact hraw ['r'] heq
  · simp [heq] at hquote
  · exact hraw ['b', 'r'] heq
  · simp [heq] at hsingle
  · simp [heq] at hquote
  · exact hraw ['c', 'r'] heq
  · simp [heq] at hsingle
  · cases heq
    rw [hdigit]
    rfl
  · rfl

/-- A name is one leaf, a word. -/
theorem scanLeaf?_eq (hstart : Word.isStart c = true) (hdigit : c.isDigit = false) :
    Tree.scanLeaf? (c :: cs) = some (.word (String.ofList (c :: cs)), []) := by
  have hsingle : '\'' ∉ c :: cs := not_mem_of_special hall (by decide)
  have hhash : '#' ∉ c :: cs := not_mem_of_special hall (by decide)
  have hrest : cs.takeWhile Word.isRest = cs :=
    List.takeWhile_eq_self_iff.mpr fun x hx => (hall x (List.mem_cons_of_mem _ hx)).rest
  have hword : Word.scan? (c :: cs) = some (c :: cs, []) := by
    unfold Word.scan?
    split
    · rename_i heq
      simp [heq] at hhash
    · simp [Word.scanPlain?, hstart, hrest]
  have hmark : Tree.startsMark (c :: cs) = false := by
    have hc := (hall c List.mem_cons_self).mark
    unfold Tree.startsMark
    split
    · rfl
    · rfl
    · rename_i heq
      cases heq
      exact hc
    · rfl
  have hbroken : Tree.brokenPiece.isPrefixOf (c :: cs) = false :=
    isPrefixOf_eq_false hall (x := '(') (by decide) (by decide)
  have hprefix : (Tree.literalPrefixes.any fun p => p.toList.isPrefixOf (c :: cs)) = false := by
    refine List.any_eq_false.mpr fun p hp => ?_
    have hspecial : ∀ p ∈ Tree.literalPrefixes,
        (p.toList.any fun x => decide (x ∈ specialChars)) = true := by decide
    obtain ⟨x, hx, hx'⟩ := List.any_eq_true.mp (hspecial p hp)
    have hspecial := of_decide_eq_true hx'
    simp [isPrefixOf_eq_false hall hx hspecial]
  unfold Tree.scanLeaf?
  rw [Literal.scan?, skip?_eq_none hall hdigit]
  split
  · rename_i heq
    cases heq
  · split
    · rename_i heq
      simp [heq] at hsingle
    · rename_i heq
      cases heq
      simp [hmark, hbroken, hprefix, hword]
    · rename_i heq
      cases heq

theorem scanRow?_eq (hstart : Word.isStart c = true) (hdigit : c.isDigit = false) {fuel : Nat} :
    Tree.scanRow? (fuel + 1) [] [] (c :: cs) = some [.word (String.ofList (c :: cs))] := by
  have hc := hall c List.mem_cons_self
  have hcomment : Tree.scanComment? (c :: cs) = none := by
    have hslash : '/' ∉ c :: cs := not_mem_of_special hall (by decide)
    unfold Tree.scanComment?
    split <;> rename_i heq <;> first | rfl | simp [heq] at hslash
  unfold Tree.scanRow?
  simp only [hc.space, hcomment, hc.opening, hc.closing, scanLeaf?_eq hall hstart hdigit]
  cases fuel <;> rfl

end

namespace IsPlainWord

variable {n : String} (h : IsPlainWord n)
include h

/-- **A plain word is read as it is**, unless it is reserved. -/
theorem identifier?_eq : identifier? n = if Word.isName n then some n else none := by
  obtain ⟨c, cs, hcs, hstart, hdigit, hall⟩ := h.ordinary
  have hmark : '\ufeff' ∉ c :: cs := not_mem_of_special hall (by decide)
  have hofText : Tree.ofText? n = some [.word n] := by
    unfold Tree.ofText?
    split <;> rename_i heq
    · rw [hcs] at heq
      simp [heq] at hmark
    · rw [hcs, List.length_cons, scanRow?_eq hall hstart hdigit, ← hcs, String.ofList_toList]
  rw [identifier?, hofText]

/-- A plain word can be a name at all. -/
theorem isName : Source.isName n = true := by
  obtain ⟨c, cs, hcs, hstart, -, hall⟩ := h.ordinary
  have hhash : '#' ∉ c :: cs := not_mem_of_special hall (by decide)
  unfold Source.isName
  split <;> rename_i heq
  · rw [hcs] at heq
    simp [heq] at hhash
  · rw [hcs, Word.isPlain, hstart, Bool.true_and, List.all_eq_true]
    exact fun x hx => (hall x (List.mem_cons_of_mem _ hx)).rest

end IsPlainWord

/-- **An accepted name is read as it is**, unless the word is reserved. -/
theorem identifier?_of_nameFault? {n : String} (h : nameFault? n = none) :
    identifier? n = if Word.isName n then some n else none :=
  (isPlainWord_of_nameFault? h).identifier?_eq

/-! ## 3. Words that go on -/

theorem isPlain_append {cs ds : List Char} (hcs : cs ≠ []) (hds : ∀ c ∈ ds, Word.isRest c = true) :
    Word.isPlain (cs ++ ds) = Word.isPlain cs := by
  cases cs with
  | nil => exact absurd rfl hcs
  | cons c cs =>
    rw [List.cons_append, Word.isPlain, Word.isPlain, List.all_append, List.all_eq_true.mpr hds,
      Bool.and_true]

/-- A row of characters without a raw mark in front of it. -/
def withoutMark : List Char → List Char
  | 'r' :: '#' :: cs => cs
  | cs => cs

theorem isName_eq (s : String) : isName s = Word.isPlain (withoutMark s.toList) := by
  rw [isName]
  split
  · rename_i hmark
    rw [hmark, withoutMark]
  · rename_i hmark
    rw [withoutMark]
    exact hmark

/-- An underscore completes no raw mark. -/
theorem withoutMark_append (cs ds : List Char) :
    withoutMark (cs ++ '_' :: ds) = withoutMark cs ++ '_' :: ds := by
  rcases cs with _ | ⟨c, _ | ⟨d, rest⟩⟩
  · rfl
  · rw [List.cons_append, List.nil_append, withoutMark, withoutMark]
    · rfl
    · simp
    · simp
  · by_cases hmark : c = 'r' ∧ d = '#'
    · obtain ⟨rfl, rfl⟩ := hmark
      rfl
    · rw [List.cons_append, List.cons_append, withoutMark, withoutMark]
      · rfl
      · simpa using hmark
      · simpa using hmark

/-- **Whether a text with an underscore at its end can be a name does not change** with characters
after it that a word may go on with. -/
theorem isName_append {a b : String} (hb : ∀ c ∈ b.toList, Word.isRest c = true) :
    isName (a ++ "_" ++ b) = isName (a ++ "_") := by
  have hlong : (a ++ "_" ++ b).toList = a.toList ++ '_' :: b.toList := by
    simp [String.toList_append]
  have hshort : (a ++ "_").toList = a.toList ++ '_' :: [] := by simp [String.toList_append]
  rw [isName_eq, isName_eq, hlong, hshort, withoutMark_append, withoutMark_append,
    List.append_cons]
  exact isPlain_append (by simp) hb

end WideColumn.Source
