/-
# Source in pieces

A text of source is told by its PIECES: words as they stand, and texts between quotes.  A text is
LAID of pieces if they stand in it one after another, with a blank between them where no bracket
keeps them apart.

The functions that lay out source keep to this: each has a counterpart on rows of pieces, and what
it makes of texts is laid of what its counterpart makes of their pieces.
-/
import Mathlib.Data.List.Forall2
import WideColumn.Source.Layout

namespace WideColumn.Source

/-! ## 1. Pieces -/

/-- A piece of source. -/
inductive Piece where
  /-- Words as they stand. -/
  | words (text : String)
  /-- A text between quotes. -/
  | quoted (text : String)

/-- What stands between quotes for a text, by the escapes that a text may have. -/
inductive Quotes : List Char → List Char → Prop
  | nil : Quotes [] []
  | plain {c : Char} {inside cs : List Char} (hquote : c ≠ '"') (hslash : c ≠ '\\')
      (h : Quotes inside cs) : Quotes (c :: inside) (c :: cs)
  | escaped {letter c : Char} {inside cs : List Char}
      (hletter : (letter, c) ∈ [('"', '"'), ('\\', '\\'), ('n', '\n'), ('r', '\r'), ('t', '\t'),
        ('0', '\x00')]) (h : Quotes inside cs) : Quotes ('\\' :: letter :: inside) (c :: cs)
  | zero {inside cs : List Char} (h : Quotes inside cs) :
      Quotes ('\\' :: 'x' :: '0' :: '0' :: inside) ('\x00' :: cs)
  | numbered {c : Char} {inside cs : List Char} (h : Quotes inside cs) :
      Quotes ('\\' :: 'u' :: '{' :: (Nat.toDigits 16 c.toNat ++ '}' :: inside)) (c :: cs)

/-- A text that is a piece. -/
inductive Piece.Is : Piece → List Char → Prop
  | words (s : String) : (Piece.words s).Is s.toList
  | quoted {s : String} {inside : List Char} (h : Quotes inside s.toList) :
      (Piece.quoted s).Is ('"' :: (inside ++ ['"']))

/-- What may stand between two texts. -/
inductive Gap (before after : List Char) : List Char → Prop
  /-- A blank between two that are not empty. -/
  | blank (hbefore : before ≠ []) (hafter : after ≠ []) : Gap before after [' ']
  /-- Nothing, where one of them is empty. -/
  | empty (h : before = [] ∨ after = []) : Gap before after []
  /-- Nothing after an opening bracket. -/
  | opened {c : Char} (hc : c ∈ ['(', '[']) (h : before.getLast? = some c) : Gap before after []
  /-- Nothing before a closing one. -/
  | closed {c : Char} (hc : c ∈ [')', ']']) (h : after.head? = some c) : Gap before after []

/-- Characters that are pieces one after another. -/
inductive Spread : List Piece → List Char → Prop
  | nil : Spread [] []
  | cons {piece : Piece} {pieces : List Piece} {first gap rest : List Char}
      (hpiece : piece.Is first) (hgap : Gap first rest gap) (hrest : Spread pieces rest) :
      Spread (piece :: pieces) (first ++ (gap ++ rest))

/-- **A text is laid of pieces** if its characters are these one after another. -/
def Laid (pieces : List Piece) (text : String) : Prop := Spread pieces text.toList

/-! ## 2. Rows of pieces -/

namespace Piece

/-- Rows of pieces one after another. -/
def row (rows : List (List Piece)) : List Piece := rows.flatten

/-- Rows of pieces between round brackets. -/
def round (rows : List (List Piece)) : List Piece :=
  row ([words "("] :: rows ++ [[words ")"]])

/-- Rows of pieces between curly brackets. -/
def curly (rows : List (List Piece)) : List Piece :=
  row ([words "\x7b"] :: rows ++ [[words "\x7d"]])

/-- Rows of pieces between angle brackets. -/
def angled (rows : List (List Piece)) : List Piece :=
  row ([words "<"] :: rows ++ [[words ">"]])

/-- Rows of pieces with commas between them. -/
def listed (rows : List (List Piece)) : List Piece := row (rows.intersperse [words ","])

end Piece

/-! ## 3. Side by side -/

variable {pieces pieces' : List Piece} {a b gap : List Char}

/-- Pieces that are spread one row after another. -/
theorem Spread.append (h : Spread pieces a) (hgap : Gap a b gap) (h' : Spread pieces' b) :
    Spread (pieces ++ pieces') (a ++ (gap ++ b)) := by
  induction h generalizing gap with
  | nil =>
    cases hgap with
    | blank hbefore => exact absurd rfl hbefore
    | opened _ hlast => cases hlast
    | empty | closed => exact h'
  | @cons piece pieces first gap₁ rest hpiece hgap₁ _ ih =>
    by_cases hrest : rest = []
    · -- nothing follows the piece, so the gap stands right behind it
      subst hrest
      have hnone : gap₁ = [] := by
        cases hgap₁ with
        | blank _ hafter => exact absurd rfl hafter
        | empty | opened | closed => rfl
      subst hnone
      have hall := ih (.empty (.inl rfl))
      simp only [List.append_nil, List.nil_append] at hgap hall ⊢
      exact .cons hpiece hgap hall
    · have hlater : Gap rest b gap := by
        cases hgap with
        | blank _ hafter => exact .blank hrest hafter
        | empty hnone =>
          refine .empty (.inr (hnone.resolve_left ?_))
          simp [hrest]
        | opened hc hlast =>
          obtain ⟨x, hx⟩ := Option.ne_none_iff_exists'.mp (mt List.getLast?_eq_none_iff.mp hrest)
          rw [List.getLast?_append, List.getLast?_append, hx] at hlast
          exact .opened hc (hx.trans hlast)
        | closed hc hhead => exact .closed hc hhead
      have hsooner : Gap first (rest ++ (gap ++ b)) gap₁ := by
        cases hgap₁ with
        | blank hbefore _ => exact .blank hbefore (by simp [hrest])
        | empty hnone => exact .empty (.inl (hnone.resolve_right hrest))
        | opened hc hlast => exact .opened hc hlast
        | closed hc hhead => exact .closed hc (by rw [List.head?_append, hhead, Option.some_or])
      have hall := Spread.cons hpiece hsooner (ih hlater)
      rwa [List.append_assoc, List.append_assoc]

theorem getLast?_of_endsWith {s t : String} {c : Char} (ht : t.toList = [c])
    (h : s.endsWith t = true) : s.toList.getLast? = some c := by
  rwa [← String.endsWith_toSlice, String.Slice.endsWith_string_iff, String.copy_toSlice, ht,
    List.singleton_suffix_iff_getLast?_eq_some] at h

theorem head?_of_startsWith {s t : String} {c : Char} (ht : t.toList = [c])
    (h : s.startsWith t = true) : s.toList.head? = some c := by
  rwa [String.startsWith_string_iff, ht, List.singleton_prefix_iff_head?_eq_some] at h

/-- What the layout puts between two texts. -/
theorem exists_gap_beside (a b : String) :
    ∃ gap, Gap a.toList b.toList gap ∧ (beside a b).toList = a.toList ++ (gap ++ b.toList) := by
  unfold beside
  split
  case isTrue h =>
    obtain rfl : a = "" := by simpa using h
    exact ⟨[], .empty (.inl rfl), rfl⟩
  split
  case isFalse.isTrue _ h =>
    obtain rfl : b = "" := by simpa using h
    exact ⟨[], .empty (.inr rfl), by simp⟩
  split
  case isFalse.isFalse.isTrue _ _ h =>
    refine ⟨[], ?_, by simp⟩
    simp only [touches, Bool.or_eq_true] at h
    rcases h with ((h | h) | h) | h
    · exact .opened List.mem_cons_self (getLast?_of_endsWith (c := '(') (by simp) h)
    · exact .opened (c := '[') (by simp) (getLast?_of_endsWith (by simp) h)
    · exact .closed (c := ')') (by simp) (head?_of_startsWith (by simp) h)
    · exact .closed (c := ']') (by simp) (head?_of_startsWith (by simp) h)
  case isFalse.isFalse.isFalse ha hb _ =>
    exact ⟨[' '], .blank (by simpa using ha) (by simpa using hb), by simp⟩

theorem beside_eq_empty {s t : String} : beside s t = "" ↔ s = "" ∧ t = "" := by
  unfold beside
  split_ifs with hs ht <;> simp_all

theorem lay_eq_empty {texts : List String} : lay texts = "" ↔ ∀ s ∈ texts, s = "" := by
  induction texts with
  | nil => simp [lay]
  | cons s texts ih =>
    rw [List.forall_mem_cons, ← ih]
    exact beside_eq_empty

namespace Laid

variable {rows : List (List Piece)} {texts : List String}

theorem nil : Laid [] "" := Spread.nil

theorem words (s : String) : Laid [.words s] s := by
  have h := Spread.cons (.words s) (.empty (.inr rfl)) .nil
  simpa only [Laid, List.append_nil] using h

theorem beside {s t : String} (h : Laid pieces s) (h' : Laid pieces' t) :
    Laid (pieces ++ pieces') (beside s t) := by
  obtain ⟨gap, hgap, heq⟩ := exists_gap_beside s t
  rw [Laid, heq]
  exact h.append hgap h'

/-- **What is laid out is laid of the pieces of its parts.** -/
theorem lay (h : List.Forall₂ Laid rows texts) : Laid (Piece.row rows) (lay texts) := by
  induction h with
  | nil => exact nil
  | cons hfirst _ ih => exact hfirst.beside ih

theorem between (left right : String) (h : List.Forall₂ Laid rows texts) :
    Laid (Piece.row ([.words left] :: rows ++ [[.words right]]))
      (Source.lay (left :: texts ++ [right])) :=
  lay (List.rel_append (.cons (words left) h) (.cons (words right) .nil))

theorem round (h : List.Forall₂ Laid rows texts) : Laid (Piece.round rows) (round texts) :=
  between _ _ h

theorem curly (h : List.Forall₂ Laid rows texts) : Laid (Piece.curly rows) (curly texts) :=
  between _ _ h

theorem angled (h : List.Forall₂ Laid rows texts) : Laid (Piece.angled rows) (angled texts) :=
  between _ _ h

theorem listed (h : List.Forall₂ Laid rows texts) : Laid (Piece.listed rows) (listed texts) := by
  refine lay ?_
  induction h with
  | nil => exact .nil
  | cons hfirst hrest ih =>
    cases hrest with
    | nil => exact .cons hfirst .nil
    | cons => exact .cons hfirst (.cons (words ",") ih)

/-- A row of things, each with its pieces and its text. -/
theorem map {α : Type} {piecesOf : α → List Piece} {text : α → String} {xs : List α}
    (h : ∀ x ∈ xs, Laid (piecesOf x) (text x)) :
    List.Forall₂ Laid (xs.map piecesOf) (xs.map text) := by
  rw [List.forall₂_map_left_iff, List.forall₂_map_right_iff, List.forall₂_same]
  exact h

end Laid

/-! ## 4. Texts between quotes -/

theorem quotes_escapeChar (c : Char) {inside cs : List Char} (h : Quotes inside cs) :
    Quotes (Text.escapeChar c ++ inside) (c :: cs) := by
  have hnumbered : Quotes (Text.numericEscape c ++ inside) (c :: cs) := by
    rw [Text.numericEscape, List.cons_append, List.cons_append, List.cons_append, List.append_assoc]
    exact .numbered h
  unfold Text.escapeChar
  split_ifs with hquote hslash hline hreturn htab hzero hplain hshown
  · obtain rfl := eq_of_beq hquote
    exact .escaped (by simp) h
  · obtain rfl := eq_of_beq hslash
    exact .escaped (by simp) h
  · obtain rfl := eq_of_beq hline
    exact .escaped (by simp) h
  · obtain rfl := eq_of_beq hreturn
    exact .escaped (by simp) h
  · obtain rfl := eq_of_beq htab
    exact .escaped (by simp) h
  · obtain rfl : c = '\x00' := Char.toNat_inj.mp (by simpa using hzero)
    exact .escaped (by simp) h
  · exact .plain (by simpa using hquote) (by simpa using hslash) h
  · exact hnumbered
  · exact .plain (by simpa using hquote) (by simpa using hslash) h

theorem quotes_escapeLiteral (cs : List Char) : Quotes (Text.escapeLiteral cs) cs := by
  induction cs with
  | nil => exact .nil
  | cons c rest ih =>
    rw [Text.escapeLiteral]
    split
    case isTrue h =>
      obtain rfl : c = '\x00' := Char.toNat_inj.mp (by simpa using (Bool.and_eq_true_iff.mp h).1)
      exact .zero ih
    case isFalse => exact quotes_escapeChar c ih

/-- **A literal stands for its text.** -/
theorem Laid.literal (s : String) : Laid [.quoted s] (literal s) := by
  have h := Spread.cons (.quoted (quotes_escapeLiteral s.toList)) (.empty (.inr rfl)) .nil
  rw [Laid, Source.literal, Text.stringLiteral, String.toList_ofList]
  simpa only [List.append_nil] using h

end WideColumn.Source
