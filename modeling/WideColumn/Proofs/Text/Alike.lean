/-
# Names without quotes and letter case

Two things do not count when a name is looked up: the quotes around it, and the case of ASCII
letters.  Both are said here of the characters alone:

* `SameButCase`: the characters of two texts are the same in pairs, or a capital and a small letter
  of the same place in the alphabet;
* `Bare`: a text is a name between quotes, and the name neither begins nor ends with one.

Folding the case and dropping the quotes decide them (`lowerAscii_eq_iff`, `unquoted_eq_iff`).
-/
import Mathlib.Data.List.Forall2
import Mathlib.Data.List.TakeWhile
import WideColumn.Text.LetterCase
import WideColumn.Text.Quoted

namespace WideColumn.Text

/-! ## 1. Letter case -/

/-- **The same character, or a capital and a small letter** of one place in the ASCII alphabet. -/
def SameLetter (c d : Char) : Prop :=
  c = d ∨ ∃ n < 26, (c.toNat = 'A'.toNat + n ∧ d.toNat = 'a'.toNat + n)
    ∨ (c.toNat = 'a'.toNat + n ∧ d.toNat = 'A'.toNat + n)

/-- **Texts that are the same but for the case of ASCII letters.** -/
def SameButCase (s t : String) : Prop := List.Forall₂ SameLetter s.toList t.toList

theorem toNat_toLower (c : Char) :
    c.toLower.toNat = if 65 ≤ c.toNat ∧ c.toNat ≤ 90 then c.toNat + 32 else c.toNat := by
  have hcapital : (c.val ≥ 'A'.val ∧ c.val ≤ 'Z'.val) ↔ 65 ≤ c.toNat ∧ c.toNat ≤ 90 := by
    simp only [ge_iff_le, UInt32.le_iff_toNat_le]
    rfl
  unfold Char.toLower
  split
  · rename_i hletter
    have hbound := hcapital.mp hletter
    rw [if_pos hbound]
    change (c.val.toNat + 32) % 2 ^ 32 = c.toNat + 32
    exact Nat.mod_eq_of_lt (Nat.lt_of_le_of_lt (Nat.add_le_add_right hbound.2 32) (by decide))
  · rename_i hother
    rw [if_neg (mt hcapital.mpr hother)]

theorem toLower_eq_iff {c d : Char} : c.toLower = d.toLower ↔ SameLetter c d := by
  rw [← Char.toNat_inj, toNat_toLower, toNat_toLower, SameLetter, ← Char.toNat_inj,
    show 'A'.toNat = 65 from rfl, show 'a'.toNat = 97 from rfl]
  constructor
  · intro h
    split at h <;> split at h
    · exact .inl (by omega)
    · exact .inr ⟨c.toNat - 65, by omega, .inl (by omega)⟩
    · exact .inr ⟨d.toNat - 65, by omega, .inr (by omega)⟩
    · exact .inl h
  · rintro (h | ⟨n, hn, h | h⟩)
    · rw [h]
    · rw [if_pos (by omega), if_neg (by omega)]
      omega
    · rw [if_neg (by omega), if_pos (by omega)]
      omega

/-- **Folding the case tells texts apart exactly if more than case does.** -/
theorem lowerAscii_eq_iff {s t : String} : lowerAscii s = lowerAscii t ↔ SameButCase s t := by
  rw [lowerAscii, lowerAscii, String.ofList_inj, ← List.forall₂_eq_eq_eq, List.forall₂_map_left_iff,
    List.forall₂_map_right_iff]
  simp only [toLower_eq_iff]
  rfl

/-! ## 2. Quotes -/

/-- **The name inside a text**: it stands between quotes, any number of them, and neither begins nor
ends with one. -/
def Bare (s name : String) : Prop :=
  ∃ before after, s.toList = List.replicate before '"' ++ name.toList ++ List.replicate after '"'
    ∧ name.toList.head? ≠ some '"' ∧ name.toList.getLast? ≠ some '"'

/-- What is dropped from the front of a text are quotes, and what is left begins with none. -/
theorem exists_dropWhile_quote (cs : List Char) : ∃ before,
    cs = List.replicate before '"' ++ cs.dropWhile (· == '"')
      ∧ (cs.dropWhile (· == '"')).head? ≠ some '"' := by
  refine ⟨(cs.takeWhile (· == '"')).length, ?_, fun h => ?_⟩
  · conv_lhs => rw [← List.takeWhile_append_dropWhile (p := (· == '"')) (l := cs)]
    congr 1
    exact List.eq_replicate_of_mem fun c hc =>
      beq_iff_eq.mp (List.mem_takeWhile_imp (p := (· == '"')) hc)
  · have := List.head?_dropWhile_not (· == '"') cs
    simp [h] at this

theorem dropWhile_replicate_quote (n : Nat) (cs : List Char) :
    (List.replicate n '"' ++ cs).dropWhile (· == '"') = cs.dropWhile (· == '"') :=
  List.dropWhile_append_of_pos fun _ hc => by rw [List.eq_of_mem_replicate hc]; rfl

/-- **Dropping quotes finds the name**, and there is no other one. -/
theorem unquoted_eq_iff {s name : String} : unquoted s = name ↔ Bare s name := by
  constructor
  · rintro rfl
    obtain ⟨before, hbefore, hfirst⟩ := exists_dropWhile_quote s.toList
    obtain ⟨after, hafter, hlast⟩ := exists_dropWhile_quote (s.toList.dropWhile (· == '"')).reverse
    simp only [Bare, unquoted, String.toList_ofList, List.getLast?_reverse]
    generalize (s.toList.dropWhile (· == '"')).reverse.dropWhile (· == '"') = cs at hafter hlast ⊢
    rw [List.reverse_eq_iff, List.reverse_append, List.reverse_replicate] at hafter
    rw [hafter] at hbefore hfirst
    refine ⟨before, after, by rw [hbefore, List.append_assoc], fun hhead => hfirst ?_, hlast⟩
    rw [List.head?_append, hhead, Option.some_or]
  · rintro ⟨before, after, hs, hfirst, hlast⟩
    rw [← String.toList_inj, unquoted, String.toList_ofList, hs, List.append_assoc,
      dropWhile_replicate_quote]
    cases hname : name.toList with
    | nil =>
      have hnone := dropWhile_replicate_quote after []
      rw [List.append_nil, List.dropWhile_nil] at hnone
      rw [List.nil_append, hnone]
      rfl
    | cons c cs =>
      rw [hname] at hfirst hlast
      have hreverse : (c :: cs).reverse.head? ≠ some '"' := by rwa [List.head?_reverse]
      have hfront : (c :: cs ++ List.replicate after '"').dropWhile (· == '"')
          = c :: cs ++ List.replicate after '"' :=
        List.dropWhile_beq_eq_self_of_head?_ne (by simpa using hfirst)
      rw [hfront, List.reverse_append, List.reverse_replicate, dropWhile_replicate_quote,
        List.dropWhile_beq_eq_self_of_head?_ne hreverse, List.reverse_reverse]

end WideColumn.Text
