/-
# Texts are ordered by their bytes

A store orders texts by the bytes of their UTF-8 form, and here they are ordered by code points.
The two are one order (`orderText_eq_lt_iff`), and that rests on how code points are written:

* of two code points the smaller one has FEWER BYTES, and then a smaller first byte;
* or AS MANY, and then the bytes are digits in base sixty-four, the most significant first.

In either case a byte decides before the shorter of the two ends, so nothing of what follows the
code points matters (`codeBytes_append_lt`).
-/
import WideColumn.Proofs.Value.StrictOrder

namespace WideColumn.Value

/-! ## 1. Rows of bytes -/

/-- Rows of bytes are ordered as lists are. -/
theorem orderBytes_eq_lt_iff : ∀ {as bs : List UInt8}, orderBytes as bs = .lt ↔ as < bs
  | [], [] => by simp [orderBytes]
  | [], _ :: _ => by simp [orderBytes]
  | _ :: _, [] => by simp [orderBytes]
  | a :: as, b :: bs => by
    rw [orderBytes, Ordering.then_eq_lt, Nat.compare_eq_lt, Nat.compare_eq_eq,
      orderBytes_eq_lt_iff, List.cons_lt_cons_iff, UInt8.lt_iff_toNat_lt, UInt8.toNat_inj]

theorem map_toNat_lt_iff : ∀ {as bs : List UInt8},
    as.map UInt8.toNat < bs.map UInt8.toNat ↔ as < bs
  | [], [] => by simp
  | [], _ :: _ => by simp
  | _ :: _, [] => by simp
  | a :: as, b :: bs => by
    rw [List.map_cons, List.map_cons, List.cons_lt_cons_iff, List.cons_lt_cons_iff,
      map_toNat_lt_iff, UInt8.lt_iff_toNat_lt, UInt8.toNat_inj]

/-! ## 2. Code points -/

/-- The bytes of a code point. -/
def codeBytes (n : Nat) : List Nat :=
  if n ≤ 127 then [n]
  else if n ≤ 2047 then [n / 64 + 192, n % 64 + 128]
  else if n ≤ 65535 then [n / 4096 + 224, n / 64 % 64 + 128, n % 64 + 128]
  else [n / 262144 + 240, n / 4096 % 64 + 128, n / 64 % 64 + 128, n % 64 + 128]

theorem toNat_lt_of_char (c : Char) : c.toNat < 1114112 := by
  rcases c.valid with h | ⟨-, h⟩ <;> rw [Char.toNat_val] at h <;> omega

theorem map_toNat_utf8EncodeChar (c : Char) :
    (String.utf8EncodeChar c).map UInt8.toNat = codeBytes c.toNat := by
  have hc := toNat_lt_of_char c
  rw [String.utf8EncodeChar, codeBytes, Char.toNat_val]
  generalize c.toNat = n at hc
  repeat' split
  all_goals
    simp only [List.map_cons, List.map_nil, UInt8.toNat_ofNat', List.cons.injEq, and_true]
    omega

/-- A smaller code point comes first, whatever follows. -/
theorem codeBytes_append_lt {m n : Nat} (h : m < n) (hn : n < 1114112) (as bs : List Nat) :
    codeBytes m ++ as < codeBytes n ++ bs := by
  unfold codeBytes
  repeat' split
  all_goals
    simp only [List.cons_append, List.nil_append, List.cons_lt_cons_iff, Nat.add_lt_add_iff_right,
      Nat.add_right_cancel_iff]
    omega

/-! ## 3. Texts -/

/-- The bytes of a text. -/
def bytesOf (s : String) : List UInt8 := s.toUTF8.data.toList

theorem bytesOf_eq (s : String) : bytesOf s = s.toList.flatMap String.utf8EncodeChar := by
  rw [bytesOf, String.toUTF8_eq_toByteArray, ← String.utf8Encode_toList, List.utf8Encode,
    List.toList_data_toByteArray]

theorem flatMap_codeBytes_lt {as bs : List Char} (h : orderChars as bs = .lt) :
    as.flatMap (codeBytes ·.toNat) < bs.flatMap (codeBytes ·.toNat) := by
  fun_induction orderChars as bs with
  | case1 | case3 => cases h
  | case2 b bs =>
    rw [List.flatMap_nil, List.flatMap_cons]
    unfold codeBytes
    repeat' split
    all_goals exact List.nil_lt_cons _ _
  | case4 a as b bs ih =>
    rw [Ordering.then_eq_lt, Nat.compare_eq_lt, Nat.compare_eq_eq] at h
    rw [List.flatMap_cons, List.flatMap_cons]
    rcases h with hlt | ⟨heq, hrest⟩
    · exact codeBytes_append_lt hlt (toNat_lt_of_char b) _ _
    · rw [heq]
      exact List.append_left_lt (ih hrest)

theorem bytesOf_lt {s t : String} (h : orderText s t = .lt) : bytesOf s < bytesOf t := by
  have hbytes := flatMap_codeBytes_lt h
  simp only [← map_toNat_utf8EncodeChar, ← List.map_flatMap, map_toNat_lt_iff] at hbytes
  rwa [bytesOf_eq, bytesOf_eq]

/-- **Texts are ordered as their bytes are.** -/
theorem orderText_eq_lt_iff {s t : String} : orderText s t = .lt ↔ bytesOf s < bytesOf t := by
  refine ⟨bytesOf_lt, fun h => ?_⟩
  cases horder : orderText s t with
  | lt => rfl
  | eq =>
    rw [(orderText_eq_iff s t).mp horder] at h
    exact absurd h (List.lt_irrefl _)
  | gt =>
    rw [← orderText_swap, Ordering.swap_eq_gt] at horder
    exact absurd h (List.lt_asymm (bytesOf_lt horder))

end WideColumn.Value
