/-
# The codecs of what is enumerated

A variant is stored as its name or as its place.  Reading goes through the variants in order: by
name it takes the first with that name, by place the one that stands there; and the place of a
variant is that of the first which equals it.  With variants that are all enumerated, under names of
their own, the two ways are inverse to each other, and everything else is refused
(`Codec.Exact`).

A place is stored as a number of thirty-two bits with a sign, so there may be half as many variants
as there are such numbers, and negative numbers are no places.
-/
import Mathlib.Data.List.Nodup
import WideColumn.Codec

namespace WideColumn

namespace Enumerated

variable {α : Type} {e : Enumerated α} {a : α}

/-- **All is enumerated**, under names of its own, so each variant once. -/
structure Complete (e : Enumerated α) : Prop where
  all : ∀ a, a ∈ e.variants
  named : (e.variants.map e.nameOf).Nodup

theorem Complete.nodup (h : e.Complete) : e.variants.Nodup := List.Nodup.of_map _ h.named

/-! ## 1. Names -/

/-- What is found under a name has it. -/
theorem nameOf_of_ofName? {name : String} (h : e.ofName? name = some a) : e.nameOf a = name := by
  simpa using List.find?_some h

/-- A variant is found under its name. -/
theorem ofName?_nameOf (h : e.Complete) (a : α) : e.ofName? (e.nameOf a) = some a := by
  cases hfind : e.ofName? (e.nameOf a) with
  | none => exact absurd (beq_self_eq_true _) (List.find?_eq_none.mp hfind a (h.all a))
  | some b =>
    rw [List.inj_on_of_nodup_map h.named (h.all b) (h.all a) (nameOf_of_ofName? hfind)]

/-! ## 2. Places -/

section Places

variable [BEq α] [LawfulBEq α]

/-- At the place of a variant stands the variant. -/
theorem ofOrdinal?_ordinal (h : a ∈ e.variants) : e.ofOrdinal? (e.ordinal a) = some a := by
  rw [ofOrdinal?, ordinal]
  cases hplace : e.variants.findIdx? (· == a) with
  | none =>
    have hne := List.findIdx?_eq_none_iff.mp hplace a h
    rw [beq_self_eq_true] at hne
    cases hne
  | some n =>
    obtain ⟨hn, heq, -⟩ := List.findIdx?_eq_some_iff_getElem.mp hplace
    rw [Option.getD_some, List.getElem?_eq_getElem hn, beq_iff_eq.mp heq]

theorem ordinal_lt (h : a ∈ e.variants) : e.ordinal a < e.variants.length :=
  (List.getElem?_eq_some_iff.mp (ofOrdinal?_ordinal h)).1

/-- No variant stands at a place that is not its own. -/
theorem ordinal_of_ofOrdinal? (h : e.Complete) {n : Nat} (hn : e.ofOrdinal? n = some a) :
    e.ordinal a = n :=
  (List.getElem?_inj (ordinal_lt (h.all a)) h.nodup).mp
    ((ofOrdinal?_ordinal (h.all a)).trans hn.symm)

end Places

end Enumerated

/-- The variants of a closed enumeration are complete where they have names of their own. -/
theorem Enumeration.complete {e : Enumeration} (h : e.variants.Nodup) : e.enumerated.Complete where
  all := List.mem_finRange
  named := by
    have hnames : (List.finRange e.variants.length).map e.nameOf = e.variants :=
      List.map_getElem_finRange e.variants
    change ((List.finRange e.variants.length).map e.nameOf).Nodup
    rwa [hnames]

/-! ## 3. Codecs -/

namespace Codec

variable {α : Type}

/-- **A codec between sources and just some values**: sources come back, what is read is what would
be written, and any other value is refused in a way that the value tells. -/
structure Exact (c : Codec α) (refusal : Value → CodecError) : Prop where
  back : ∀ a, (c.encode a >>= c.decode) = .ok a
  forth : ∀ v a, c.decode v = .ok a → c.encode a = .ok v
  refuses : ∀ v, (∀ a, c.encode a ≠ .ok v) → c.decode v = .error (refusal v)

/-- It is enough to know of each value what becomes of it. -/
theorem Exact.of_cases {c : Codec α} {refusal : Value → CodecError}
    (back : ∀ a, (c.encode a >>= c.decode) = .ok a)
    (h : ∀ v, (∃ a, c.decode v = .ok a ∧ c.encode a = .ok v) ∨ c.decode v = .error (refusal v)) :
    c.Exact refusal where
  back := back
  forth v a ha := by
    rcases h v with ⟨b, hb, hv⟩ | hrefused
    · rwa [Except.ok.inj (ha.symm.trans hb)]
    · cases ha.symm.trans hrefused
  refuses v hv := by
    rcases h v with ⟨b, -, hb⟩ | hrefused
    · exact absurd hb (hv b)
    · exact hrefused

/-- Texts are refused as names, and all other values for what they are. -/
def nameRefusal (e : Enumerated α) : Value → CodecError
  | .text name => .unknownVariant e.name name
  | v => .typeMismatch e.name v.typeName

/-- Numbers are refused as places, and all other values for what they are. -/
def placeRefusal (e : Enumerated α) : Value → CodecError
  | .int n => .unknownVariant e.name (toString n.toInt)
  | v => .typeMismatch e.name v.typeName

variable {e : Enumerated α}

theorem exact_byName (he : e.Complete) : (byName e).Exact (nameRefusal e) := by
  refine .of_cases (fun a => ?_) fun v => ?_
  · change (byName e).decode (.text (e.nameOf a)) = .ok a
    simp only [byName, Enumerated.ofName?_nameOf he]
  · cases v with
    | text name =>
      simp only [byName]
      cases hfind : e.ofName? name with
      | none => exact .inr rfl
      | some a => exact .inl ⟨a, rfl, by rw [Enumerated.nameOf_of_ofName? hfind]⟩
    | _ => exact .inr rfl

variable [BEq α] [LawfulBEq α]

/-- The place of a variant that is enumerated leads back to it. -/
theorem byOrdinal_decode {a : α} (ha : a ∈ e.variants) (hsmall : e.ordinal a < 2147483648) :
    (byOrdinal e).decode (.int (Int32.ofNat (e.ordinal a))) = .ok a := by
  have hread : (Int32.ofNat (e.ordinal a)).toInt = e.ordinal a := Int32.toInt_ofNat_of_lt hsmall
  simp only [byOrdinal, hread, Int.toNat_natCast, Enumerated.ofOrdinal?_ordinal ha]
  rw [if_neg (Int.not_lt.mpr (Int.natCast_nonneg _))]

theorem exact_byOrdinal (he : e.Complete) (hlength : e.variants.length ≤ 2147483648) :
    (byOrdinal e).Exact (placeRefusal e) := by
  have hsmall : ∀ a, e.ordinal a < 2147483648 := fun a =>
    Nat.lt_of_lt_of_le (Enumerated.ordinal_lt (he.all a)) hlength
  have hencode : ∀ a, (byOrdinal e).encode a = .ok (.int (Int32.ofNat (e.ordinal a))) :=
    fun a => if_pos (hsmall a)
  refine .of_cases (fun a => ?_) fun v => ?_
  · rw [hencode]
    exact byOrdinal_decode (he.all a) (hsmall a)
  · cases v with
    | int n =>
      by_cases hneg : n.toInt < 0
      · exact .inr (by simp only [byOrdinal, if_pos hneg]; rfl)
      · cases hfind : e.ofOrdinal? n.toInt.toNat with
        | none => exact .inr (by simp only [byOrdinal, if_neg hneg, hfind]; rfl)
        | some a =>
          refine .inl ⟨a, by simp only [byOrdinal, if_neg hneg, hfind], ?_⟩
          have hn : (n.toInt.toNat : Int) = n.toInt := Int.toNat_of_nonneg (Int.not_lt.mp hneg)
          rw [hencode, Enumerated.ordinal_of_ofOrdinal? he hfind, ← Int32.ofInt_eq_ofNat, hn,
            Int32.ofInt_toInt]
    | _ => exact .inr rfl

/-- So the codecs of a closed enumeration are exact where its variants have names of their own. -/
theorem exact_of_enumeration {e : Enumeration} (hnames : e.variants.Nodup)
    (hlength : e.variants.length ≤ 2147483648) :
    (enumName e).Exact (nameRefusal e.enumerated)
      ∧ (enumOrdinal e).Exact (placeRefusal e.enumerated) :=
  have hcomplete := Enumeration.complete hnames
  ⟨exact_byName hcomplete, exact_byOrdinal hcomplete (by
    change (List.finRange _).length ≤ _
    rwa [List.length_finRange])⟩

/-- **The codecs of what is enumerated are exact**, where all variants are enumerated, under names
of their own, and there are no more of them than places.  A variant comes back from its name and
from its place, what is read is what would be written, and any other value is refused: a text as an
unknown name, a number as an unknown place, and the rest for being of another kind. -/
theorem enumeration_codecs_exact (he : e.Complete) (hlength : e.variants.length ≤ 2147483648) :
    (byName e).Exact (nameRefusal e) ∧ (byOrdinal e).Exact (placeRefusal e) :=
  ⟨exact_byName he, exact_byOrdinal he hlength⟩

/-- The answers to a question, yes before no. -/
def answers : Enumerated Bool := ⟨"Answer", [true, false], fun a => if a then "YES" else "NO"⟩

theorem enumeration_codecs_exact_answers :
    answers.Complete ∧ answers.variants.length ≤ 2147483648
    ∧ (byName answers).Exact (nameRefusal answers)
    ∧ (byOrdinal answers).Exact (placeRefusal answers)
    ∧ (byOrdinal answers).encode false = .ok (.int 1)
    ∧ (byOrdinal answers).decode (.int (-1)) = .error (.unknownVariant "Answer" "-1") := by
  have hcomplete : answers.Complete := ⟨by decide, by decide⟩
  have hlength : answers.variants.length ≤ 2147483648 := by decide
  obtain ⟨hname, hplace⟩ := enumeration_codecs_exact hcomplete hlength
  exact ⟨hcomplete, hlength, hname, hplace, rfl, rfl⟩

end Codec

end WideColumn
