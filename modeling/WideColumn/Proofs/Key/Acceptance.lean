/-
# Which sides tell a range

Resolution walks along both sides at once and stops at the first component that does not fit.
Here it is said without steps which sides it takes, and what range it makes of them.

A side is TRIMMED of the components left open at its end.  Nothing may be left open in what
remains, both sides must fix the partition to one value, and then there are three ways to fit:
the partition key alone on both sides; sides of equal depth that agree up to their last components,
which are in order; or sides one of which is a single component deeper than the other and agrees
with all of it.  What both have in common is fixed, and what is left of a side bounds it
(`resolve_eq_ok_iff_accepted`).

Resolution can also be done BY PLACES: the depth of a side is the place of its last present
component, and components are looked up by their places.  Such a look-up may find nothing.  It
never does (`resolveByPlaces_eq`): what was checked before keeps every place within its side.
-/
import Mathlib.Data.List.DropRight
import WideColumn.Proofs.Key.Range

namespace WideColumn.Key

variable {α : Type} [Component α]

/-! ## 1. Trimmed sides -/

/-- A side without the components that are left open at its end. -/
def trimmed (cs : List α) : List α := cs.rdropWhile Component.absent

theorem trimmed_of_present {cs : List α} (h : ∀ c ∈ cs, Component.absent c = false) :
    trimmed cs = cs := by
  rw [trimmed, List.rdropWhile_eq_self_iff]
  intro hne
  simp [h _ (List.getLast_mem hne)]

theorem trimmed_append {cs opened : List α} (hcs : ∀ c ∈ cs, Component.absent c = false)
    (hopened : ∀ c ∈ opened, Component.absent c = true) : trimmed (cs ++ opened) = cs := by
  induction opened using List.reverseRecOn with
  | nil => rw [List.append_nil, trimmed_of_present hcs]
  | append_singleton opened c ih =>
    have hc : Component.absent c = true := hopened c (by simp)
    rw [trimmed, ← List.append_assoc, List.rdropWhile_concat_pos _ _ _ hc]
    exact ih fun c hc => hopened c (List.mem_append_left _ hc)

/-- A side is what is left of it when it is trimmed, and what was left open. -/
theorem trimmed_append_opened (cs : List α) :
    ∃ opened, cs = trimmed cs ++ opened ∧ ∀ c ∈ opened, Component.absent c = true :=
  ⟨cs.rtakeWhile Component.absent, (List.rdropWhile_append_rtakeWhile ..).symm,
    fun _ hc => List.mem_rtakeWhile_imp hc⟩

/-- A side without a gap is present up to what is left open at its end. -/
theorem eq_append_of_checkNoGap {side : Side} {cs : List α} (h : checkNoGap side cs = .ok ()) :
    ∃ opened, cs = presentOf cs ++ opened ∧ ∀ c ∈ opened, Component.absent c = true := by
  unfold checkNoGap firstAfterGap? at h
  have hcut : cs.drop (presentOf cs).length = (cs.drop (presentOf cs).length).takeWhile
      Component.absent := by
    refine ((List.takeWhile_prefix _).eq_of_length_le ?_).symm
    rw [List.length_drop]
    dsimp only at h
    split at h
    · cases h
    · rename_i hnone
      simp only [ite_eq_right_iff, reduceCtorEq, imp_false, Nat.not_lt] at hnone
      rw [presentOf]
      omega
  refine ⟨cs.drop (presentOf cs).length, ?_, ?_⟩
  · have hprefix : presentOf cs <+: cs := List.takeWhile_prefix _
    conv_lhs => rw [← List.take_append_drop (presentOf cs).length cs]
    rw [← List.prefix_iff_eq_take.mp hprefix]
  · intro c hc
    rw [hcut] at hc
    exact List.mem_takeWhile_imp hc

theorem present_of_mem_presentOf (cs : List α) :
    ∀ c ∈ presentOf cs, Component.absent c = false := by
  intro c hc
  simpa using List.mem_takeWhile_imp hc

/-- **A side has no gap exactly if nothing is left open in it once it is trimmed.** -/
theorem checkNoGap_eq_ok_iff {side : Side} {cs : List α} :
    checkNoGap side cs = .ok () ↔ ∀ c ∈ trimmed cs, Component.absent c = false := by
  constructor
  · intro h
    obtain ⟨opened, hcs, hopened⟩ := eq_append_of_checkNoGap h
    have hpresent := present_of_mem_presentOf cs
    rw [hcs, trimmed_append hpresent hopened]
    exact hpresent
  · intro h
    obtain ⟨opened, hcs, hopened⟩ := trimmed_append_opened cs
    rw [hcs]
    exact checkNoGap_append side h hopened

theorem presentOf_eq_trimmed {cs : List α} (h : ∀ c ∈ trimmed cs, Component.absent c = false) :
    presentOf cs = trimmed cs := by
  obtain ⟨opened, hcs, hopened⟩ := trimmed_append_opened cs
  conv_lhs => rw [hcs]
  exact presentOf_append h hopened

theorem lastPresent?_eq (cs : List α) :
    lastPresent? cs = if (trimmed cs).length = 0 then none else some ((trimmed cs).length - 1) := by
  simp [lastPresent?, trimmed, List.rdropWhile]

/-! ## 2. What both sides have in common -/

/-- Checks that components agree in pairs, of which the first stands at `position`. -/
def agree (position : Nat) : List α → List α → Except RangeError Unit
  | a :: as, b :: bs =>
    if Component.same a b then agree (position + 1) as bs else .error (.prefixMismatch position)
  | _, _ => .ok ()

/-- **Clustering components are checked in pairs, and then their bounds**, where a bound is left
over unless there is nothing at all. -/
theorem resolveClustering_split (position : Nat) {cs ds : List α} (hlength : cs.length = ds.length)
    {lower upper : Option α} (hsome : cs = [] ∨ lower ≠ none ∨ upper ≠ none) :
    resolveClustering position (cs ++ lower.toList) (ds ++ upper.toList) =
      (agree position cs ds).bind fun _ =>
        if boundsOutOfOrder lower upper then .error (.nonMonotonic (position + cs.length))
        else .ok ⟨cs, lower, upper⟩ := by
  induction cs generalizing position ds with
  | nil =>
    obtain rfl := List.length_eq_zero_iff.mp hlength.symm
    exact resolveClustering_bounds position lower upper
  | cons c cs ih =>
    obtain ⟨d, ds, rfl⟩ := List.exists_cons_of_length_eq_add_one hlength.symm
    have hleft : lower ≠ none ∨ upper ≠ none := hsome.resolve_left (List.cons_ne_nil c cs)
    have hmore : cs ++ lower.toList = [] → ds ++ upper.toList = [] → False := by
      intro hstart hstop
      have hlower := (List.append_eq_nil_iff.mp hstart).2
      have hupper := (List.append_eq_nil_iff.mp hstop).2
      simp only [Option.toList_eq_nil_iff] at hlower hupper
      exact hleft.elim (· hlower) (· hupper)
    rw [List.cons_append, List.cons_append, resolveClustering.eq_5 _ _ _ _ _ hmore, agree]
    split
    · rw [ih _ (Nat.succ.inj hlength) (Or.inr hleft), List.length_cons, Nat.add_right_comm,
        Nat.add_assoc]
      cases agree (position + 1) cs ds with
      | error e => rfl
      | ok => cases boundsOutOfOrder lower upper <;> rfl
    · rfl

/-- Components of two sides at one place that fix their column to one value. -/
def AgreeAt (as bs : List α) (i : Nat) : Prop :=
  ∃ a b, as[i]? = some a ∧ bs[i]? = some b ∧ Component.same a b = true

/-- The pairs are found in order exactly if components agree at each of their places. -/
theorem agree_eq_ok_iff {position : Nat} {cs ds : List α} (hlength : cs.length = ds.length) :
    agree position cs ds = .ok () ↔ ∀ i < cs.length, AgreeAt cs ds i := by
  induction cs generalizing position ds with
  | nil => simp [agree]
  | cons c cs ih =>
    obtain ⟨d, ds, rfl⟩ := List.exists_cons_of_length_eq_add_one hlength.symm
    have hzero : AgreeAt (c :: cs) (d :: ds) 0 ↔ Component.same c d = true := by
      simp [AgreeAt]
    have hsucc : ∀ i, AgreeAt (c :: cs) (d :: ds) (i + 1) ↔ AgreeAt cs ds i := by
      simp [AgreeAt]
    have hall : (∀ i < (c :: cs).length, AgreeAt (c :: cs) (d :: ds) i) ↔
        Component.same c d = true ∧ ∀ i < cs.length, AgreeAt cs ds i := by
      rw [List.length_cons, Nat.forall_lt_succ_left, hzero]
      simp only [hsucc]
    rw [agree, hall, ← @ih (position + 1) ds (Nat.succ.inj hlength)]
    split
    · rename_i hsame
      simp only [hsame, true_and]
    · rename_i hsame
      simp [hsame]

/-! ## 3. Ranges that sides tell -/

/-- How far two sides go together: as far as the shorter one, or up to the last component where
they are equally deep. -/
def sharedDepth (as bs : List α) : Nat :=
  if as.length = bs.length then max (as.length - 1) 1 else min as.length bs.length

/-- The range that two sides tell, if they tell one: what they have in common is fixed, as the
first one has it, and what is left of each bounds it. -/
def rangeOf (as bs : List α) : Range α :=
  ⟨as.take (sharedDepth as bs), as[sharedDepth as bs]?, bs[sharedDepth as bs]?⟩

/-- **How sides of present components fit together.** -/
inductive Fits (as bs : List α) : Prop
  /-- The partition key alone. -/
  | whole (hstart : as.length = 1) (hstop : bs.length = 1)
  /-- Equal depth, and the last components in order. -/
  | both (hlength : as.length = bs.length) (hmany : 1 < as.length)
    (hagree : ∀ i, 1 ≤ i → i + 1 < as.length → AgreeAt as bs i) {a b : α}
    (hlower : as.getLast? = some a) (hupper : bs.getLast? = some b)
    (hlt : Component.order? a b = some .lt)
  /-- One side a component deeper than the other. -/
  | one (hlength : as.length = bs.length + 1 ∨ bs.length = as.length + 1)
    (hagree : ∀ i < min as.length bs.length, AgreeAt as bs i)

/-- **Which sides are accepted**: both empty, or, once they are trimmed, without gaps, of one
partition and fitting together. -/
def Accepted (start stop : List α) : Prop :=
  (start = [] ∧ stop = []) ∨
    ((∀ c ∈ trimmed start, Component.absent c = false)
      ∧ (∀ c ∈ trimmed stop, Component.absent c = false)
      ∧ AgreeAt (trimmed start) (trimmed stop) 0 ∧ Fits (trimmed start) (trimmed stop))

omit [Component α] in
/-- A row that is at most one component deeper than a place is cut there. -/
theorem take_append_getElem? {cs : List α} {k : Nat} (h : cs.length ≤ k + 1) :
    cs = cs.take k ++ cs[k]?.toList := by
  conv_lhs => rw [← List.take_append_drop k cs]
  congr 1
  rcases Nat.lt_or_ge k cs.length with hk | hk
  · rw [List.getElem?_eq_getElem hk, List.drop_eq_getElem_cons hk, Option.toList_some,
      List.drop_eq_nil_of_le h]
  · rw [List.getElem?_eq_none hk, Option.toList_none, List.drop_eq_nil_of_le hk]

omit [Component α] in
/-- Sides that differ in depth by one at most have at most a bound left where they part. -/
theorem depths_of_sharedDepth {p q : α} {as bs : List α} (hstart : as.length ≤ bs.length + 1)
    (hstop : bs.length ≤ as.length + 1) {k : Nat}
    (hk : sharedDepth (p :: as) (q :: bs) = k + 1) :
    as.length ≤ k + 1 ∧ bs.length ≤ k + 1 ∧ k ≤ as.length ∧ k ≤ bs.length
      ∧ (k = 0 ∨ k < as.length ∨ k < bs.length) := by
  unfold sharedDepth at hk
  simp only [List.length_cons] at hk
  split at hk <;> omega

/-- Sides of one partition that differ in depth by one at most are checked in pairs as far as they
go together, and then in their bounds. -/
theorem resolvePresent_cons {p q : α} {as bs : List α} (hsame : Component.same p q = true)
    (hstart : as.length ≤ bs.length + 1) (hstop : bs.length ≤ as.length + 1) {k : Nat}
    (hk : sharedDepth (p :: as) (q :: bs) = k + 1) :
    resolvePresent (p :: as) (q :: bs) =
      (agree 1 (as.take k) (bs.take k)).bind fun _ =>
        if boundsOutOfOrder as[k]? bs[k]? then .error (.nonMonotonic (k + 1))
        else .ok (rangeOf (p :: as) (q :: bs)) := by
  obtain ⟨has, hbs, hka, hkb, hleft⟩ := depths_of_sharedDepth hstart hstop hk
  have hlength : (as.take k).length = k := List.length_take_of_le hka
  have hlength' : (as.take k).length = (bs.take k).length := by
    rw [hlength, List.length_take_of_le hkb]
  have hbound : as.take k = [] ∨ as[k]? ≠ none ∨ bs[k]? ≠ none := by
    rcases hleft with rfl | hk | hk
    · exact Or.inl rfl
    · exact Or.inr (Or.inl (by simp [hk]))
    · exact Or.inr (Or.inr (by simp [hk]))
  have hsplit := resolveClustering_split 1 hlength' hbound
  rw [← take_append_getElem? has, ← take_append_getElem? hbs, hlength] at hsplit
  have hnear : ¬(as.length + 1 < bs.length ∨ bs.length + 1 < as.length) := by omega
  simp only [resolvePresent, hsame, Bool.not_true, Bool.false_eq_true, if_false, Bool.or_eq_true,
    decide_eq_true_eq, hnear, hsplit, rangeOf, hk, Nat.add_comm 1 k]
  cases agree 1 (as.take k) (bs.take k) with
  | error e => rfl
  | ok => cases boundsOutOfOrder as[k]? bs[k]? <;> rfl

/-- As far as two sides go together, pairs are found in order exactly if they agree. -/
theorem agree_take_eq_ok_iff {p q : α} {as bs : List α} (hstart : as.length ≤ bs.length + 1)
    (hstop : bs.length ≤ as.length + 1) {k position : Nat}
    (hk : sharedDepth (p :: as) (q :: bs) = k + 1) :
    agree position (as.take k) (bs.take k) = .ok () ↔
      ∀ i < k, AgreeAt (as.take k) (bs.take k) i := by
  obtain ⟨-, -, hka, hkb, -⟩ := depths_of_sharedDepth hstart hstop hk
  have hlength := List.length_take_of_le hka
  rw [agree_eq_ok_iff (hlength.trans (List.length_take_of_le hkb).symm), hlength]

/-- Where two sides go together, they agree one place later with the partition in front. -/
theorem agreeAt_take_iff {p q : α} {as bs : List α} {k i : Nat} (hi : i < k) :
    AgreeAt (as.take k) (bs.take k) i ↔ AgreeAt (p :: as) (q :: bs) (i + 1) := by
  simp [AgreeAt, hi]

omit [Component α] in
/-- The last component of a side stands one place earlier without the partition. -/
theorem getLast?_cons_eq {p : α} {as : List α} {k : Nat} (h : as.length = k + 1) :
    (p :: as).getLast? = as[k]? := by
  rw [List.getLast?_eq_getElem?, List.length_cons, h]
  rfl

/-- Where a side has no bound left, nothing is out of order. -/
theorem boundsOutOfOrder_of_length_le {as bs : List α} {k : Nat}
    (h : as.length ≤ k ∨ bs.length ≤ k) : boundsOutOfOrder as[k]? bs[k]? = false := by
  rcases h with h | h
  · rw [List.getElem?_eq_none h]
    rfl
  · rw [List.getElem?_eq_none h]
    cases as[k]? <;> rfl

/-- **Sides of one partition fit together exactly if resolution finds nothing to refuse.** -/
theorem fits_cons_iff {p q : α} {as bs : List α} {k : Nat} (hsame : Component.same p q = true)
    (hk : sharedDepth (p :: as) (q :: bs) = k + 1) :
    Fits (p :: as) (q :: bs) ↔
      (as.length ≤ bs.length + 1 ∧ bs.length ≤ as.length + 1)
        ∧ (∀ i < k, AgreeAt (as.take k) (bs.take k) i)
        ∧ boundsOutOfOrder as[k]? bs[k]? = false := by
  unfold sharedDepth at hk
  simp only [List.length_cons, Nat.add_sub_cancel, Nat.add_right_cancel_iff] at hk
  constructor
  · intro h
    cases h with
    | whole hstart hstop =>
      simp only [List.length_cons, Nat.add_eq_right, List.length_eq_zero_iff] at hstart hstop
      subst hstart hstop
      obtain rfl : k = 0 := by simpa using hk.symm
      exact ⟨by simp, by simp, rfl⟩
    | both hlength hmany hagree hlower hupper hlt =>
      simp only [List.length_cons, Nat.add_right_cancel_iff] at hlength hmany hagree
      rw [if_pos hlength] at hk
      rw [getLast?_cons_eq (k := k) (by omega)] at hlower hupper
      refine ⟨by omega, ?_, ?_⟩
      · intro i hi
        exact (agreeAt_take_iff hi).mpr (hagree (i + 1) (by omega) (by omega))
      · simp [hlower, hupper, boundsOutOfOrder, hlt]
    | one hlength hagree =>
      simp only [List.length_cons] at hlength hagree
      rw [if_neg (by omega)] at hk
      refine ⟨by omega, ?_, ?_⟩
      · intro i hi
        exact (agreeAt_take_iff hi).mpr (hagree (i + 1) (by omega))
      · exact boundsOutOfOrder_of_length_le (by omega)
  · rintro ⟨hdepth, hagree, hbounds⟩
    have hpairs : ∀ i < k + 1, AgreeAt (p :: as) (q :: bs) i := by
      intro i hi
      cases i with
      | zero => exact ⟨p, q, rfl, rfl, hsame⟩
      | succ i => exact (agreeAt_take_iff (by omega)).mp (hagree i (by omega))
    by_cases hlength : as.length = bs.length
    · rw [if_pos (by omega)] at hk
      rcases Nat.eq_zero_or_pos as.length with hnone | hmany
      · exact .whole (by rw [List.length_cons]; omega) (by rw [List.length_cons]; omega)
      · -- both sides have a last component, and it stands at `k`
        have hlower : as[k]? = some as[k] := List.getElem?_eq_getElem (by omega)
        have hupper : bs[k]? = some bs[k] := List.getElem?_eq_getElem (by omega)
        have hlt : Component.order? as[k] bs[k] = some .lt := by
          rw [hlower, hupper] at hbounds
          simpa [boundsOutOfOrder] using hbounds
        refine .both (by simpa using hlength) (by simpa using hmany) ?_
          ((getLast?_cons_eq (by omega)).trans hlower) ((getLast?_cons_eq (by omega)).trans hupper)
          hlt
        intro i _ hi
        rw [List.length_cons] at hi
        exact hpairs i (by omega)
    · rw [if_neg (by omega)] at hk
      refine .one (by simp only [List.length_cons]; omega) ?_
      intro i hi
      simp only [List.length_cons] at hi
      exact hpairs i (by omega)

/-- **Present sides are resolved exactly if they are of one partition and fit together**, and then
to the range that they tell. -/
theorem resolvePresent_eq_ok_iff_fits {as bs : List α} {r : Range α} :
    resolvePresent as bs = .ok r ↔ (AgreeAt as bs 0 ∧ Fits as bs) ∧ r = rangeOf as bs := by
  match as, bs with
  | [], _ => simp [resolvePresent, AgreeAt]
  | p :: as, [] => simp [resolvePresent, AgreeAt]
  | p :: as, q :: bs =>
    obtain ⟨k, hk⟩ : ∃ k, sharedDepth (p :: as) (q :: bs) = k + 1 := by
      refine Nat.exists_eq_succ_of_ne_zero ?_
      unfold sharedDepth
      split <;> simp
    have hzero : AgreeAt (p :: as) (q :: bs) 0 ↔ Component.same p q = true := by simp [AgreeAt]
    rw [hzero]
    constructor
    · intro h
      obtain ⟨hsame, r', hr', -⟩ := resolvePresent_cons_eq_ok_iff.mp h
      obtain ⟨hstart, hstop⟩ := hr'.depth
      rw [resolvePresent_cons hsame hstart hstop hk] at h
      obtain ⟨⟨⟩, hagree, h⟩ := Except.bind_eq_ok_iff.mp h
      rw [agree_take_eq_ok_iff hstart hstop hk] at hagree
      split at h
      · cases h
      · rename_i hbounds
        cases h
        rw [Bool.not_eq_true] at hbounds
        exact ⟨⟨hsame, (fits_cons_iff hsame hk).mpr ⟨⟨hstart, hstop⟩, hagree, hbounds⟩⟩, rfl⟩
    · rintro ⟨⟨hsame, hfits⟩, rfl⟩
      obtain ⟨⟨hstart, hstop⟩, hagree, hbounds⟩ := (fits_cons_iff hsame hk).mp hfits
      rw [resolvePresent_cons hsame hstart hstop hk,
        (agree_take_eq_ok_iff hstart hstop hk).mpr hagree, hbounds]
      rfl

/-- **Sides are resolved exactly if they are accepted**, and then to the range that they tell once
they are trimmed. -/
theorem resolve_eq_ok_iff_accepted {start stop : List α} {r : Range α} :
    resolve start stop = .ok r ↔
      Accepted start stop ∧ r = rangeOf (trimmed start) (trimmed stop) := by
  rw [resolve]
  split
  · rename_i hempty
    obtain ⟨rfl, rfl⟩ : start = [] ∧ stop = [] := by simpa using hempty
    have hunbounded : rangeOf (trimmed ([] : List α)) (trimmed []) = .unbounded := rfl
    rw [hunbounded]
    constructor
    · intro h
      cases h
      exact ⟨Or.inl ⟨rfl, rfl⟩, rfl⟩
    · rintro ⟨-, rfl⟩
      rfl
  · rename_i hsome
    have hne : ¬(start = [] ∧ stop = []) := by simpa using hsome
    simp only [Except.bind_eq_ok_iff]
    constructor
    · rintro ⟨⟨⟩, hstart, ⟨⟩, hstop, h⟩
      rw [checkNoGap_eq_ok_iff] at hstart hstop
      rw [← presentOf, ← presentOf, presentOf_eq_trimmed hstart, presentOf_eq_trimmed hstop,
        resolvePresent_eq_ok_iff_fits] at h
      obtain ⟨⟨hzero, hfits⟩, rfl⟩ := h
      exact ⟨Or.inr ⟨hstart, hstop, hzero, hfits⟩, rfl⟩
    · rintro ⟨hempty | ⟨hstart, hstop, hzero, hfits⟩, rfl⟩
      · exact absurd hempty hne
      · refine ⟨(), checkNoGap_eq_ok_iff.mpr hstart, (), checkNoGap_eq_ok_iff.mpr hstop, ?_⟩
        rw [← presentOf, ← presentOf, presentOf_eq_trimmed hstart, presentOf_eq_trimmed hstop]
        exact resolvePresent_eq_ok_iff_fits.mpr ⟨⟨hzero, hfits⟩, rfl⟩

/-- The range of accepted sides takes them apart: the first side is what is fixed and its bound,
and beyond what is fixed the second one has nothing but its bound. -/
theorem Accepted.parts {start stop : List α} (h : Accepted start stop) {r : Range α}
    (hr : r = rangeOf (trimmed start) (trimmed stop)) :
    trimmed start = r.fixed ++ r.lower.toList ∧ r.fixed.length ≤ (trimmed stop).length
      ∧ (trimmed stop).drop r.fixed.length = r.upper.toList := by
  rcases h with ⟨rfl, rfl⟩ | ⟨-, -, -, hfits⟩
  · subst hr
    exact ⟨rfl, Nat.le_refl _, rfl⟩
  have hdepth : (trimmed start).length ≤ sharedDepth (trimmed start) (trimmed stop) + 1
      ∧ (trimmed stop).length ≤ sharedDepth (trimmed start) (trimmed stop) + 1
      ∧ sharedDepth (trimmed start) (trimmed stop) ≤ (trimmed start).length
      ∧ sharedDepth (trimmed start) (trimmed stop) ≤ (trimmed stop).length := by
    unfold sharedDepth
    cases hfits with
    | whole | both | one => split <;> omega
  generalize trimmed start = as at *
  generalize trimmed stop = bs at *
  obtain ⟨has, hbs, hka, hkb⟩ := hdepth
  subst hr
  rw [rangeOf, List.length_take_of_le hka]
  refine ⟨take_append_getElem? has, hkb, ?_⟩
  have hsplit := (List.take_append_drop (sharedDepth as bs) bs).trans (take_append_getElem? hbs)
  exact List.append_cancel_left hsplit

omit [Component α] in
/-- A range has no bound exactly if it means a whole partition. -/
theorem isWholePartition_rangeOf (as bs : List α) :
    (rangeOf as bs).isWholePartition = true ↔
      (rangeOf as bs).lower = none ∧ (rangeOf as bs).upper = none := by
  simp only [rangeOf, Range.isWholePartition, Bool.and_eq_true, decide_eq_true_eq,
    Option.isNone_iff_eq_none, and_assoc, and_iff_right_iff_imp, List.getElem?_eq_none_iff,
    List.length_take]
  rintro ⟨hstart, hstop⟩
  by_cases hlength : as.length = bs.length
  · rw [sharedDepth, if_pos hlength] at *
    omega
  · rw [sharedDepth, if_neg hlength] at *
    omega

/-- A range must be bounded exactly if some side of it is. -/
theorem resolveBounded_eq_ok_iff {start stop : List α} {r : Range α} :
    resolveBounded start stop = .ok r ↔
      resolve start stop = .ok r ∧ (r.lower ≠ none ∨ r.upper ≠ none) := by
  have hbounded : ∀ r', resolve start stop = .ok r' →
      (r'.isWholePartition = false ↔ r'.lower ≠ none ∨ r'.upper ≠ none) := by
    intro r' hr'
    obtain ⟨-, rfl⟩ := resolve_eq_ok_iff_accepted.mp hr'
    rw [← Bool.not_eq_true, isWholePartition_rangeOf, not_and_or]
  rw [resolveBounded, Except.bind_eq_ok_iff]
  constructor
  · rintro ⟨r', hr', h⟩
    split at h
    · cases h
    · rename_i hwhole
      cases h
      exact ⟨hr', (hbounded r hr').mp (Bool.not_eq_true _ ▸ hwhole)⟩
  · rintro ⟨hr, hsome⟩
    refine ⟨r, hr, ?_⟩
    rw [(hbounded r hr).mpr hsome]
    rfl

/-! ## 4. Resolution by places -/

/-- A result that may be a failure, and is missing where a place was looked up that is not
there. -/
abbrev Lookup (β : Type) : Type := ExceptT RangeError Option β

namespace Lookup

/-- The component at a place. -/
def component (cs : List α) (place : Nat) : Lookup α := ExceptT.lift cs[place]?

/-- The components before a place. -/
def before (cs : List α) (place : Nat) : Lookup (List α) :=
  ExceptT.lift (if place ≤ cs.length then some (cs.take place) else none)

/-- A result that looks nothing up. -/
def result {β : Type} (x : Except RangeError β) : Lookup β := ExceptT.mk (some x)

/-- The depth of a side, which must not be left open as a whole. -/
def depth (side : Side) (cs : List α) : Lookup Nat :=
  match lastPresent? cs with
  | some place => pure place
  | none => throw (.partitionAbsent side)

/-- Checks that both sides agree at so many places from `place` on. -/
def checkAgree (start stop : List α) : (count place : Nat) → Lookup Unit
  | 0, _ => pure ()
  | count + 1, place => do
    let a ← component start place
    let b ← component stop place
    if Component.same a b then checkAgree start stop count (place + 1)
    else throw (.prefixMismatch place)

/-- The bounds of sides that part at the given depths, of which one may be the deeper. -/
def bounds (start stop : List α) (i j : Nat) : Lookup (Option α × Option α) :=
  if j < i then do return (some (← component start i), none)
  else do return (none, some (← component stop j))

/-- Resolves sides of one partition and of equal depth. -/
def level (start stop : List α) : (depth : Nat) → Lookup (Range α)
  | 0 => do return ⟨[← component start 0], none, none⟩
  | place + 1 => do
    checkAgree start stop place 1
    let a ← component start (place + 1)
    let b ← component stop (place + 1)
    if Component.order? a b != some .lt then throw (.nonMonotonic (place + 1))
    else return ⟨← before start (place + 1), some a, some b⟩

/-- Resolves sides of one partition of which one is deeper. -/
def uneven (start stop : List α) (i j : Nat) : Lookup (Range α) := do
  checkAgree start stop (min i j) 1
  let (lower, upper) ← bounds start stop i j
  return ⟨← before start (min i j + 1), lower, upper⟩

/-- Resolves sides that have no gap. -/
def gapless (start stop : List α) : Lookup (Range α) := do
  let i ← depth .start start
  let j ← depth .stop stop
  let p ← component start 0
  let q ← component stop 0
  if !Component.same p q then throw .partitionMismatch
  else if 1 < max i j - min i j then throw (.depthMismatch i j)
  else if i = j then level start stop i
  else uneven start stop i j

end Lookup

open Lookup in
/-- Resolves the two sides of a range by the places of their components. -/
def resolveByPlaces (start stop : List α) : Lookup (Range α) :=
  if start.isEmpty && stop.isEmpty then pure .unbounded
  else do
    result (checkNoGap .start start)
    result (checkNoGap .stop stop)
    gapless start stop

namespace Lookup

variable {β γ : Type}

@[simp] theorem result_bind (x : Except RangeError β) (f : β → Except RangeError γ) :
    result (x.bind f) = result x >>= fun b => result (f b) := by
  cases x <;> rfl

omit [Component α] in
/-- A component that is present is found. -/
theorem component_append {cs opened : List α} {place : Nat} {c : α} (h : cs[place]? = some c) :
    component (cs ++ opened) place = pure c := by
  obtain ⟨hlt, -⟩ := List.getElem?_eq_some_iff.mp h
  rw [component, List.getElem?_append_left hlt, h]
  rfl

omit [Component α] in
theorem before_append {cs opened : List α} {place : Nat} (h : place ≤ cs.length) :
    before (cs ++ opened) place = pure (cs.take place) := by
  rw [before, if_pos (by rw [List.length_append]; omega), List.take_append_of_le_length h]
  rfl

/-- Components are found in order by their places as they are in pairs. -/
theorem checkAgree_append {cs ds opened opened' : List α} {place count : Nat}
    (hcs : place + count ≤ cs.length) (hds : place + count ≤ ds.length) :
    checkAgree (cs ++ opened) (ds ++ opened') count place =
      result (agree place ((cs.drop place).take count) ((ds.drop place).take count)) := by
  induction count generalizing place with
  | zero => rfl
  | succ count ih =>
    have hlt : place < cs.length := by omega
    have hlt' : place < ds.length := by omega
    rw [checkAgree, component_append (List.getElem?_eq_getElem hlt),
      component_append (List.getElem?_eq_getElem hlt'), pure_bind, pure_bind,
      List.drop_eq_getElem_cons hlt, List.drop_eq_getElem_cons hlt', List.take_succ_cons,
      List.take_succ_cons, agree]
    split
    · exact ih (by omega) (by omega)
    · rfl

/-- The depth of a side that is present up to its end. -/
theorem depth_append_cons {side : Side} {p : α} {as opened : List α}
    (hpresent : ∀ c ∈ p :: as, Component.absent c = false)
    (hopened : ∀ c ∈ opened, Component.absent c = true) :
    depth side (p :: as ++ opened) = pure as.length := by
  rw [depth, lastPresent?_eq, trimmed_append hpresent hopened]
  rfl

theorem depth_of_opened {side : Side} {opened : List α}
    (hopened : ∀ c ∈ opened, Component.absent c = true) :
    depth side opened = throw (.partitionAbsent side) := by
  have htrimmed : trimmed ([] ++ opened) = [] := trimmed_append nofun hopened
  rw [List.nil_append] at htrimmed
  rw [depth, lastPresent?_eq, htrimmed]
  rfl

omit [Component α] in
/-- What is left of sides that part at a place is found there. -/
theorem bounds_append {as bs opened opened' : List α} {k : Nat}
    (hlength : as.length = bs.length + 1 ∧ k = bs.length
      ∨ bs.length = as.length + 1 ∧ k = as.length) (p q : α) :
    bounds (p :: as ++ opened) (q :: bs ++ opened') as.length bs.length =
      pure (as[k]?, bs[k]?) := by
  rcases hlength with ⟨hlength, rfl⟩ | ⟨hlength, rfl⟩
  · obtain ⟨a, hlower⟩ : ∃ a, as[bs.length]? = some a :=
      ⟨_, List.getElem?_eq_getElem (by omega)⟩
    have hlower' : (p :: as)[as.length]? = some a := by
      rw [hlength, List.getElem?_cons_succ, hlower]
    have hupper : bs[bs.length]? = none := List.getElem?_eq_none (Nat.le_refl _)
    rw [bounds, if_pos (by omega), component_append hlower', hlower, hupper]
    rfl
  · obtain ⟨b, hupper⟩ : ∃ b, bs[as.length]? = some b :=
      ⟨_, List.getElem?_eq_getElem (by omega)⟩
    have hupper' : (q :: bs)[bs.length]? = some b := by
      rw [hlength, List.getElem?_cons_succ, hupper]
    have hlower : as[as.length]? = none := List.getElem?_eq_none (Nat.le_refl _)
    rw [bounds, if_neg (by omega), component_append hupper', hlower, hupper]
    rfl

theorem level_append {p q : α} {as bs opened opened' : List α}
    (hsame : Component.same p q = true) (hlength : as.length = bs.length) :
    level (p :: as ++ opened) (q :: bs ++ opened') as.length =
      result (resolvePresent (p :: as) (q :: bs)) := by
  cases hk : as.length with
  | zero =>
    obtain rfl := List.length_eq_zero_iff.mp hk
    obtain rfl := List.length_eq_zero_iff.mp (hlength.symm.trans hk)
    rw [resolvePresent, hsame]
    rfl
  | succ k =>
    have hshared : sharedDepth (p :: as) (q :: bs) = k + 1 := by
      rw [sharedDepth, List.length_cons, List.length_cons, if_pos (by omega)]
      omega
    have hlower : as[k]? = some as[k] := List.getElem?_eq_getElem (by omega)
    have hupper : bs[k]? = some bs[k] := List.getElem?_eq_getElem (by omega)
    have hplaces : 1 + k ≤ (p :: as).length ∧ 1 + k ≤ (q :: bs).length := by
      rw [List.length_cons, List.length_cons]
      omega
    rw [level, checkAgree_append hplaces.1 hplaces.2,
      resolvePresent_cons hsame (by omega) (by omega) hshared, result_bind]
    refine bind_congr fun _ => ?_
    rw [component_append (by rw [List.getElem?_cons_succ, hlower]),
      component_append (by rw [List.getElem?_cons_succ, hupper]), pure_bind, pure_bind,
      before_append (by omega), pure_bind, rangeOf, hshared,
      List.getElem?_cons_succ, List.getElem?_cons_succ, hlower, hupper, boundsOutOfOrder,
      apply_ite result]
    rfl

theorem uneven_append {p q : α} {as bs opened opened' : List α}
    (hsame : Component.same p q = true)
    (hlength : as.length = bs.length + 1 ∨ bs.length = as.length + 1) :
    uneven (p :: as ++ opened) (q :: bs ++ opened') as.length bs.length =
      result (resolvePresent (p :: as) (q :: bs)) := by
  obtain ⟨k, hk⟩ : ∃ k, k = min as.length bs.length := ⟨_, rfl⟩
  have hshared : sharedDepth (p :: as) (q :: bs) = k + 1 := by
    rw [sharedDepth, List.length_cons, List.length_cons, if_neg (by omega)]
    omega
  have horder : boundsOutOfOrder as[k]? bs[k]? = false := boundsOutOfOrder_of_length_le (by omega)
  have hplaces : 1 + k ≤ (p :: as).length ∧ 1 + k ≤ (q :: bs).length := by
    rw [List.length_cons, List.length_cons]
    omega
  rw [uneven, ← hk, checkAgree_append hplaces.1 hplaces.2,
    resolvePresent_cons hsame (by omega) (by omega) hshared, result_bind, horder]
  refine bind_congr fun _ => ?_
  rw [bounds_append (k := k) (by omega), pure_bind]
  dsimp only
  rw [before_append (by omega), pure_bind, rangeOf, hshared]
  rfl

/-- Sides without a gap are resolved by their places as they are in pairs. -/
theorem gapless_append {as bs opened opened' : List α}
    (hstart : ∀ c ∈ as, Component.absent c = false) (hstop : ∀ c ∈ bs, Component.absent c = false)
    (hopened : ∀ c ∈ opened, Component.absent c = true)
    (hopened' : ∀ c ∈ opened', Component.absent c = true) :
    gapless (as ++ opened) (bs ++ opened') = result (resolvePresent as bs) := by
  match as, bs with
  | [], _ =>
    rw [gapless, List.nil_append, depth_of_opened hopened]
    rfl
  | p :: as, [] =>
    rw [gapless, depth_append_cons hstart hopened, List.nil_append, depth_of_opened hopened']
    rfl
  | p :: as, q :: bs =>
    rw [gapless, depth_append_cons hstart hopened, depth_append_cons hstop hopened', pure_bind,
      pure_bind, component_append (List.getElem?_cons_zero ..),
      component_append (List.getElem?_cons_zero ..), pure_bind, pure_bind]
    cases hsame : Component.same p q with
    | false =>
      rw [resolvePresent, hsame]
      rfl
    | true =>
      rw [Bool.not_true, if_neg Bool.false_ne_true]
      split
      · have hdeep : as.length + 1 < bs.length ∨ bs.length + 1 < as.length := by omega
        simp only [resolvePresent, hsame, Bool.not_true, Bool.false_eq_true, if_false,
          Bool.or_eq_true, decide_eq_true_eq, if_pos hdeep]
        rfl
      · split
        · exact level_append hsame (by omega)
        · exact uneven_append hsame (by omega)

end Lookup

open Lookup

/-- **Resolution by places never looks a component up that is not there**: it is resolution. -/
theorem resolveByPlaces_eq (start stop : List α) :
    resolveByPlaces start stop = result (resolve start stop) := by
  rw [resolveByPlaces, resolve]
  split
  · rfl
  cases hstart : checkNoGap .start start with
  | error e => rfl
  | ok _ =>
    cases hstop : checkNoGap .stop stop with
    | error e => rfl
    | ok _ =>
      obtain ⟨opened, heq, hopened⟩ := eq_append_of_checkNoGap hstart
      obtain ⟨opened', heq', hopened'⟩ := eq_append_of_checkNoGap hstop
      have hgapless := gapless_append (present_of_mem_presentOf start)
        (present_of_mem_presentOf stop) hopened hopened'
      rw [← heq, ← heq'] at hgapless
      exact hgapless

/-- **What is resolved, and to what.**  Every component that is looked up by its place is there;
sides are resolved exactly if they are accepted; what both have in common is fixed, as the first
side has it, and what is left of each bounds the range; a range without bounds is a whole partition;
and where a bound is asked for, a range is resolved exactly if it has one. -/
theorem resolve_exact (start stop : List α) :
    (resolveByPlaces start stop).run = some (resolve start stop)
      ∧ (∀ r, resolve start stop = .ok r ↔
        Accepted start stop ∧ r = rangeOf (trimmed start) (trimmed stop))
      ∧ (∀ r, resolve start stop = .ok r →
        (trimmed start = r.fixed ++ r.lower.toList ∧ r.fixed.length ≤ (trimmed stop).length
          ∧ (trimmed stop).drop r.fixed.length = r.upper.toList)
        ∧ (r.isWholePartition = true ↔ r.lower = none ∧ r.upper = none))
      ∧ ∀ r, resolveBounded start stop = .ok r ↔
        resolve start stop = .ok r ∧ (r.lower ≠ none ∨ r.upper ≠ none) := by
  refine ⟨congrArg ExceptT.run (resolveByPlaces_eq start stop),
    fun r => resolve_eq_ok_iff_accepted, ?_, fun r => resolveBounded_eq_ok_iff⟩
  intro r hr
  obtain ⟨haccepted, hrange⟩ := resolve_eq_ok_iff_accepted.mp hr
  refine ⟨haccepted.parts hrange, ?_⟩
  rw [hrange]
  exact isWholePartition_rangeOf _ _

end WideColumn.Key
