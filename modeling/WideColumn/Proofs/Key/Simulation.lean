/-
# Symbols do as values do

Which sides a slice may bound is decided with symbols, before any value is known, and resolution
takes values later.  Both run the same resolution, but a symbol is the same as another only if
both are fixed, and below another only on the other side.  What one does the other does:

* sides of values that resolve to a range with a bound reach as deep as symbols that give its shape
  (`shapeAt?_of_resolve`), so the shape is legal on the column that varies;
* a legal shape is the shape of every range that may have it: components that are the same as
  themselves, followed by bounds in order, resolve to just that (`resolve_of_legal`).

Shapes may also be collected as the depths give them, each once, and then put in order; the legal
shapes are what that leads to (`legalShapes_eq_sorted`).
-/
import WideColumn.Proofs.Key.Acceptance
import WideColumn.Proofs.Key.Shape

namespace WideColumn.Key

variable {α : Type} [Component α]

/-! ## 1. From values to symbols -/

omit [Component α] in
theorem length_toList_eq_toNat (o : Option α) : o.toList.length = o.isSome.toNat := by
  cases o <;> rfl

/-- A range with a bound has its partition fixed. -/
theorem Accepted.fixed_ne_nil {start stop : List α} (h : Accepted start stop) {r : Range α}
    (hr : r = rangeOf (trimmed start) (trimmed stop)) (hbound : r.lower ≠ none ∨ r.upper ≠ none) :
    r.fixed ≠ [] := by
  rcases h with ⟨rfl, rfl⟩ | ⟨-, -, hzero, -⟩
  · subst hr
    simp [rangeOf, trimmed] at hbound
  · obtain ⟨a, b, ha, hb, -⟩ := hzero
    obtain ⟨hlt, -⟩ := List.getElem?_eq_some_iff.mp ha
    obtain ⟨hlt', -⟩ := List.getElem?_eq_some_iff.mp hb
    subst hr
    refine List.ne_nil_of_length_pos ?_
    rw [rangeOf, List.length_take, sharedDepth]
    split <;> omega

/-- **Sides that resolve to a range with a bound reach as deep as symbols that give its shape.** -/
theorem shapeAt?_of_resolve {start stop : List α} {r : Range α} (h : resolve start stop = .ok r)
    (hbound : r.lower ≠ none ∨ r.upper ≠ none) :
    ∃ i j, lastPresent? start = some i ∧ lastPresent? stop = some j
      ∧ i ≤ r.varyingPosition ∧ j ≤ r.varyingPosition
      ∧ shapeAt? r.varyingPosition i j = some (.of r) := by
  obtain ⟨haccepted, hrange⟩ := resolve_eq_ok_iff_accepted.mp h
  obtain ⟨hstart, hle, hstop⟩ := haccepted.parts hrange
  obtain ⟨k, hk⟩ : ∃ k, r.fixed.length = k + 1 :=
    Nat.exists_eq_succ_of_ne_zero
      (List.length_pos_of_ne_nil (haccepted.fixed_ne_nil hrange hbound)).ne'
  have hlower : (trimmed start).length = k + r.lower.isSome.toNat + 1 := by
    rw [hstart, List.length_append, length_toList_eq_toNat, hk]
    omega
  have hupper : (trimmed stop).length = k + r.upper.isSome.toNat + 1 := by
    have hlength := congrArg List.length hstop
    rw [List.length_drop, length_toList_eq_toNat] at hlength
    omega
  have hvarying : r.varyingPosition = k + 1 := by
    rw [Range.varyingPosition, hk]
    omega
  have hle' := Bool.toNat_le r.lower.isSome
  have hle'' := Bool.toNat_le r.upper.isSome
  refine ⟨k + r.lower.isSome.toNat, k + r.upper.isSome.toNat, ?_, ?_, ?_⟩
  · rw [lastPresent?_eq, hlower]
    rfl
  · rw [lastPresent?_eq, hupper]
    rfl
  · rw [hvarying]
    refine ⟨by omega, by omega, shapeAt?_reach k (s := .of r) ?_⟩
    simpa [SliceShape.of, Option.isSome_iff_ne_none] using hbound

/-! ## 2. From symbols to values -/

/-- **A shape is legal on a clustering column exactly if it bounds some side and some depths give
it.** -/
theorem mem_legalShapes_iff {position : Nat} {s : SliceShape} :
    s ∈ legalShapes position ↔
      position ≠ 0 ∧ (s.lower = true ∨ s.upper = true)
        ∧ ∃ i ≤ position, ∃ j ≤ position, shapeAt? position i j = some s := by
  constructor
  · intro h
    unfold legalShapes at h
    split at h
    · cases h
    · rename_i hposition
      obtain ⟨hall, hfound⟩ := List.mem_filter.mp h
      obtain ⟨i, hi, hfound⟩ := List.mem_flatMap.mp (List.contains_iff_mem.mp hfound)
      obtain ⟨j, hj, hshape⟩ := List.mem_filterMap.mp hfound
      rw [List.mem_range] at hi hj
      exact ⟨by simpa using hposition, SliceShape.bounds_of_mem_all hall, i, by omega, j, by omega,
        hshape⟩
  · rintro ⟨hposition, hbound, i, hi, j, hj, hshape⟩
    refine mem_legalShapes hposition ?_ hi hj hshape
    obtain ⟨lower, upper⟩ := s
    cases lower <;> cases upper <;> simp_all [SliceShape.all, SliceShape.atLeast, SliceShape.atMost,
      SliceShape.between]

/-- **A legal shape is the shape of every range that may have it**: components that are the same as
themselves, and bounds in order after them, resolve to just that. -/
theorem resolve_of_legal {fixed opened opened' : List α} {lower upper : Option α}
    (hfixed : fixed ≠ []) (hbound : lower ≠ none ∨ upper ≠ none)
    (hpresent : ∀ c ∈ fixed ++ lower.toList ++ upper.toList, Component.absent c = false)
    (hsame : ∀ c ∈ fixed, Component.same c c = true)
    (horder : ∀ a ∈ lower, ∀ b ∈ upper, Component.order? a b = some .lt)
    (hopened : ∀ c ∈ opened, Component.absent c = true)
    (hopened' : ∀ c ∈ opened', Component.absent c = true) :
    resolve (fixed ++ lower.toList ++ opened) (fixed ++ upper.toList ++ opened') =
      .ok ⟨fixed, lower, upper⟩ := by
  obtain ⟨c, cs, rfl⟩ := List.exists_cons_of_ne_nil hfixed
  have hinOrder : boundsOutOfOrder lower upper = false := by
    cases lower with
    | none => rfl
    | some a =>
      cases upper with
      | none => rfl
      | some b => simp [boundsOutOfOrder, horder a rfl b rfl]
  rw [resolve_of_shared hpresent hsame hbound hopened hopened', hinOrder]
  rfl

/-! ## 3. Shapes in order -/

namespace SliceShape

/-- The order of shapes: by the lower side first, and unbounded before bounded. -/
def le (s t : SliceShape) : Bool :=
  (!s.lower && t.lower) || (s.lower == t.lower && (!s.upper || t.upper))

theorem le_trans : ∀ s t u : SliceShape, le s t = true → le t u = true → le s u = true := by
  rintro ⟨⟨⟩, ⟨⟩⟩ ⟨⟨⟩, ⟨⟩⟩ ⟨⟨⟩, ⟨⟩⟩ <;> decide

theorem le_total : ∀ s t : SliceShape, (le s t || le t s) = true := by
  rintro ⟨⟨⟩, ⟨⟩⟩ ⟨⟨⟩, ⟨⟩⟩ <;> rfl

theorem le_antisymm : ∀ s t : SliceShape, le s t = true → le t s = true → s = t := by
  rintro ⟨⟨⟩, ⟨⟩⟩ ⟨⟨⟩, ⟨⟩⟩ <;> decide

/-- Adds a shape that bounds some side and is new. -/
def collect (shapes : List SliceShape) (s : SliceShape) : List SliceShape :=
  if (s.lower || s.upper) && !shapes.contains s then shapes ++ [s] else shapes

theorem mem_collect {shapes : List SliceShape} {s t : SliceShape} :
    t ∈ collect shapes s ↔ t ∈ shapes ∨ (t = s ∧ (s.lower = true ∨ s.upper = true)) := by
  unfold collect
  split
  · rename_i h
    simp only [Bool.and_eq_true, Bool.or_eq_true] at h
    simp [h.1]
  · rename_i h
    simp only [Bool.and_eq_true, Bool.or_eq_true, Bool.not_eq_true', List.contains_eq_mem,
      decide_eq_false_iff_not, not_and, not_not] at h
    constructor
    · exact Or.inl
    · rintro (hmem | ⟨rfl, hbound⟩)
      · exact hmem
      · exact h hbound

theorem nodup_collect {shapes : List SliceShape} (h : shapes.Nodup) (s : SliceShape) :
    (collect shapes s).Nodup := by
  unfold collect
  split
  · rename_i hnew
    simp only [Bool.and_eq_true, Bool.not_eq_true', List.contains_eq_mem,
      decide_eq_false_iff_not] at hnew
    refine List.nodup_append.mpr ⟨h, by simp, fun t ht t' ht' => ?_⟩
    obtain rfl := List.mem_singleton.mp ht'
    exact ne_of_mem_of_not_mem ht hnew.2
  · exact h

/-- Shapes are collected once each, and all of them that bound some side. -/
theorem foldl_collect (found : List SliceShape) :
    ∀ {shapes : List SliceShape}, shapes.Nodup →
      (found.foldl collect shapes).Nodup ∧ ∀ t, t ∈ found.foldl collect shapes ↔
        t ∈ shapes ∨ (t ∈ found ∧ (t.lower = true ∨ t.upper = true)) := by
  induction found with
  | nil => intro shapes h; simp [h]
  | cons s found ih =>
    intro shapes h
    obtain ⟨hnodup, hmem⟩ := ih (nodup_collect h s)
    refine ⟨hnodup, fun t => ?_⟩
    rw [List.foldl_cons, hmem, mem_collect, List.mem_cons]
    constructor
    · rintro ((ht | ⟨rfl, hbound⟩) | ⟨ht, hbound⟩)
      · exact Or.inl ht
      · exact Or.inr ⟨Or.inl rfl, hbound⟩
      · exact Or.inr ⟨Or.inr ht, hbound⟩
    · rintro (ht | ⟨rfl | ht, hbound⟩)
      · exact Or.inl (Or.inl ht)
      · exact Or.inl (Or.inr ⟨rfl, hbound⟩)
      · exact Or.inr ⟨ht, hbound⟩

end SliceShape

/-- The shapes that all depths of both sides give, in the order they are found in. -/
def foundShapes (position : Nat) : List SliceShape :=
  (List.range (position + 1)).flatMap fun i =>
    (List.range (position + 1)).filterMap fun j => shapeAt? position i j

theorem mem_foundShapes {position : Nat} {s : SliceShape} :
    s ∈ foundShapes position ↔
      ∃ i ≤ position, ∃ j ≤ position, shapeAt? position i j = some s := by
  simp only [foundShapes, List.mem_flatMap, List.mem_filterMap, List.mem_range, Nat.lt_succ_iff]

/-- **The legal shapes are those that are found, each once, and put in order.** -/
theorem legalShapes_eq_sorted {position : Nat} (h : position ≠ 0) :
    legalShapes position =
      ((foundShapes position).foldl SliceShape.collect []).mergeSort SliceShape.le := by
  obtain ⟨hnodup, hmem⟩ := SliceShape.foldl_collect (foundShapes position) List.nodup_nil
  have hsame : ((foundShapes position).foldl SliceShape.collect []).Perm
      (legalShapes position) := by
    refine (List.perm_ext_iff_of_nodup hnodup ?_).mpr fun s => ?_
    · rw [legalShapes_eq_all h]
      decide
    · rw [hmem, mem_foundShapes, mem_legalShapes_iff]
      simp [h, and_comm]
  have hsorted : (legalShapes position).Pairwise fun s t => SliceShape.le s t = true := by
    rw [legalShapes_eq_all h]
    decide
  exact (((List.mergeSort_perm _ _).trans hsame).eq_of_pairwise
    (fun s t _ _ => SliceShape.le_antisymm s t)
    (List.pairwise_mergeSort SliceShape.le_trans SliceShape.le_total _) hsorted).symm

/-! ## 4. Both together -/

/-- **Symbols and values simulate each other.**  Sides of values that resolve to a range with a
bound are as deep as symbols that give its shape, so the shape is legal on the column that varies.
On every clustering column a legal shape is the shape of each pair of sides that share present
components, each the same as itself, up to that column and then have what the shape bounds, in
order where it bounds both; they resolve to just that.  So every shape is legal on every clustering
column, as the shapes are collected and put in order: from above, from below, on both sides. -/
theorem shapes_simulate :
    (∀ (start stop : List (Option Value)) (r : Range (Option Value)), resolve start stop = .ok r →
      (r.lower ≠ none ∨ r.upper ≠ none) →
        SliceShape.of r ∈ legalShapes r.varyingPosition
        ∧ ∃ i j, lastPresent? start = some i ∧ lastPresent? stop = some j
          ∧ i ≤ r.varyingPosition ∧ j ≤ r.varyingPosition
          ∧ shapeAt? r.varyingPosition i j = some (.of r))
      ∧ (∀ position ≠ 0, ∀ shape ∈ legalShapes position,
        ∀ fixed : List (Option Value), fixed.length = position →
          (∀ c ∈ fixed, Component.absent c = false ∧ Component.same c c = true) →
        ∀ lower upper : Option (Option Value),
          lower.isSome = shape.lower → upper.isSome = shape.upper →
          (∀ c ∈ lower.toList ++ upper.toList, Component.absent c = false) →
          (∀ a ∈ lower, ∀ b ∈ upper, Component.order? a b = some .lt) →
        ∀ opened opened' : List (Option Value),
          (∀ c ∈ opened ++ opened', Component.absent c = true) →
          resolve (fixed ++ lower.toList ++ opened) (fixed ++ upper.toList ++ opened') =
            .ok ⟨fixed, lower, upper⟩)
      ∧ ∀ position ≠ 0,
        legalShapes position =
            ((foundShapes position).foldl SliceShape.collect []).mergeSort SliceShape.le
          ∧ legalShapes position = [.atMost, .atLeast, .between] := by
  refine ⟨?_, ?_, fun position h => ⟨legalShapes_eq_sorted h, legalShapes_eq_all h⟩⟩
  · intro start stop r hr hbound
    obtain ⟨i, j, hi, hj, hle, hle', hshape⟩ := shapeAt?_of_resolve hr hbound
    refine ⟨mem_legalShapes_iff.mpr ⟨?_, ?_, i, hle, j, hle', hshape⟩,
      i, j, hi, hj, hle, hle', hshape⟩
    · exact (Nat.lt_of_lt_of_le Nat.zero_lt_one (Nat.le_max_right _ _)).ne'
    · simpa [SliceShape.of, Option.isSome_iff_ne_none] using hbound
  · intro position hposition shape hshape fixed hlength hfixed lower upper hlower hupper hbounds
      horder opened opened' hopened
    obtain ⟨-, hsides, -⟩ := mem_legalShapes_iff.mp hshape
    refine resolve_of_legal ?_ ?_ ?_ (fun c hc => (hfixed c hc).2) horder
      (fun c hc => hopened c (List.mem_append_left _ hc))
      (fun c hc => hopened c (List.mem_append_right _ hc))
    · exact List.ne_nil_of_length_pos (by omega)
    · rw [← hlower, ← hupper, Option.isSome_iff_ne_none, Option.isSome_iff_ne_none] at hsides
      exact hsides
    · intro c hc
      rw [List.append_assoc] at hc
      exact (List.mem_append.mp hc).elim (fun hc => (hfixed c hc).1) (hbounds c)

end WideColumn.Key
