/-
# Every shape is legal on every clustering column

Which sides a slice may bound is computed with symbols, by trying all depths of both sides.  On a
clustering column the three depths that reach it settle the matter: with one side a place deeper
than the other that side alone is bounded, and with both at the column both are.
-/
import WideColumn.Key.Shape
import WideColumn.Proofs.Key.Range

namespace WideColumn.Key

/-- The components of a side before the last one. -/
theorem symbols_eq {last position : Nat} (side : Side) (h : position ≤ last + 1) :
    symbols last position side =
      List.replicate position .fixed ++
        [if last < position then .absent else .bound side] := by
  rw [symbols, List.range_succ, List.map_append]
  congr 1
  · refine List.eq_replicate_iff.mpr ⟨by simp, ?_⟩
    intro s hs
    obtain ⟨i, hi, rfl⟩ := List.mem_map.mp hs
    have hlt : i < position := List.mem_range.mp hi
    rw [if_neg (by omega)]
    simp [Nat.ne_of_lt hlt]
  · simp

/-- Depths whose sides share all but a bound give the shape of their bounds. -/
theorem shapeAt?_of_shared {k startDepth stopDepth : Nat} (lower upper : Option Symbol)
    (opened opened' : List Symbol)
    (hstart : symbols startDepth (k + 1) .start =
      List.replicate (k + 1) .fixed ++ lower.toList ++ opened)
    (hstop : symbols stopDepth (k + 1) .stop =
      List.replicate (k + 1) .fixed ++ upper.toList ++ opened')
    (hsome : lower ≠ none ∨ upper ≠ none) (horder : boundsOutOfOrder lower upper = false)
    (hbounds : ∀ a ∈ lower.toList ++ upper.toList, Component.absent a = false)
    (hopened : ∀ a ∈ opened ++ opened', Component.absent a = true) :
    shapeAt? (k + 1) startDepth stopDepth = some ⟨lower.isSome, upper.isSome⟩ := by
  have hfixed : ∀ a ∈ List.replicate (k + 1) Symbol.fixed,
      Component.absent a = false ∧ Component.same a a = true := by
    intro a ha
    obtain rfl := List.eq_of_mem_replicate ha
    exact ⟨rfl, rfl⟩
  have hpresent : ∀ a ∈ List.replicate (k + 1) .fixed ++ lower.toList ++ upper.toList,
      Component.absent a = false := by
    intro a ha
    rw [List.append_assoc] at ha
    exact (List.mem_append.mp ha).elim (fun ha => (hfixed a ha).1) (hbounds a)
  rw [List.replicate_succ] at hstart hstop hfixed hpresent
  have hresolve := resolve_of_shared hpresent (fun a ha => (hfixed a ha).2) hsome
    (fun a ha => hopened a (List.mem_append_left _ ha))
    (fun a ha => hopened a (List.mem_append_right _ ha))
  rw [horder, if_neg (by simp)] at hresolve
  rw [shapeAt?, hstart, hstop, hresolve]
  simp [SliceShape.of]

/-- A side that reaches the column bounds it, and one that stops before it leaves it open. -/
theorem symbols_reach (k : Nat) (side : Side) (reaches : Bool) :
    symbols (k + reaches.toNat) (k + 1) side =
      List.replicate (k + 1) .fixed ++ (if reaches then some (.bound side) else none).toList
        ++ if reaches then [] else [.absent] := by
  cases reaches with
  | false => rw [symbols_eq side (by simp), if_pos (by simp)]; simp
  | true => rw [symbols_eq side (by simp), if_neg (by simp)]; simp

/-- **Sides of which those reach the column that a shape bounds give that shape.** -/
theorem shapeAt?_reach (k : Nat) {s : SliceShape} (hs : s.lower = true ∨ s.upper = true) :
    shapeAt? (k + 1) (k + s.lower.toNat) (k + s.upper.toNat) = some s := by
  obtain ⟨lower, upper⟩ := s
  have hshape := shapeAt?_of_shared _ _ _ _ (symbols_reach k .start lower)
    (symbols_reach k .stop upper) (by simpa using hs) (by cases lower <;> cases upper <;> rfl)
    (by cases lower <;> cases upper <;> simp [Component.absent])
    (by cases lower <;> cases upper <;> simp [Component.absent])
  rw [hshape]
  cases lower <;> cases upper <;> rfl

theorem mem_legalShapes {position startDepth stopDepth : Nat} {s : SliceShape}
    (h : position ≠ 0) (hs : s ∈ SliceShape.all) (hstart : startDepth ≤ position)
    (hstop : stopDepth ≤ position) (hshape : shapeAt? position startDepth stopDepth = some s) :
    s ∈ legalShapes position := by
  rw [legalShapes, if_neg (by simpa using h)]
  refine List.mem_filter.mpr ⟨hs, List.contains_iff_mem.mpr (List.mem_flatMap.mpr ?_)⟩
  exact ⟨startDepth, List.mem_range.mpr (by omega),
    List.mem_filterMap.mpr ⟨stopDepth, List.mem_range.mpr (by omega), hshape⟩⟩

theorem SliceShape.bounds_of_mem_all {s : SliceShape} (hs : s ∈ SliceShape.all) :
    s.lower = true ∨ s.upper = true := by
  simp only [SliceShape.all, List.mem_cons, List.not_mem_nil, or_false] at hs
  rcases hs with rfl | rfl | rfl
  · exact Or.inr rfl
  · exact Or.inl rfl
  · exact Or.inl rfl

/-- **On every clustering column every shape is legal.** -/
theorem mem_legalShapes_of_ne_zero {position : Nat} (h : position ≠ 0) :
    ∀ s ∈ SliceShape.all, s ∈ legalShapes position := by
  obtain ⟨k, rfl⟩ := Nat.exists_eq_succ_of_ne_zero h
  intro s hs
  have hlower := Bool.toNat_le s.lower
  have hupper := Bool.toNat_le s.upper
  exact mem_legalShapes h hs (by omega) (by omega)
    (shapeAt?_reach k (SliceShape.bounds_of_mem_all hs))

/-- On a clustering column every shape is legal. -/
theorem legalShapes_eq_all {position : Nat} (h : position ≠ 0) :
    legalShapes position = SliceShape.all := by
  have hmem := mem_legalShapes_of_ne_zero h
  rw [legalShapes, if_neg (by simpa using h)] at hmem ⊢
  exact List.filter_eq_self.mpr fun s hs => (List.mem_filter.mp (hmem s hs)).2

end WideColumn.Key
