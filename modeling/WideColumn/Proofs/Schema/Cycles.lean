/-
# Which user types contain themselves

A user type REFERS to those that its fields name: at the end of some path inside a field there is
a node that is this type.  Whether a type contains itself is decided by a search along references
that takes at most so many steps and remembers nothing of where it was.  It goes by the names that
are collected from a shape, and these are the ones at the ends of paths (`Shape.mem_udtNames_iff`).
The search is exact all the same, where no two types are stored under one name:

* what the search finds is at the end of a row of references (`transGen_of_reachesWithin`);
* what is at the end of one is found in some number of steps (`exists_reachesWithin`), and WITH AS
  MANY STEPS AS THERE ARE TYPES all is found that ever is (`reachesWithin_saturated`), whatever
  cycles the search runs into on its way.

So a type is found to contain itself exactly if it is on a cycle of references
(`containsItself_exact`).
-/
import WideColumn.Proofs.Schema.UsedTypes
import WideColumn.Proofs.Type.Node

namespace WideColumn.Schema

variable {types : List UserType} {u w : UserType} {us : List UserType} {levels : Nat}
  {target : String}

/-! ## 1. References -/

/-- **A user type refers to another one of a batch**: a node of one of its fields, at whatever
depth, is that type. -/
def UserType.Refers (types : List UserType) (u w : UserType) : Prop :=
  w ∈ types ∧ ∃ f ∈ u.fields, f.shape.Names w.typeName

/-- What a user type refers to is what is found by collecting the names in its fields. -/
theorem UserType.refers_iff : UserType.Refers types u w ↔ w ∈ types ∧ w.typeName ∈ u.named := by
  simp only [Refers, named, List.mem_flatMap, Shape.mem_udtNames_iff]

/-- A look-up by name finds what is referred to. -/
theorem UserType.Uses.refers (h : UserType.Uses types u w) : UserType.Refers types u w :=
  refers_iff.mpr ⟨h.mem, h.typeName_mem⟩

/-- Where no two types are stored under one name, what is referred to is found by name. -/
theorem userType?_of_mem (hnames : (types.map (·.typeName)).Nodup) (hw : w ∈ types) :
    userType? types w.typeName = some w :=
  find?_of_nodup hnames hw

theorem UserType.Refers.uses (hnames : (types.map (·.typeName)).Nodup)
    (h : UserType.Refers types u w) : UserType.Uses types u w :=
  ⟨w.typeName, (refers_iff.mp h).2, userType?_of_mem hnames h.1⟩

/-! ## 2. The search -/

/-- What the search finds is at the end of a row of references. -/
theorem transGen_of_reachesWithin (hw : w ∈ types) :
    ∀ {levels : Nat} {u : UserType}, reachesWithin types w.typeName levels u = true →
      Relation.TransGen (UserType.Refers types) u w
  | 0, _, h => by cases h
  | levels + 1, u, h => by
    rcases reachesWithin_succ.mp h with hname | ⟨v, hv, hreach⟩
    · exact .single (UserType.refers_iff.mpr ⟨hw, hname⟩)
    · exact .head hv.refers (transGen_of_reachesWithin hw hreach)

/-- What is at the end of a row of references is found in some number of steps. -/
theorem exists_reachesWithin (hnames : (types.map (·.typeName)).Nodup)
    (h : Relation.TransGen (UserType.Refers types) u w) :
    ∃ levels, reachesWithin types w.typeName levels u = true := by
  induction h using Relation.TransGen.head_induction_on with
  | single hstep =>
    exact ⟨1, reachesWithin_succ.mpr (.inl (UserType.refers_iff.mp hstep).2)⟩
  | head hstep _ ih =>
    obtain ⟨levels, hreach⟩ := ih
    exact ⟨levels + 1, reachesWithin_succ.mpr (.inr ⟨_, hstep.uses hnames, hreach⟩)⟩

/-- What is found in some steps is found in more. -/
theorem reachesWithin_mono : ∀ (levels : Nat) (u : UserType),
    reachesWithin types target levels u = true → reachesWithin types target (levels + 1) u = true
  | 0, _, h => by cases h
  | levels + 1, u, h => by
    rw [reachesWithin_succ] at h ⊢
    exact h.imp_right fun ⟨v, hv, hreach⟩ => ⟨v, hv, reachesWithin_mono levels v hreach⟩

/-- **With as many steps as there are user types all is found** that is found in any number. -/
theorem reachesWithin_saturated (hu : u ∈ types) (h : reachesWithin types target levels u = true) :
    reachesWithin types target types.length u = true := by
  have hmono : ∀ more, reachesWithin types target (levels + more) u = true := by
    intro more
    induction more with
    | zero => exact h
    | succ more ih => exact reachesWithin_mono _ u ih
  refine passes_saturated (p := fun levels u => reachesWithin types target levels u)
    reachesWithin_mono (fun n hnone u _ hreach => ?_) (Nat.le_add_left types.length levels) u hu
    (hmono types.length)
  rw [reachesWithin_succ] at hreach ⊢
  exact hreach.imp_right fun ⟨v, hv, hreach⟩ => ⟨v, hv, hnone v hv.mem hreach⟩

/-- **A user type contains itself exactly if references lead from it back to it.** -/
theorem containsItself_iff (hnames : (types.map (·.typeName)).Nodup) (hu : u ∈ types) :
    containsItself types u = true ↔ Relation.TransGen (UserType.Refers types) u u := by
  constructor
  · exact transGen_of_reachesWithin hu
  · intro h
    obtain ⟨levels, hreach⟩ := exists_reachesWithin hnames h
    exact reachesWithin_mono _ u (reachesWithin_saturated hu hreach)

/-! ## 3. Cycles -/

/-- **A cycle of references**: user types of which each refers to the next, and the last one to the
first. -/
def IsCycle (types : List UserType) : List UserType → Prop
  | [] => False
  | u :: us => (u :: (us ++ [u])).IsChain (UserType.Refers types)

/-- References lead from every type of a cycle back to it. -/
theorem transGen_of_isCycle (h : IsCycle types us) :
    ∀ u ∈ us, Relation.TransGen (UserType.Refers types) u u := by
  cases us with
  | nil => cases h
  | cons first us =>
    have hpairs : (first :: (us ++ [first])).Pairwise
        (Relation.TransGen (UserType.Refers types)) :=
      List.isChain_iff_pairwise.mp (List.IsChain.imp (fun _ _ => .single) h)
    obtain ⟨hfirst, hrest⟩ := List.pairwise_cons.mp hpairs
    have hlast := (List.pairwise_append.mp hrest).2.2
    intro u hu
    rcases List.mem_cons.mp hu with rfl | hu
    · exact hfirst u (List.mem_append_right _ List.mem_cons_self)
    · exact (hlast u hu first List.mem_cons_self).trans (hfirst u (List.mem_append_left _ hu))

/-- Where references lead from a type back to it, it begins a cycle. -/
theorem exists_isCycle (h : Relation.TransGen (UserType.Refers types) u u) :
    ∃ us, IsCycle types (u :: us) := by
  obtain ⟨v, hv, hback⟩ := Relation.TransGen.tail'_iff.mp h
  obtain ⟨us, hchain, hlast⟩ := List.exists_isChain_cons_of_relationReflTransGen hv
  refine ⟨us, ?_⟩
  rw [IsCycle, ← List.cons_append]
  refine hchain.append (.singleton u) ?_
  intro x hx y hy
  rw [List.getLast?_eq_some_getLast (List.cons_ne_nil u us), hlast] at hx
  cases hx
  cases hy
  exact hback

/-- **The search for cycles is exact**, where no two user types are stored under one name.  A user
type is found to contain itself exactly if references lead from it back to it.  So one of them is
found exactly if there is a cycle of references, and every user type on a cycle is found. -/
theorem containsItself_exact (hnames : (types.map (·.typeName)).Nodup) :
    (∀ u ∈ types,
        containsItself types u = true ↔ Relation.TransGen (UserType.Refers types) u u)
      ∧ ((∃ u ∈ types, containsItself types u = true) ↔ ∃ us, IsCycle types us)
      ∧ ∀ us, IsCycle types us → ∀ u ∈ us, u ∈ types ∧ containsItself types u = true := by
  have hfound : ∀ us, IsCycle types us → ∀ u ∈ us, u ∈ types ∧ containsItself types u = true := by
    intro us hcycle u hu
    have hback := transGen_of_isCycle hcycle u hu
    obtain ⟨v, -, hlast⟩ := Relation.TransGen.tail'_iff.mp hback
    exact ⟨hlast.1, (containsItself_iff hnames hlast.1).mpr hback⟩
  refine ⟨fun u hu => containsItself_iff hnames hu, ⟨?_, ?_⟩, hfound⟩
  · rintro ⟨u, hu, hcontains⟩
    obtain ⟨us, hcycle⟩ := exists_isCycle ((containsItself_iff hnames hu).mp hcontains)
    exact ⟨u :: us, hcycle⟩
  · rintro ⟨us, hcycle⟩
    cases us with
    | nil => cases hcycle
    | cons u us => exact ⟨u, hfound _ hcycle u List.mem_cons_self⟩

/-- A box lists crates, a crate holds pairs of a number and a pallet, and a pallet has a place for
each crate on it. -/
def heldTypes : List UserType := [
  ⟨"Box", "box", none, [⟨"crates", "crates", .list ⟨true, 0⟩ (.udt ⟨true, 1⟩ "crate")⟩]⟩,
  ⟨"Crate", "crate", none, [⟨"base", "base", .list ⟨true, 0⟩ (.tuple ⟨true, 1⟩
    [.scalar ⟨true, 2⟩ .int, .udt ⟨true, 2⟩ "pallet"])⟩]⟩,
  ⟨"Pallet", "pallet", none, [⟨"places", "places", .map ⟨true, 0⟩ (.udt ⟨true, 1⟩ "crate")
    (.scalar ⟨true, 1⟩ .int)⟩]⟩]

theorem containsItself_exact_crates :
    (heldTypes.map (·.typeName)).Nodup
      ∧ (heldTypes.map (containsItself heldTypes)) = [false, true, true]
      ∧ IsCycle heldTypes (heldTypes.drop 1)
      ∧ ∃ us, IsCycle heldTypes us := by
  have hnames : (heldTypes.map (·.typeName)).Nodup := by decide
  have hflagged : heldTypes.map (containsItself heldTypes) = [false, true, true] := by decide
  have hpallet : UserType.Refers heldTypes heldTypes[1] heldTypes[2] :=
    ⟨by simp [heldTypes], _, List.mem_cons_self, [.element, .item 1], ⟨true, 2⟩, rfl⟩
  have hcrate : UserType.Refers heldTypes heldTypes[2] heldTypes[1] :=
    ⟨by simp [heldTypes], _, List.mem_cons_self, [.key], ⟨true, 1⟩, rfl⟩
  have hcycle : IsCycle heldTypes (heldTypes.drop 1) :=
    .cons_cons hpallet (.cons_cons hcrate (.singleton _))
  refine ⟨hnames, hflagged, hcycle, ?_⟩
  exact (containsItself_exact hnames).2.1.mp ⟨heldTypes[1], by simp [heldTypes], by decide⟩

end WideColumn.Schema
