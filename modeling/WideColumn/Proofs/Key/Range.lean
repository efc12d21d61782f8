/-
# What resolution can do

Resolution of a range takes one step for each component, and only two kinds of step lead to a
range: FIXING a component that both sides share while something is left below it, and ENDING with
at most one component on each side.  `Resolves` says so without the errors, and a range is
resolved exactly if such steps lead to it (`resolve_eq_ok_iff`), so whatever is proved of resolved
ranges goes by induction on them.
-/
import WideColumn.Key.Range
import WideColumn.Proofs.Except

namespace WideColumn.Key

variable {α : Type} [Component α]

/-! ## 1. Clustering components -/

/-- The ranges that clustering components of both sides resolve to. -/
inductive Resolves : List α → List α → Range α → Prop
  | nothing : Resolves [] [] .unbounded
  | lower (a : α) : Resolves [a] [] ⟨[], some a, none⟩
  | upper (b : α) : Resolves [] [b] ⟨[], none, some b⟩
  | both {a b : α} (lt : Component.order? a b = some .lt) : Resolves [a] [b] ⟨[], some a, some b⟩
  | fix {a b : α} {as bs : List α} {r : Range α} (same : Component.same a b = true)
      (more : as ≠ [] ∨ bs ≠ []) (rest : Resolves as bs r) : Resolves (a :: as) (b :: bs) (r.fix a)

theorem resolves_of_resolveClustering {position : Nat} {as bs : List α} {r : Range α}
    (h : resolveClustering position as bs = .ok r) : Resolves as bs r := by
  fun_induction resolveClustering position as bs generalizing r with
  | case1 => cases h; exact .nothing
  | case2 _ a => cases h; exact .lower a
  | case3 _ b => cases h; exact .upper b
  | case4 _ a b lt => cases h; exact .both (beq_iff_eq.mp lt)
  | case6 _ a as b bs more same ih =>
    obtain ⟨r', hr', rfl⟩ := Except.map_eq_ok_iff.mp h
    have hmore : as ≠ [] ∨ bs ≠ [] := by
      rcases as with _ | ⟨a', as⟩
      · exact Or.inr (more rfl)
      · exact Or.inl (List.cons_ne_nil _ _)
    exact .fix same hmore (ih hr')
  | case5 | case7 | case8 => cases h

theorem Resolves.resolveClustering_eq {as bs : List α} {r : Range α} (h : Resolves as bs r)
    (position : Nat) : resolveClustering position as bs = .ok r := by
  induction h generalizing position with
  | nothing | lower | upper => rfl
  | both lt => simp [resolveClustering, lt]
  | @fix a b as bs r same more rest ih =>
    have hnot : as = [] → bs = [] → False := fun ha hb => more.elim (· ha) (· hb)
    rw [resolveClustering.eq_5 _ _ _ _ _ hnot, if_pos same, ih]
    rfl

/-- **The steps are exactly what resolution does.** -/
theorem resolveClustering_eq_ok_iff {position : Nat} {as bs : List α} {r : Range α} :
    resolveClustering position as bs = .ok r ↔ Resolves as bs r :=
  ⟨resolves_of_resolveClustering, fun h => h.resolveClustering_eq position⟩

/-- The sides of a range differ in depth by one at most. -/
theorem Resolves.depth {as bs : List α} {r : Range α} (h : Resolves as bs r) :
    as.length ≤ bs.length + 1 ∧ bs.length ≤ as.length + 1 := by
  induction h with
  | nothing | lower | upper | both => simp
  | fix _ _ _ ih => simpa using ih

/-! ## 2. Whole sides -/

theorem resolvePresent_cons_eq_ok_iff {p q : α} {as bs : List α} {r : Range α} :
    resolvePresent (p :: as) (q :: bs) = .ok r ↔
      Component.same p q = true ∧ ∃ r', Resolves as bs r' ∧ r = r'.fix p := by
  rw [resolvePresent]
  cases same : Component.same p q with
  | false => simp
  | true =>
    simp only [Bool.not_true, Bool.false_eq_true, if_false, true_and]
    split
    · rename_i deep
      simp only [Bool.or_eq_true, decide_eq_true_eq] at deep
      constructor
      · intro h; cases h
      · rintro ⟨r', hr', -⟩
        have := hr'.depth
        omega
    · simp only [Except.map_eq_ok_iff, resolveClustering_eq_ok_iff]
      exact ⟨fun ⟨r', h, e⟩ => ⟨r', h, e.symm⟩, fun ⟨r', h, e⟩ => ⟨r', h, e.symm⟩⟩

theorem resolvePresent_eq_ok_iff {as bs : List α} {r : Range α} :
    resolvePresent as bs = .ok r ↔
      ∃ p as' q bs' r', as = p :: as' ∧ bs = q :: bs' ∧ Component.same p q = true
        ∧ Resolves as' bs' r' ∧ r = r'.fix p := by
  match as, bs with
  | [], bs => simp [resolvePresent]
  | p :: as, [] => simp [resolvePresent]
  | p :: as, q :: bs =>
    rw [resolvePresent_cons_eq_ok_iff]
    constructor
    · rintro ⟨same, r', hr', rfl⟩
      exact ⟨p, as, q, bs, r', rfl, rfl, same, hr', rfl⟩
    · rintro ⟨_, _, _, _, r', ⟨rfl, rfl⟩, ⟨rfl, rfl⟩, same, hr', rfl⟩
      exact ⟨same, r', hr', rfl⟩

/-- The components of a side up to the first one that is left open. -/
def presentOf (cs : List α) : List α := cs.takeWhile (!Component.absent ·)

/-- **A range is resolved exactly if both sides are empty, or neither has a gap, both tell the
same partition and steps lead to it.** -/
theorem resolve_eq_ok_iff {start stop : List α} {r : Range α} :
    resolve start stop = .ok r ↔
      (start = [] ∧ stop = [] ∧ r = .unbounded) ∨
      (¬(start = [] ∧ stop = [])
        ∧ checkNoGap .start start = .ok () ∧ checkNoGap .stop stop = .ok ()
        ∧ ∃ p as q bs r', presentOf start = p :: as ∧ presentOf stop = q :: bs
          ∧ Component.same p q = true ∧ Resolves as bs r' ∧ r = r'.fix p) := by
  rw [resolve]
  split
  · rename_i hempty
    obtain ⟨rfl, rfl⟩ : start = [] ∧ stop = [] := by simpa using hempty
    constructor
    · intro h
      cases h
      exact Or.inl ⟨rfl, rfl, rfl⟩
    · rintro (⟨-, -, rfl⟩ | ⟨h, -⟩)
      · rfl
      · exact absurd ⟨rfl, rfl⟩ h
  · rename_i hsome
    have hne : ¬(start = [] ∧ stop = []) := by simpa using hsome
    simp only [Except.bind_eq_ok_iff, resolvePresent_eq_ok_iff, presentOf]
    constructor
    · rintro ⟨_, hs, _, he, h⟩
      exact Or.inr ⟨hne, hs, he, h⟩
    · rintro (⟨hstart, hstop, _⟩ | ⟨-, hs, he, h⟩)
      · exact absurd ⟨hstart, hstop⟩ hne
      · exact ⟨(), hs, (), he, h⟩

/-! ## 3. Sides that share a beginning -/

theorem presentOf_append {cs opened : List α} (hcs : ∀ c ∈ cs, Component.absent c = false)
    (hopened : ∀ c ∈ opened, Component.absent c = true) : presentOf (cs ++ opened) = cs := by
  rw [presentOf, List.takeWhile_append_of_pos (by simpa using hcs)]
  cases opened with
  | nil => simp
  | cons c opened => simp [hopened c (by simp)]

/-- A side that is left open only at its end has no gap. -/
theorem checkNoGap_append (side : Side) {cs opened : List α}
    (hcs : ∀ c ∈ cs, Component.absent c = false)
    (hopened : ∀ c ∈ opened, Component.absent c = true) :
    checkNoGap side (cs ++ opened) = .ok () := by
  have hpresent := presentOf_append hcs hopened
  have hopen : opened.takeWhile Component.absent = opened := by
    simpa using @List.takeWhile_append_of_pos _ _ opened [] hopened
  rw [presentOf] at hpresent
  simp [checkNoGap, firstAfterGap?, hpresent, hopen]

/-- Components that both sides share are fixed one after another. -/
theorem resolveClustering_append {cs as bs : List α} (hcs : ∀ c ∈ cs, Component.same c c = true)
    (hmore : as ≠ [] ∨ bs ≠ []) (position : Nat) :
    resolveClustering position (cs ++ as) (cs ++ bs) =
      (resolveClustering (position + cs.length) as bs).map
        fun r => { r with fixed := cs ++ r.fixed } := by
  induction cs generalizing position with
  | nil =>
    simp only [List.nil_append, List.length_nil, Nat.add_zero]
    cases resolveClustering position as bs <;> rfl
  | cons c cs ih =>
    have hnot : cs ++ as = [] → cs ++ bs = [] → False := by
      intro has hbs
      exact hmore.elim (· (List.append_eq_nil_iff.mp has).2) (· (List.append_eq_nil_iff.mp hbs).2)
    obtain ⟨hc, hcs⟩ := List.forall_mem_cons.mp hcs
    rw [List.cons_append, List.cons_append, resolveClustering.eq_5 _ _ _ _ _ hnot, if_pos hc,
      ih hcs, List.length_cons, Nat.add_right_comm, Nat.add_assoc]
    cases resolveClustering (position + (cs.length + 1)) as bs <;> rfl

/-- Whether there are bounds on both sides and the lower one is not strictly the lower. -/
def boundsOutOfOrder : Option α → Option α → Bool
  | some a, some b => !(Component.order? a b == some .lt)
  | _, _ => false

theorem resolveClustering_bounds (position : Nat) (lower upper : Option α) :
    resolveClustering position lower.toList upper.toList =
      if boundsOutOfOrder lower upper then .error (.nonMonotonic position)
      else .ok ⟨[], lower, upper⟩ := by
  cases lower with
  | none => cases upper <;> rfl
  | some a =>
    cases upper with
    | none => rfl
    | some b =>
      simp only [Option.toList_some, resolveClustering, boundsOutOfOrder]
      by_cases hlt : (Component.order? a b == some .lt) = true
      · simp [hlt]
      · simp [hlt]

/-- **Sides that share all but a last bound resolve to what they share and their bounds**, unless
the bounds are out of order. -/
theorem resolve_of_shared {c : α} {cs : List α} {lower upper : Option α} {opened opened' : List α}
    (hpresent : ∀ a ∈ c :: cs ++ lower.toList ++ upper.toList, Component.absent a = false)
    (hsame : ∀ a ∈ c :: cs, Component.same a a = true)
    (hsome : lower ≠ none ∨ upper ≠ none)
    (hopened : ∀ a ∈ opened, Component.absent a = true)
    (hopened' : ∀ a ∈ opened', Component.absent a = true) :
    resolve (c :: cs ++ lower.toList ++ opened) (c :: cs ++ upper.toList ++ opened') =
      if boundsOutOfOrder lower upper then .error (.nonMonotonic (cs.length + 1))
      else .ok ⟨c :: cs, lower, upper⟩ := by
  have hstart : ∀ a ∈ c :: cs ++ lower.toList, Component.absent a = false :=
    fun a ha => hpresent a (List.mem_append_left _ ha)
  have hstop : ∀ a ∈ c :: cs ++ upper.toList, Component.absent a = false := by
    intro a ha
    refine hpresent a ?_
    rcases List.mem_append.mp ha with ha | ha
    · exact List.mem_append_left _ (List.mem_append_left _ ha)
    · exact List.mem_append_right _ ha
  have hstart' := presentOf_append hstart hopened
  have hstop' := presentOf_append hstop hopened'
  rw [presentOf] at hstart' hstop'
  obtain ⟨hc, hcs⟩ := List.forall_mem_cons.mp hsame
  have hmore : lower.toList ≠ [] ∨ upper.toList ≠ [] := by
    simpa using hsome
  have hdepth : ¬((cs ++ lower.toList).length + 1 < (cs ++ upper.toList).length
      ∨ (cs ++ upper.toList).length + 1 < (cs ++ lower.toList).length) := by
    have hl := Option.length_toList_le (o := lower)
    have hu := Option.length_toList_le (o := upper)
    simp only [List.length_append]
    omega
  rw [resolve, if_neg (by simp), checkNoGap_append _ hstart hopened,
    checkNoGap_append _ hstop hopened', hstart', hstop']
  simp only [bind, Except.bind, List.cons_append, resolvePresent, hc, Bool.not_true,
    Bool.false_eq_true, if_false, Bool.or_eq_true, decide_eq_true_eq, if_neg hdepth,
    resolveClustering_append hcs hmore, resolveClustering_bounds, Nat.add_comm 1]
  cases boundsOutOfOrder lower upper <;> simp [Except.map, Range.fix]

end WideColumn.Key
