/-
# What the chains of a family gather

A chain is read off from its last state back to the first, family by family:

* a SELECT pins each partition column, then narrows the clustering columns (`select_of_sends`);
* an UPDATE assigns something and equates the whole key (`update_of_sends`);
* a DELETE equates the partition columns and narrows the clustering columns, where the store does
  not delete ranges all or none of them (`delete_of_sends`).

Each state is looked up by its name, so the names of states have to differ.
-/
import WideColumn.Proofs.Builder.Legal

namespace WideColumn.Builder

variable {p : Plan} {family after : String} {states ss : List State} {s last : State}
  {actions : List Action}

variable (hnodup : (states.map (·.name)).Nodup)
include hnodup

/-! ## 1. Key columns -/

/-- **The states of the partition columns pin each of them.** -/
theorem pins_of_sends {first : Bool} {fs : List PlannedField}
    (hstates : ∀ s ∈ partitionStates p family after first fs, s ∈ states)
    (h : Sends states (p.stateForFirst family fs after) actions) :
    ∃ front back, actions = front ++ back
      ∧ Pins (fs.map (·.column)) (front.flatMap Action.relations) ∧ Sends states after back := by
  induction fs generalizing first actions with
  | nil => exact ⟨[], actions, rfl, .nil, h⟩
  | cons f fs ih =>
    obtain ⟨s, hs, hname, hmethods⟩ : ∃ s ∈ states, s.name = p.stateFor family f ∧ s.methods =
        (if first && !p.schema.functions.isEmpty then
            [change "with_function" .projectFunction none] else [])
          ++ [equate f f.name (p.stateForFirst family fs after)]
          ++ (if fs.isEmpty then [among f (p.stateForFirst family fs after)] else [])
          ++ if p.has .jsonRelations then [equateJson f (p.stateForFirst family fs after)]
            else [] :=
      ⟨_, hstates _ List.mem_cons_self, rfl, rfl⟩
    have hmore : ∀ s ∈ partitionStates p family after false fs, s ∈ states :=
      fun s hs => hstates s (List.mem_cons_of_mem _ hs)
    replace h : Sends states s.name actions := hname ▸ h
    have hmem : ∀ method ∈ s.methods, method = change "with_function" .projectFunction none
        ∨ method = equate f f.name (p.stateForFirst family fs after)
        ∨ fs = [] ∧ method = among f (p.stateForFirst family fs after)
        ∨ method = equateJson f (p.stateForFirst family fs after) := by
      intro method hmethod
      simp only [hmethods, List.mem_append, List.mem_ite_nil_right, List.mem_singleton,
        List.isEmpty_iff] at hmethod
      tauto
    have hleads : ∀ a target, s.Leads a target → a.relations = [] ∧ target = s.name ∨
        target = p.stateForFirst family fs after ∧ ∀ texts, Pins (fs.map (·.column)) texts →
          Pins ((f :: fs).map (·.column)) (a.relations ++ texts) := by
      rintro a target ⟨method, hmethod, name, next, hact, htarget⟩
      rcases hmem method hmethod with rfl | rfl | ⟨rfl, rfl⟩ | rfl
      · cases hact; cases htarget
        exact Or.inl ⟨rfl, rfl⟩
      · cases hact; cases htarget
        refine Or.inr ⟨rfl, fun texts hpins => ?_⟩
        rw [Action.relations, PlannedField.relation_eq]
        exact .value hpins
      · cases hact; cases htarget
        refine Or.inr ⟨rfl, fun texts hpins => ?_⟩
        cases hpins
        rw [Action.relations, PlannedField.relation_in]
        exact .among
      · cases hact; cases htarget
        exact Or.inr ⟨rfl, fun texts hpins => .json hpins⟩
    obtain ⟨stays, rest, rfl, hstays,
        ⟨rfl, hfinish⟩ | ⟨a, target, onward, rfl, hleaves, honward⟩⟩ :=
      h.leave _ _ hnodup hs hleads
    · -- no method of these states sends the query off
      obtain ⟨method, hmethod, t, hact⟩ := hfinish
      rcases hmem method hmethod with rfl | rfl | ⟨rfl, rfl⟩ | rfl <;> cases hact
    · obtain ⟨rfl, hpins⟩ := hleaves
      obtain ⟨front, back, rfl, hfront, hback⟩ := ih hmore honward
      refine ⟨stays ++ a :: front, back, by simp, ?_, hback⟩
      rw [List.flatMap_append, List.flatMap_eq_nil_iff.mpr hstays, List.nil_append,
        List.flatMap_cons]
      exact hpins _ hfront

/-- **The states of key columns equate each of them.** -/
theorem equating_of_sends {fs : List PlannedField}
    (hstates : ∀ s ∈ keyStates p family after fs, s ∈ states)
    (h : Sends states (p.stateForFirst family fs after) actions) :
    ∃ back, actions = fs.map equating ++ back ∧ Sends states after back := by
  induction fs generalizing actions with
  | nil => exact ⟨actions, rfl, h⟩
  | cons f fs ih =>
    have hstate := hstates _ List.mem_cons_self
    have hmore : ∀ s ∈ keyStates p family after fs, s ∈ states :=
      fun s hs => hstates s (List.mem_cons_of_mem _ hs)
    rcases Sends.cases_of_nodup hnodup hstate h with ⟨-, method, hmethod, t, hact⟩ |
      ⟨a, target, rest, rfl, ⟨method, hmethod, name, next, hact, htarget⟩, honward⟩
    · obtain rfl := List.mem_singleton.mp hmethod
      cases hact
    · obtain rfl := List.mem_singleton.mp hmethod
      cases hact; cases htarget
      obtain ⟨back, rfl, hback⟩ := ih hmore honward
      exact ⟨back, rfl, hback⟩

/-- **The states of the clustering columns narrow them.** -/
theorem narrows_of_sends (hlast : last ∈ states) (hown : ∀ method ∈ last.methods, method.via = none)
    (hend : ∀ actions, Sends states last.name actions → actions.flatMap Action.relations = [])
    {position : Nat} {fs : List PlannedField}
    (hstates : ∀ s ∈ clusteringStates p family last.name last.methods position fs, s ∈ states)
    (h : Sends states (p.stateForFirst family fs last.name) actions) :
    Narrows (fs.map (·.column)) (actions.flatMap Action.relations) := by
  induction fs generalizing position actions with
  | nil =>
    rw [hend actions h]
    exact .nil
  | cons f fs ih =>
    have hstate := hstates _ List.mem_cons_self
    have hmore : ∀ s ∈ clusteringStates p family last.name last.methods (position + 1) fs,
        s ∈ states := fun s hs => hstates s (List.mem_cons_of_mem _ hs)
    rcases Sends.cases_of_nodup hnodup hstate h with ⟨rfl, -⟩ |
      ⟨a, target, rest, rfl, ⟨method, hmethod, name, next, hact, htarget⟩, honward⟩
    · exact .nil
    · rw [List.flatMap_cons]
      rcases List.mem_append.mp hmethod with hmethod | hpassed
      · rcases List.mem_cons.mp hmethod with rfl | hbound
        · cases hact; cases htarget
          rw [Action.relations, PlannedField.relation_eq]
          exact .equal (ih hmore honward)
        · obtain ⟨_, _, rfl, hbounds⟩ := mem_boundMethods hbound
          cases hact; cases htarget
          rw [hend rest honward, List.append_nil]
          exact .range hbounds
      · -- the method is one of the last state
        have hpast : Sends states last.name (a :: rest) :=
          .step hlast (leads_of_passedTo hown hpassed hact htarget) honward
        rw [← List.flatMap_cons, hend _ hpast]
        exact .nil

/-- **Where the store deletes no ranges, the clustering columns are equated all or not at all.**
Only before the first of them are the methods of the last state passed on. -/
theorem whole_of_sends (hranges : p.has .clusteringRangeDelete = false) (hlast : last ∈ states)
    (hown : ∀ method ∈ last.methods, method.via = none)
    (hend : ∀ actions, Sends states last.name actions → actions.flatMap Action.relations = [])
    {position : Nat} (hposition : position ≠ 0) {fs : List PlannedField}
    (hstates : ∀ s ∈ narrowingStates p family last.name last.methods position fs, s ∈ states)
    (h : Sends states (p.stateForFirst family fs last.name) actions) :
    actions.flatMap Action.relations = (fs.map (·.column)).map equality
      ∨ position = 1 ∧ actions.flatMap Action.relations = [] := by
  induction fs generalizing position actions with
  | nil => exact Or.inl (hend actions h)
  | cons f fs ih =>
    obtain ⟨s, hs, hname, hmethods⟩ : ∃ s ∈ states, s.name = p.stateFor family f ∧ s.methods =
        equate f (f.name ++ "_eq") (p.stateForFirst family fs last.name)
          :: if position = 1 then passedTo last.name last.methods else [] := by
      refine ⟨_, hstates _ List.mem_cons_self, rfl, ?_⟩
      simp [hranges]
    have hmore : ∀ s ∈ narrowingStates p family last.name last.methods (position + 1) fs,
        s ∈ states := fun s hs => hstates s (List.mem_cons_of_mem _ hs)
    replace h : Sends states s.name actions := hname ▸ h
    rcases h.cases_of_nodup hnodup hs with ⟨rfl, method, hmethod, t, hact⟩ |
      ⟨a, target, rest, rfl, ⟨method, hmethod, name, next, hact, htarget⟩, honward⟩
    · rw [hmethods] at hmethod
      rcases List.mem_cons.mp hmethod with rfl | hpassed
      · cases hact
      · exact Or.inr ⟨(List.mem_ite_nil_right.mp hpassed).1, rfl⟩
    · rw [hmethods] at hmethod
      rcases List.mem_cons.mp hmethod with rfl | hpassed
      · cases hact; cases htarget
        rcases ih (Nat.succ_ne_zero position) hmore honward with hall | ⟨hfirst, -⟩
        · refine Or.inl ?_
          rw [List.flatMap_cons, hall, Action.relations, PlannedField.relation_eq]
          rfl
        · omega
      · obtain ⟨hfirst, hpassed⟩ := List.mem_ite_nil_right.mp hpassed
        exact Or.inr ⟨hfirst,
          hend _ (.step hlast (leads_of_passedTo hown hpassed hact htarget) honward)⟩

/-! ## 2. Assignments -/

/-- A state in which a first assignment is made makes one. -/
theorem assignment_of_sends {next : String} (hs : s ∈ states)
    (hmethods : ∀ method ∈ s.methods, method.Assigns (some next))
    (h : Sends states s.name actions) :
    ∃ a rest, actions = a :: rest ∧ a.clause? = some .assignments ∧ Sends states next rest := by
  rcases h.cases_of_nodup hnodup hs with ⟨-, method, hmethod, t, hact⟩ |
    ⟨a, target, rest, rfl, ⟨method, hmethod, name, next', hact, htarget⟩, honward⟩
  · obtain ⟨_, _, rfl, -⟩ := hmethods method hmethod
    cases hact
  · obtain ⟨_, _, rfl, hassigns⟩ := hmethods method hmethod
    cases hact; cases htarget
    exact ⟨a, rest, rfl, hassigns, honward⟩

/-- A state in which further assignments may be made goes on by the equality of a column. -/
theorem assignments_of_sends {ms : List Method} {key : PlannedField} {name next : String}
    (hs : s ∈ states) (hmethods : s.methods = ms ++ [equate key name next])
    (hassign : ∀ method ∈ ms, method.Assigns none) (h : Sends states s.name actions) :
    ∃ more rest, actions = more ++ equating key :: rest
      ∧ (∀ a ∈ more, a.clause? = some .assignments) ∧ Sends states next rest := by
  have hmem : ∀ method ∈ s.methods, method.Assigns none ∨ method = equate key name next := by
    intro method hmethod
    rw [hmethods] at hmethod
    exact (List.mem_append.mp hmethod).imp (hassign method) List.mem_singleton.mp
  have hleads : ∀ a target, s.Leads a target →
      a.clause? = some .assignments ∧ target = s.name ∨ a = equating key ∧ target = next := by
    rintro a target ⟨method, hmethod, name', next', hact, htarget⟩
    rcases hmem method hmethod with ⟨_, _, rfl, hassigns⟩ | rfl
    · cases hact; cases htarget
      exact Or.inl ⟨hassigns, rfl⟩
    · cases hact; cases htarget
      exact Or.inr ⟨rfl, rfl⟩
  obtain ⟨more, rest, rfl, hmore, ⟨rfl, method, hmethod, t, hact⟩ |
    ⟨a, target, onward, rfl, ⟨rfl, rfl⟩, honward⟩⟩ := h.leave _ _ hnodup hs hleads
  · rcases hmem method hmethod with ⟨_, _, rfl, -⟩ | rfl <;> cases hact
  · exact ⟨more, onward, rfl, hmore, honward⟩

/-! ## 3. Last states -/

/-- A state whose methods all rest gathers no relations. -/
theorem neutral_of_sends (hs : s ∈ states) (hrests : ∀ method ∈ s.methods, method.Rests)
    (h : Sends states s.name actions) : ∀ a ∈ actions, a.IsNeutral :=
  h.rest _ hnodup hs fun _ _ => leads_of_rests hrests

/-- Once a column is tested, further columns may be, and the row is not asked to exist. -/
theorem tests_of_sends {tested : List PlannedField} {tail : List Method}
    (htail : ∀ method ∈ tail, method.Rests) (hs : s ∈ states)
    (hmethods : s.methods = tested.map (testField · none) ++ tail)
    (h : Sends states s.name actions) :
    ∀ a ∈ actions, a.clause? ≠ some .relations ∧ a ≠ .set .ifExists := by
  refine h.rest _ hnodup hs ?_
  rintro a target ⟨method, hmethod, name, next, hact, htarget⟩
  rw [hmethods] at hmethod
  rcases List.mem_append.mp hmethod with hmethod | hmethod
  · obtain ⟨f, -, rfl⟩ := List.mem_map.mp hmethod
    cases hact; cases htarget
    exact ⟨⟨by simp [Action.clause?], by simp⟩, rfl⟩
  · obtain ⟨hown, hrests⟩ := htail method hmethod
    obtain ⟨rfl, hclause, hne⟩ := hrests name a next hact
    rw [Method.target?, hact, hown] at htarget
    exact ⟨⟨by simp [hclause], hne⟩, (Option.some.inj htarget).symm⟩

/-- **A writing chain ends with one kind of condition**, and without relations. -/
theorem conditional_of_sends {tested : List PlannedField} {tail : List Method}
    (htail : ∀ method ∈ tail, method.Rests) (hs : s ∈ states)
    (hmethods : s.methods = conditionalMethods p family tested ++ tail)
    (hstates : ∀ s ∈ conditionalStates p family tested tail, s ∈ states)
    (h : Sends states s.name actions) :
    actions.flatMap Action.relations = [] ∧ Exclusive actions := by
  obtain ⟨stays, rest, rfl, hstays, hrest⟩ := h.leave _ _ hnodup hs
    fun a target h => leads_conditional htail hmethods h
  suffices hboth : (∀ a ∈ rest, a.clause? ≠ some .relations) ∧ Exclusive rest by
    refine ⟨relations_eq_nil (List.forall_mem_append.mpr ⟨?_, hboth.1⟩), hboth.2.append ?_⟩
    · intro a ha
      simp [(hstays a ha).1]
    · intro a ha
      exact ⟨(hstays a ha).2, by simp [(hstays a ha).1]⟩
  rcases hrest with ⟨rfl, -⟩ | ⟨a, target, onward, rfl, ⟨hknown, hleaves⟩, honward⟩
  · exact ⟨by simp, Or.inl (by simp)⟩
  · rw [conditionalStates, if_pos hknown] at hstates
    rcases hleaves with ⟨rfl, rfl⟩ | ⟨htested, hclause, rfl⟩
    · -- the row has to exist, and nothing is tested any more
      have hneutral := neutral_of_sends hnodup (hstates _ List.mem_cons_self) htail honward
      refine ⟨List.forall_mem_cons.mpr ⟨by simp [Action.clause?], ?_⟩,
        Or.inr (List.forall_mem_cons.mpr ⟨by simp [Action.clause?], ?_⟩)⟩ <;>
      · intro a ha
        simp [(hneutral a ha).1]
    · -- a column is tested, and more may be
      have htests := tests_of_sends hnodup htail (hstates _ (List.mem_cons_of_mem _ (by
        rw [if_neg (by simpa using htested)]
        exact List.mem_singleton_self _))) rfl honward
      refine ⟨List.forall_mem_cons.mpr ⟨by simp [hclause], fun a ha => (htests a ha).1⟩,
        Or.inl (List.forall_mem_cons.mpr ⟨?_, fun a ha => (htests a ha).2⟩)⟩
      rintro rfl
      cases hclause

/-! ## 4. Families -/

/-- **A select chain** pins each partition column, then narrows the clustering columns. -/
theorem select_of_sends {json : Bool} (hpartition : p.partition ≠ [])
    (hstates : ∀ s ∈ selectStates p json, s ∈ states)
    (h : Sends states (selectEntry p json) actions) :
    ∃ pins rest, actions.flatMap Action.relations = pins ++ rest
      ∧ Pins (p.partition.map (·.column)) pins ∧ Narrows (p.clustering.map (·.column)) rest := by
  simp only [selectStates, List.forall_mem_append, List.forall_mem_singleton] at hstates
  obtain ⟨⟨hpart, hclust⟩, hlast⟩ := hstates
  rw [selectEntry, stateForFirst_eq hpartition _ (p.stateForFirst (selectFamily json) p.clustering
    (p.lastState (selectFamily json)))] at h
  obtain ⟨front, back, rfl, hpins, hback⟩ := pins_of_sends hnodup hpart h
  have hend : ∀ actions, Sends states (p.lastState (selectFamily json)) actions →
      actions.flatMap Action.relations = [] := by
    intro actions h
    have hneutral := neutral_of_sends hnodup hlast rests_readMethods h
    refine relations_eq_nil fun a ha => ?_
    simp [(hneutral a ha).1]
  exact ⟨_, _, List.flatMap_append, hpins,
    narrows_of_sends hnodup hlast via_readMethods hend hclust hback⟩

/-- **A delete chain** equates the partition columns, then narrows the clustering columns; where
the store deletes no ranges it equates all of them or none. -/
theorem delete_of_sends {clustering tested : List PlannedField} (hpartition : p.partition ≠ [])
    (hstates : ∀ s ∈ deleteFamily p family clustering tested, s ∈ states)
    (h : Sends states (deleteEntry p family) actions) :
    ∃ rest, actions.flatMap Action.relations = (p.partition.map (·.column)).map equality ++ rest
      ∧ Narrows (clustering.map (·.column)) rest
      ∧ (p.has .clusteringRangeDelete = false →
        rest = [] ∨ rest = (clustering.map (·.column)).map equality) := by
  simp only [deleteFamily, List.forall_mem_append, List.forall_mem_cons] at hstates
  obtain ⟨⟨hpart, hclust⟩, hlast, hconditional⟩ := hstates
  rw [deleteEntry, stateForFirst_eq hpartition _ (p.stateForFirst family clustering
    (p.lastState family))] at h
  obtain ⟨back, rfl, hback⟩ := equating_of_sends hnodup hpart h
  have hend : ∀ actions, Sends states (p.lastState family) actions →
      actions.flatMap Action.relations = [] := fun actions h =>
    (conditional_of_sends hnodup rests_writeMethods hlast rfl hconditional h).1
  refine ⟨back.flatMap Action.relations, by rw [List.flatMap_append, relations_equating], ?_⟩
  cases hranges : p.has .clusteringRangeDelete with
  | true =>
    rw [narrowingStates_eq hranges] at hclust
    exact ⟨narrows_of_sends hnodup hlast via_lastMethods hend hclust hback, by simp⟩
  | false =>
    rcases whole_of_sends hnodup hranges hlast via_lastMethods hend Nat.one_ne_zero hclust hback
      with hall | ⟨-, hnone⟩
    · rw [hall]
      exact ⟨.all, fun _ => Or.inr rfl⟩
    · rw [hnone]
      exact ⟨.nil, fun _ => Or.inl rfl⟩

/-- **An update chain** assigns something, equates the whole key, and does not both ask for the row
to exist and test its columns. -/
theorem update_of_sends {settable keys tested : List PlannedField} (hkeys : keys ≠ [])
    (hfamily : updateFamily p family settable keys tested = .ok ss) (hstates : ∀ s ∈ ss, s ∈ states)
    (h : Sends states (updateEntry p family) actions) :
    (∃ a ∈ actions, a.clause? = some .assignments)
      ∧ actions.flatMap Action.relations = (keys.map (·.column)).map equality
      ∧ Exclusive actions := by
  obtain ⟨key, others, rfl⟩ := List.exists_cons_of_ne_nil hkeys
  simp only [updateFamily, Except.bind_eq_ok_iff] at hfamily
  obtain ⟨firstMethods, hfirst, moreMethods, hmore, hfamily⟩ := hfamily
  cases hfamily
  simp only [List.forall_mem_append, List.forall_mem_cons, List.cons_append, List.nil_append]
    at hstates
  obtain ⟨hset, hor, hothers, hlast, hconditional⟩ := hstates
  obtain ⟨a, rest, rfl, hassigns, hrest⟩ :=
    assignment_of_sends hnodup hset (assigns_of_flatMapM hfirst) h
  obtain ⟨more, rest, rfl, hmoreAssign, hrest⟩ :=
    assignments_of_sends hnodup hor rfl (assigns_of_flatMapM hmore) hrest
  obtain ⟨back, rfl, hback⟩ := equating_of_sends hnodup hothers hrest
  obtain ⟨hrelations, hexclusive⟩ :=
    conditional_of_sends hnodup rests_writeMethods hlast rfl hconditional hback
  have hassign : ∀ b ∈ a :: more, b.clause? = some .assignments :=
    List.forall_mem_cons.mpr ⟨hassigns, hmoreAssign⟩
  have hequate : ∀ b ∈ (key :: others).map equating, b.clause? = some .relations := by
    intro b hb
    obtain ⟨f, -, rfl⟩ := List.mem_map.mp hb
    rfl
  have hsplit : a :: (more ++ equating key :: (others.map equating ++ back)) =
      (a :: more) ++ ((key :: others).map equating ++ back) := by simp
  rw [hsplit]
  refine ⟨⟨a, List.mem_cons_self, hassigns⟩, ?_, .append ?_ (.append ?_ hexclusive)⟩
  · rw [List.flatMap_append, relations_eq_nil fun b hb => by simp [hassign b hb],
      List.flatMap_append, relations_equating, hrelations, List.append_nil, List.nil_append]
  · exact fun b hb => unconditional_of_clause (hassign b hb) (by simp)
  · exact fun b hb => unconditional_of_clause (hequate b hb) (by simp)

end WideColumn.Builder
