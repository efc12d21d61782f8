/-
# Legal relations, and what methods add

A statement names its rows by relations on the key: equalities in key order and, where it may,
bounds on the next clustering column.  `Pins` and `Narrows` are the two parts that a legal row of
relations is made of.

What a method adds is told by its action.  Methods REST if they stay in their state and change
nothing but settings; others assign, bound, or make the write conditional, and each kind has a
lemma that says what its methods add and where they lead.
-/
import WideColumn.Builder.Writing
import WideColumn.Proofs.Builder.Sends
import WideColumn.Proofs.Except

namespace WideColumn.Builder

open WideColumn.Key

/-! ## 1. Legal relations -/

/-- Equality of a column with one value. -/
def equality (column : String) : String := column ++ " = ?"

/-- One relation on each column, in order: an equality, with a value or with JSON text, or on the
last column membership in a list. -/
inductive Pins : List String → List String → Prop
  | nil : Pins [] []
  | value {c : String} {cs texts : List String} (h : Pins cs texts) :
      Pins (c :: cs) (equality c :: texts)
  | json {c : String} {cs texts : List String} (h : Pins cs texts) :
      Pins (c :: cs) ((c ++ " = fromJson(?)") :: texts)
  | among {c : String} : Pins [c] [c ++ " IN ?"]

/-- Bounds of a column, on one side or on both. -/
inductive Bounds (c : String) : List String → Prop
  | lower {op : String} (h : op ∈ [">", ">="]) : Bounds c [c ++ " " ++ op ++ " ?"]
  | upper {op : String} (h : op ∈ ["<", "<="]) : Bounds c [c ++ " " ++ op ++ " ?"]
  | both {start stop : String} (hstart : start ∈ [">", ">="]) (hstop : stop ∈ ["<", "<="]) :
      Bounds c [c ++ " " ++ start ++ " ?", c ++ " " ++ stop ++ " ?"]

/-- Equalities on the first columns, in order, and at most bounds of the next one. -/
def Narrows (columns texts : List String) : Prop :=
  ∃ k range, texts = (columns.take k).map equality ++ range
    ∧ (range = [] ∨ ∃ c, columns[k]? = some c ∧ Bounds c range)

namespace Narrows

variable {c : String} {cs texts : List String}

theorem nil : Narrows cs [] := ⟨0, [], by simp, Or.inl rfl⟩

theorem range (h : Bounds c texts) : Narrows (c :: cs) texts :=
  ⟨0, texts, by simp, Or.inr ⟨c, rfl, h⟩⟩

theorem equal (h : Narrows cs texts) : Narrows (c :: cs) (equality c :: texts) := by
  obtain ⟨k, range, rfl, hrange⟩ := h
  exact ⟨k + 1, range, rfl, by simpa using hrange⟩

theorem all : Narrows cs (cs.map equality) :=
  ⟨cs.length, [], by simp, Or.inl rfl⟩

end Narrows

theorem PlannedField.relation_eq (f : PlannedField) : f.relation "=" = equality f.column := by
  rw [relation, equality, String.append_assoc, String.append_assoc]
  rfl

theorem PlannedField.relation_in (f : PlannedField) : f.relation "IN" = f.column ++ " IN ?" := by
  rw [relation, String.append_assoc, String.append_assoc]
  rfl

/-! ## 2. Methods -/

variable {p : Plan} {family after : String} {states ss : List State} {s last : State}
  {actions : List Action}

/-- What the equality of a key column adds. -/
def equating (f : PlannedField) : Action := .relate (f.relation "=") (f.operand "value")

/-- The bounds that are legal on a column bound it. -/
theorem mem_boundMethods {f : PlannedField} {position : Nat} {next : String} {method : Method}
    (h : method ∈ boundMethods f position next) :
    ∃ name a, method = change name a (some next) ∧ Bounds f.column a.relations := by
  obtain ⟨shape, hshape, hmethod⟩ := List.mem_flatMap.mp h
  rw [boundsOfShape] at hmethod
  split at hmethod <;> simp only [List.mem_cons, List.not_mem_nil, or_false] at hmethod
  · rcases hmethod with rfl | rfl
    · exact ⟨_, _, rfl, .lower (by simp)⟩
    · exact ⟨_, _, rfl, .lower (by simp)⟩
  · rcases hmethod with rfl | rfl
    · exact ⟨_, _, rfl, .upper (by simp)⟩
    · exact ⟨_, _, rfl, .upper (by simp)⟩
  · rcases hmethod with rfl | rfl | rfl | rfl <;>
      exact ⟨_, _, rfl, .both (by simp) (by simp)⟩

/-- An action that adds neither to the rows nor to what is written or asked of them. -/
def Action.IsNeutral (a : Action) : Prop := a.clause? = none ∧ a ≠ .set .ifExists

/-- A method that stays in its state and is neutral, or sends the query off. -/
def Method.Rests (method : Method) : Prop :=
  method.via = none ∧ ∀ name a next, method.act = .change name a next → next = none ∧ a.IsNeutral

theorem rests_setting {setting : Setting} (h : setting ≠ .ifExists) :
    (Builder.setting setting).Rests := by
  refine ⟨rfl, ?_⟩
  rintro name a next ⟨⟩
  exact ⟨rfl, rfl, by simpa using h⟩

theorem rests_finish {t : Terminal} : (finish t).Rests := by
  refine ⟨rfl, ?_⟩
  rintro name a next ⟨⟩

theorem rests_readMethods {json ordering : Bool} :
    ∀ method ∈ readMethods p json ordering, method.Rests := by
  cases json <;> cases ordering <;>
    simp [readMethods, consistencyMethods, readTerminals, or_imp, forall_and, rests_setting,
      rests_finish]

theorem rests_writeMethods {ttl : Bool} : ∀ method ∈ writeMethods ttl, method.Rests := by
  cases ttl <;>
    simp [writeMethods, usingMethods, consistencyMethods, writeTerminals, rests_setting,
      rests_finish]

theorem leads_of_rests {a : Action} {target : String} (hrests : ∀ method ∈ s.methods, method.Rests)
    (h : s.Leads a target) : a.IsNeutral ∧ target = s.name := by
  obtain ⟨⟨act, via⟩, hmem, name, next, rfl, htarget⟩ := h
  obtain ⟨rfl, hact⟩ := hrests _ hmem
  obtain ⟨rfl, hneutral⟩ := hact name a next rfl
  exact ⟨hneutral, (Option.some.inj htarget).symm⟩

theorem via_readMethods {json ordering : Bool} :
    ∀ method ∈ readMethods p json ordering, method.via = none :=
  fun method h => (rests_readMethods method h).1

theorem via_lastMethods {tested : List PlannedField} {ttl : Bool} :
    ∀ method ∈ conditionalMethods p family tested ++ writeMethods ttl, method.via = none := by
  intro method h
  rcases List.mem_append.mp h with h | h
  · rw [conditionalMethods] at h
    rcases List.mem_cons.mp (List.mem_ite_nil_right.mp h).2 with rfl | h
    · rfl
    · obtain ⟨f, -, rfl⟩ := List.mem_map.mp h
      rfl
  · exact (rests_writeMethods method h).1

/-- What leads away from the last state of a writing chain: the row has to exist, or a column is
tested. -/
theorem leads_conditional {tested : List PlannedField} {tail : List Method}
    (htail : ∀ method ∈ tail, method.Rests)
    (hmethods : s.methods = conditionalMethods p family tested ++ tail) {a : Action}
    {target : String} (h : s.Leads a target) :
    a.IsNeutral ∧ target = s.name ∨ p.has .lightweightTransactions = true
      ∧ (a = .set .ifExists ∧ target = p.item (family ++ "IfExists")
        ∨ tested ≠ [] ∧ a.clause? = some .conditions ∧ target = p.item (family ++ "If")) := by
  obtain ⟨method, hmethod, name, next, hact, htarget⟩ := h
  rw [hmethods, conditionalMethods] at hmethod
  rcases List.mem_append.mp hmethod with hmethod | hmethod
  · obtain ⟨hknown, hmethod⟩ := List.mem_ite_nil_right.mp hmethod
    refine Or.inr ⟨hknown, ?_⟩
    rcases List.mem_cons.mp hmethod with rfl | hmethod
    · cases hact; cases htarget
      exact Or.inl ⟨rfl, rfl⟩
    · obtain ⟨f, hf, rfl⟩ := List.mem_map.mp hmethod
      cases hact; cases htarget
      exact Or.inr ⟨List.ne_nil_of_mem hf, rfl, rfl⟩
  · obtain ⟨hown, hrests⟩ := htail method hmethod
    obtain ⟨rfl, hneutral⟩ := hrests name a next hact
    rw [Method.target?, hact, hown] at htarget
    exact Or.inl ⟨hneutral, (Option.some.inj htarget).symm⟩

/-- What a method assigns to a field, going on in a state or staying. -/
def Method.Assigns (method : Method) (next : Option String) : Prop :=
  ∃ name a, method = change name a next ∧ a.clause? = some .assignments

theorem assigns_assign {name text : String} {operand : Operand} {next : Option String} :
    (change name (.assign text operand) next).Assigns next := ⟨_, _, rfl, rfl⟩

theorem assigns_assignLiteral {name text : String} {next : Option String} :
    (change name (.assignLiteral text) next).Assigns next := ⟨_, _, rfl, rfl⟩

theorem assigns_assignItem {name column : String} {operand : Operand} {next : Option String} :
    (change name (.assignItem column operand) next).Assigns next := ⟨_, _, rfl, rfl⟩

theorem assigns_of_mem_typeFieldMethods {f : PlannedField} {next : Option String}
    {u : Schema.UserType} {ms : List Method} (h : typeFieldMethods p f next u = .ok ms) :
    ∀ method ∈ ms, method.Assigns next := by
  intro method hmethod
  obtain ⟨sub, -, hsub⟩ := Except.exists_of_mem_mapM h method hmethod
  simp only [Except.bind_eq_ok_iff] at hsub
  obtain ⟨ident, -, type, -, hsub⟩ := hsub
  cases hsub
  exact ⟨_, _, rfl, rfl⟩

theorem assigns_of_mem_partMethods {f : PlannedField} {next : Option String} {ms : List Method}
    (h : partMethods p f next = .ok ms) : ∀ method ∈ ms, method.Assigns next := by
  rw [partMethods] at h
  split at h
  · obtain ⟨element, -, h⟩ := Except.bind_eq_ok_iff.mp h
    cases h
    simp [append, remove, assigns_assign, assigns_assignItem]
  · cases h
    simp [append, remove, assigns_assign]
  · obtain ⟨key, -, h⟩ := Except.bind_eq_ok_iff.mp h
    cases h
    simp [append, remove, assigns_assign]
  · split at h
    · exact assigns_of_mem_typeFieldMethods h
    · cases h
      simp
  all_goals
    cases h
    simp

/-- What sets a field assigns to it. -/
theorem assigns_of_mem_setMethods {f : PlannedField} {next : Option String} {ms : List Method}
    (h : setMethods p next f = .ok ms) : ∀ method ∈ ms, method.Assigns next := by
  have hwhole : ∀ method ∈ wholeMethods f next, method.Assigns next := by
    simp [wholeMethods, assigns_assign, assigns_assignLiteral]
  rw [setMethods] at h
  split at h
  · cases h
    simp [counterMethods, assigns_assign]
  · split at h
    · cases h
      exact hwhole
    · obtain ⟨parts, hparts, h⟩ := Except.bind_eq_ok_iff.mp h
      cases h
      exact List.forall_mem_append.mpr ⟨hwhole, assigns_of_mem_partMethods hparts⟩

theorem assigns_of_flatMapM {fs : List PlannedField} {next : Option String} {ms : List Method}
    (h : fs.flatMapM (setMethods p next) = .ok ms) : ∀ method ∈ ms, method.Assigns next := by
  intro method hmethod
  obtain ⟨f, -, ms, hms, hmethod⟩ := Except.exists_of_mem_flatMapM h method hmethod
  exact assigns_of_mem_setMethods hms method hmethod

/-! ## 3. Rows of actions -/

/-- A family with a partition key begins with it. -/
theorem stateForFirst_eq {fs : List PlannedField} (h : fs ≠ []) (otherwise otherwise' : String) :
    p.stateForFirst family fs otherwise = p.stateForFirst family fs otherwise' := by
  obtain ⟨f, fs, rfl⟩ := List.exists_cons_of_ne_nil h
  rfl

/-- Where the store deletes ranges, a delete narrows like a select. -/
theorem narrowingStates_eq (hranges : p.has .clusteringRangeDelete = true) {last : String}
    {lastMethods : List Method} {position : Nat} {fs : List PlannedField} :
    narrowingStates p family last lastMethods position fs =
      clusteringStates p family last lastMethods position fs := by
  induction fs generalizing position with
  | nil => rfl
  | cons f fs ih => simp [narrowingStates, clusteringStates, hranges, ih]

/-- Actions that add to other clauses add no relations. -/
theorem relations_eq_nil (h : ∀ a ∈ actions, a.clause? ≠ some .relations) :
    actions.flatMap Action.relations = [] :=
  List.flatMap_eq_nil_iff.mpr fun a ha => Action.relations_eq_nil (h a ha)

theorem relations_equating (fs : List PlannedField) :
    (fs.map equating).flatMap Action.relations = (fs.map (·.column)).map equality := by
  induction fs with
  | nil => rfl
  | cons f fs ih =>
    rw [List.map_cons, List.flatMap_cons, ih, List.map_cons, List.map_cons]
    simp [equating, Action.relations, PlannedField.relation_eq]

/-- A row of actions does not both ask for the row to exist and test its columns. -/
def Exclusive (actions : List Action) : Prop :=
  (∀ a ∈ actions, a ≠ .set .ifExists) ∨ ∀ a ∈ actions, a.clause? ≠ some .conditions

/-- An action that adds to another clause than the conditions is no condition of any kind. -/
theorem unconditional_of_clause {a : Action} {clause : Query.Clause}
    (h : a.clause? = some clause) (hclause : clause ≠ .conditions) :
    a ≠ .set .ifExists ∧ a.clause? ≠ some .conditions := by
  refine ⟨?_, ?_⟩
  · rintro rfl
    cases h
  · rw [h]
    simpa using hclause

theorem Exclusive.append {front back : List Action}
    (hfront : ∀ a ∈ front, a ≠ .set .ifExists ∧ a.clause? ≠ some .conditions)
    (h : Exclusive back) : Exclusive (front ++ back) :=
  h.imp (fun h => List.forall_mem_append.mpr ⟨fun a ha => (hfront a ha).1, h⟩)
    fun h => List.forall_mem_append.mpr ⟨fun a ha => (hfront a ha).2, h⟩

end WideColumn.Builder
