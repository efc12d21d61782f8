/-
# Bounds on both sides

A clustering column is bounded on both sides by four methods, one for each pair of comparisons,
and a method that does so belongs to the column at its place in the key (`inPlace_of_states`).

Such a method is given two values, and fails unless the first is stored strictly before the
second.  Whether there are such values is a matter of the column's shape: they are there for every
orderable shape but maps, user types and tuples that begin with one, as stored maps and stored
user types are not compared.  So all two-sided methods of a column can be used, or none of them
can (`two_sided_methods`), and `flags_refused` is a column of the second kind.
-/
import WideColumn.Proofs.Builder.Entries
import WideColumn.Proofs.Builder.Failures
import WideColumn.Proofs.Data.Bounds
import WideColumn.Proofs.Schema.Orderable

namespace WideColumn.Builder

open WideColumn.Key

variable {p : Plan} {family after last : String} {ss : List State} {ms : List Method}
  {fs tested : List PlannedField} {f : PlannedField} {method : Method} {next : Option String}
  {first place : Nat}

/-! ## 1. Methods -/

/-- The place in the key of the column that a method bounds on both sides. -/
def Method.betweenPlace? (method : Method) : Option Nat :=
  match method.act with
  | .change _ (.relateRange position ..) _ => some position
  | _ => none

/-- **A method is in place** among columns that are counted from some place on: if it bounds a
column on both sides, it is one of the four that do so for the column at its place. -/
def Method.InPlace (fs : List PlannedField) (first : Nat) (method : Method) : Prop :=
  ∀ place, method.betweenPlace? = some place →
    ∃ i f next, fs[i]? = some f ∧ place = first + i ∧ method ∈ boundsOfShape f place next .between

theorem Method.InPlace.of_none (h : method.betweenPlace? = none) : method.InPlace fs first := by
  intro place hplace
  rw [h] at hplace
  cases hplace

/-- Places after the first one are counted from the next. -/
theorem Method.InPlace.cons (h : method.InPlace fs (first + 1)) :
    method.InPlace (f :: fs) first := by
  intro place hplace
  obtain ⟨i, g, next, hg, rfl, hmethod⟩ := h place hplace
  exact ⟨i + 1, g, next, by rwa [List.getElem?_cons_succ], by omega, hmethod⟩

/-- A method that relates nothing bounds nothing. -/
theorem betweenPlace?_of_clause
    (h : ∀ name a next, method.act = .change name a next → a.clause? ≠ some .relations) :
    method.betweenPlace? = none := by
  rw [Method.betweenPlace?]
  split
  · rename_i hact
    exact absurd rfl (h _ _ _ hact)
  · rfl

theorem betweenPlace?_of_rests (h : ∀ method ∈ ms, method.Rests) :
    ∀ method ∈ ms, method.betweenPlace? = none := by
  refine fun method hmethod => betweenPlace?_of_clause fun name a next hact => ?_
  obtain ⟨-, hneutral, -⟩ := (h method hmethod).2 name a next hact
  simp [hneutral]

theorem betweenPlace?_of_assigns (h : ∀ method ∈ ms, method.Assigns next) :
    ∀ method ∈ ms, method.betweenPlace? = none := by
  refine fun method hmethod => betweenPlace?_of_clause ?_
  obtain ⟨_, _, rfl, hclause⟩ := h method hmethod
  rintro _ _ _ ⟨⟩
  rw [hclause]
  simp

/-- A method that is passed on bounds what it bounds in its own state. -/
theorem betweenPlace?_passedTo {state : String} (h : ∀ method ∈ ms, method.betweenPlace? = none) :
    ∀ method ∈ passedTo state ms, method.betweenPlace? = none := by
  intro method hmethod
  obtain ⟨own, hown, rfl⟩ := List.mem_map.mp hmethod
  exact h own hown

theorem betweenPlace?_conditionalMethods :
    ∀ method ∈ conditionalMethods p family tested, method.betweenPlace? = none := by
  intro method hmethod
  rw [conditionalMethods] at hmethod
  rcases List.mem_cons.mp (List.mem_ite_nil_right.mp hmethod).2 with rfl | hmethod
  · rfl
  · obtain ⟨f, -, rfl⟩ := List.mem_map.mp hmethod
    rfl

/-- Of the methods that bound a column, four do so on both sides. -/
theorem mem_between_of_mem_boundMethods {position : Nat} {next : String}
    (h : method ∈ boundMethods f position next) (hplace : method.betweenPlace? = some place) :
    place = position ∧ method ∈ boundsOfShape f position next .between := by
  obtain ⟨⟨lower, upper⟩, -, hmethod⟩ := List.mem_flatMap.mp h
  cases lower <;> cases upper
  case false.true | true.false =>
    simp only [boundsOfShape, List.mem_cons, List.not_mem_nil, or_false] at hmethod
    rcases hmethod with rfl | rfl <;> cases hplace
  all_goals
    refine ⟨?_, hmethod⟩
    simp only [boundsOfShape, List.mem_cons, List.not_mem_nil, or_false] at hmethod
    rcases hmethod with rfl | rfl | rfl | rfl <;> exact (Option.some.inj hplace).symm

/-! ## 2. States -/

theorem betweenPlace?_partitionStates {first : Bool} :
    ∀ s ∈ partitionStates p family after first fs, ∀ method ∈ s.methods,
      method.betweenPlace? = none := by
  induction fs generalizing first with
  | nil => simp [partitionStates]
  | cons f fs ih =>
    rw [partitionStates, List.forall_mem_cons]
    refine ⟨fun method hmethod => ?_, ih⟩
    simp only [List.mem_append, List.mem_ite_nil_right, List.mem_singleton] at hmethod
    rcases hmethod with ((⟨-, rfl⟩ | rfl) | ⟨-, rfl⟩) | ⟨-, rfl⟩ <;> rfl

theorem betweenPlace?_keyStates :
    ∀ s ∈ keyStates p family after fs, ∀ method ∈ s.methods, method.betweenPlace? = none := by
  induction fs with
  | nil => simp [keyStates]
  | cons f fs ih =>
    rw [keyStates, List.forall_mem_cons]
    exact ⟨List.forall_mem_singleton.mpr rfl, ih⟩

/-- The last state of a writing chain, and those that conditions lead to. -/
theorem betweenPlace?_lastStates {ttl : Bool} :
    ∀ s ∈ ⟨last, conditionalMethods p family tested ++ writeMethods ttl⟩
      :: conditionalStates p family tested (writeMethods ttl), ∀ method ∈ s.methods,
      method.betweenPlace? = none := by
  have hwrite : ∀ method ∈ writeMethods ttl, method.betweenPlace? = none :=
    betweenPlace?_of_rests rests_writeMethods
  refine List.forall_mem_cons.mpr
    ⟨List.forall_mem_append.mpr ⟨betweenPlace?_conditionalMethods, hwrite⟩, fun s hs => ?_⟩
  rw [conditionalStates] at hs
  rcases List.mem_cons.mp (List.mem_ite_nil_right.mp hs).2 with rfl | hs
  · exact hwrite
  · split at hs
    · cases hs
    · obtain rfl := List.mem_singleton.mp hs
      refine List.forall_mem_append.mpr ⟨fun method hmethod => ?_, hwrite⟩
      obtain ⟨f, -, rfl⟩ := List.mem_map.mp hmethod
      rfl

theorem betweenPlace?_insertStates :
    ∀ s ∈ insertStates p, ∀ method ∈ s.methods, method.betweenPlace? = none := by
  intro s hs
  rw [insertStates] at hs
  obtain rfl := List.mem_singleton.mp (List.mem_ite_nil_right.mp hs).2
  refine List.forall_mem_append.mpr ⟨fun method hmethod => ?_, betweenPlace?_of_rests
    rests_writeMethods⟩
  obtain rfl := List.mem_singleton.mp (List.mem_ite_nil_right.mp hmethod).2
  rfl

theorem betweenPlace?_updateFamilyIfAny {settable keys : List PlannedField}
    (h : updateFamilyIfAny p family settable keys tested = .ok ss) :
    ∀ s ∈ ss, ∀ method ∈ s.methods, method.betweenPlace? = none := by
  rw [updateFamilyIfAny] at h
  split at h
  · cases h
    simp
  cases keys with
  | nil =>
    cases h
    simp
  | cons first others =>
    simp only [updateFamily, Except.bind_eq_ok_iff] at h
    obtain ⟨firstMethods, hfirst, moreMethods, hmore, h⟩ := h
    cases h
    refine List.forall_mem_append.mpr ⟨List.forall_mem_append.mpr ⟨?_, betweenPlace?_keyStates⟩,
      betweenPlace?_lastStates⟩
    refine List.forall_mem_cons.mpr ⟨betweenPlace?_of_assigns (assigns_of_flatMapM hfirst), ?_⟩
    exact List.forall_mem_singleton.mpr (List.forall_mem_append.mpr
      ⟨betweenPlace?_of_assigns (assigns_of_flatMapM hmore), List.forall_mem_singleton.mpr rfl⟩)

theorem betweenPlace?_updateStates (h : updateStates p = .ok ss) :
    ∀ s ∈ ss, ∀ method ∈ s.methods, method.betweenPlace? = none := by
  simp only [updateStates, Except.bind_eq_ok_iff] at h
  obtain ⟨whole, hwhole, static, hstatic, h⟩ := h
  cases h
  exact List.forall_mem_append.mpr
    ⟨betweenPlace?_updateFamilyIfAny hwhole, betweenPlace?_updateFamilyIfAny hstatic⟩

/-- What an index serves are relations with one value, or with an entry. -/
theorem betweenPlace?_nativeRelations {kind : IndexKind}
    (h : nativeRelations p f kind next = .ok ms) : ∀ method ∈ ms, method.betweenPlace? = none := by
  rw [nativeRelations.eq_def] at h
  generalize f.model.shape = shape at h
  cases kind with
  | normal | full =>
    cases h
    exact List.forall_mem_singleton.mpr rfl
  | collection | mapValue =>
    obtain ⟨part, -, h⟩ := Except.bind_eq_ok_iff.mp h
    cases h
    exact List.forall_mem_singleton.mpr rfl
  | mapKey =>
    cases shape with
    | map =>
      obtain ⟨key, -, h⟩ := Except.bind_eq_ok_iff.mp h
      cases h
      exact List.forall_mem_singleton.mpr rfl
    | _ =>
      cases h
      exact List.forall_mem_singleton.mpr rfl
  | mapEntry =>
    cases shape with
    | map =>
      obtain ⟨key, -, h⟩ := Except.bind_eq_ok_iff.mp h
      obtain ⟨value, -, h⟩ := Except.bind_eq_ok_iff.mp h
      cases h
      exact List.forall_mem_singleton.mpr rfl
    | _ =>
      cases h
      exact List.forall_mem_nil _

theorem betweenPlace?_patterns : ∀ method ∈ patterns f next, method.betweenPlace? = none := by
  simp [patterns, relatePattern, change, Method.betweenPlace?]

theorem betweenPlace?_comparisons :
    ∀ method ∈ comparisons f next, method.betweenPlace? = none := by
  simp [comparisons, relateWhole, change, Method.betweenPlace?]

theorem betweenPlace?_sasiRelations {mode : SasiMode} :
    ∀ method ∈ sasiRelations f mode next, method.betweenPlace? = none := by
  intro method hmethod
  cases mode with
  | prefixes =>
    rw [sasiRelations] at hmethod
    split at hmethod
    · obtain rfl := List.mem_singleton.mp hmethod
      rfl
    · exact betweenPlace?_comparisons method (List.mem_ite_nil_right.mp hmethod).2
  | contains =>
    rcases List.mem_append.mp (List.mem_ite_nil_right.mp hmethod).2 with hmethod | hmethod
    · exact betweenPlace?_patterns method hmethod
    · obtain rfl := List.mem_singleton.mp hmethod
      rfl
  | sparse => exact betweenPlace?_comparisons method (List.mem_ite_nil_right.mp hmethod).2

theorem betweenPlace?_allIndexRelations (h : allIndexRelations p next = .ok ms) :
    ∀ method ∈ ms, method.betweenPlace? = none := by
  intro method hmethod
  obtain ⟨f, -, i, -, own, hown, hmethod⟩ := exists_of_mem_allIndexRelations h hmethod
  simp only [indexRelations] at hown
  split at hown
  · exact betweenPlace?_nativeRelations hown method hmethod
  · cases hown
    rcases List.mem_cons.mp hmethod with rfl | hmethod
    · rfl
    · exact betweenPlace?_sasiRelations method hmethod
  · cases hown
    rcases List.mem_cons.mp hmethod with rfl | hmethod
    · rfl
    rcases List.mem_append.mp hmethod with hmethod | hmethod
    · exact betweenPlace?_patterns method (List.mem_ite_nil_right.mp hmethod).2
    · obtain rfl := List.mem_singleton.mp (List.mem_ite_nil_right.mp hmethod).2
      rfl

theorem betweenPlace?_indexStates {json : Bool} (h : indexStates p json = .ok ss) :
    ∀ s ∈ ss, ∀ method ∈ s.methods, method.betweenPlace? = none := by
  simp only [indexStates, Except.bind_eq_ok_iff] at h
  obtain ⟨first, hfirst, more, hmore, h⟩ := h
  cases h
  refine List.forall_mem_cons.mpr ⟨betweenPlace?_allIndexRelations hfirst, ?_⟩
  exact List.forall_mem_singleton.mpr (List.forall_mem_cons.mpr
    ⟨rfl, List.forall_mem_append.mpr ⟨betweenPlace?_allIndexRelations hmore,
      betweenPlace?_of_rests rests_readMethods⟩⟩)

theorem betweenPlace?_of_indexChains (h : IndexChains p ss) :
    ∀ s ∈ ss, ∀ method ∈ s.methods, method.betweenPlace? = none := by
  cases h with
  | none => exact List.forall_mem_nil _
  | records h => exact betweenPlace?_indexStates h
  | both h hj =>
    exact List.forall_mem_append.mpr ⟨betweenPlace?_indexStates h, betweenPlace?_indexStates hj⟩

theorem inPlace_clusteringStates (hms : ∀ method ∈ ms, method.betweenPlace? = none) :
    ∀ s ∈ clusteringStates p family last ms first fs, ∀ method ∈ s.methods,
      method.InPlace fs first := by
  induction fs generalizing first with
  | nil => simp [clusteringStates]
  | cons f fs ih =>
    rw [clusteringStates, List.forall_mem_cons]
    refine ⟨fun method hmethod => ?_, fun s hs method hmethod => (ih s hs method hmethod).cons⟩
    simp only [List.cons_append, List.mem_cons, List.mem_append] at hmethod
    rcases hmethod with rfl | hmethod | hmethod
    · exact .of_none rfl
    · intro place hplace
      obtain ⟨rfl, hmem⟩ := mem_between_of_mem_boundMethods hmethod hplace
      exact ⟨0, f, last, rfl, rfl, hmem⟩
    · exact .of_none (betweenPlace?_passedTo hms method hmethod)

/-- The states of a delete have no methods that those of a select would not have. -/
theorem inPlace_narrowingStates (hms : ∀ method ∈ ms, method.betweenPlace? = none) :
    ∀ s ∈ narrowingStates p family last ms first fs, ∀ method ∈ s.methods,
      method.InPlace fs first := by
  induction fs generalizing first with
  | nil => simp [narrowingStates]
  | cons f fs ih =>
    rw [narrowingStates, List.forall_mem_cons]
    refine ⟨fun method hmethod => ?_, fun s hs method hmethod => (ih s hs method hmethod).cons⟩
    have hselect : ∀ s ∈ clusteringStates p family last ms first (f :: fs),
        ∀ method ∈ s.methods, method.InPlace (f :: fs) first := inPlace_clusteringStates hms
    refine hselect _ List.mem_cons_self method ?_
    simp only [List.cons_append, List.mem_cons, List.mem_append, List.mem_ite_nil_right]
      at hmethod ⊢
    tauto

theorem inPlace_deleteFamily :
    ∀ s ∈ deleteFamily p family fs tested, ∀ method ∈ s.methods, method.InPlace fs 1 := by
  refine List.forall_mem_append.mpr ⟨List.forall_mem_append.mpr ⟨?_, ?_⟩, ?_⟩
  · exact fun s hs method hmethod => .of_none (betweenPlace?_keyStates s hs method hmethod)
  · exact inPlace_narrowingStates (List.forall_mem_append.mpr
      ⟨betweenPlace?_conditionalMethods, betweenPlace?_of_rests rests_writeMethods⟩)
  · exact fun s hs method hmethod => .of_none (betweenPlace?_lastStates s hs method hmethod)

theorem inPlace_deleteStates :
    ∀ s ∈ deleteStates p, ∀ method ∈ s.methods, method.InPlace p.clustering 1 := by
  refine List.forall_mem_append.mpr ⟨inPlace_deleteFamily, fun s hs method hmethod => ?_⟩
  intro place hplace
  obtain ⟨i, f, next, hf, -⟩ := inPlace_deleteFamily s (List.mem_ite_nil_left.mp hs).2 method
    hmethod place hplace
  cases hf

theorem inPlace_selectStates {json : Bool} :
    ∀ s ∈ selectStates p json, ∀ method ∈ s.methods, method.InPlace p.clustering 1 := by
  have hread : ∀ method ∈ readMethods p json (!p.clustering.isEmpty), method.betweenPlace? = none :=
    betweenPlace?_of_rests rests_readMethods
  refine List.forall_mem_append.mpr ⟨List.forall_mem_append.mpr ⟨?_, ?_⟩, ?_⟩
  · exact fun s hs method hmethod => .of_none (betweenPlace?_partitionStates s hs method hmethod)
  · exact inPlace_clusteringStates hread
  · exact List.forall_mem_singleton.mpr fun method hmethod => .of_none (hread method hmethod)

theorem inPlace_readingStates :
    ∀ s ∈ readingStates p, ∀ method ∈ s.methods, method.InPlace p.clustering 1 :=
  List.forall_mem_append.mpr ⟨inPlace_selectStates, fun s hs =>
    inPlace_selectStates s (List.mem_ite_nil_right.mp hs).2⟩

/-- **Every method of an entity is in place**: only clustering columns are bounded on both sides,
each by the same four methods in whichever state. -/
theorem inPlace_of_states (h : states p = .ok ss) :
    ∀ s ∈ ss, ∀ method ∈ s.methods, method.InPlace p.clustering 1 := by
  intro s hs method hmethod
  rcases states_cases h with ⟨-, rfl⟩ | ⟨-, updates, indexes, hupdates, hindexes, rfl⟩
  · exact inPlace_readingStates s hs method hmethod
  · simp only [List.mem_append] at hs
    rcases hs with (((hs | hs) | hs) | hs) | hs
    · exact inPlace_readingStates s hs method hmethod
    · exact .of_none (betweenPlace?_insertStates s hs method hmethod)
    · exact .of_none (betweenPlace?_updateStates hupdates s hs method hmethod)
    · exact inPlace_deleteStates s hs method hmethod
    · exact .of_none (betweenPlace?_of_indexChains hindexes s hs method hmethod)

/-- The state in which a clustering column is next has all methods that bound the column. -/
theorem exists_clusteringState {i : Nat} (hf : fs[i]? = some f) :
    ∃ s ∈ clusteringStates p family last ms first fs,
      ∀ method ∈ boundMethods f (first + i) last, method ∈ s.methods := by
  induction fs generalizing i first with
  | nil => cases hf
  | cons g fs ih =>
    rw [clusteringStates]
    cases i with
    | zero =>
      obtain rfl : g = f := Option.some.inj hf
      refine ⟨_, List.mem_cons_self, fun method hmethod => ?_⟩
      exact List.mem_cons_of_mem _ (List.mem_append_left _ hmethod)
    | succ i =>
      rw [List.getElem?_cons_succ] at hf
      obtain ⟨s, hs, hmethods⟩ := ih hf
      refine ⟨s, List.mem_cons_of_mem _ hs, fun method hmethod => hmethods method ?_⟩
      rwa [Nat.add_right_comm, Nat.add_assoc]

/-- Some state of an entity has the four methods of a clustering column. -/
theorem exists_between_of_states {i : Nat} (h : states p = .ok ss)
    (hf : p.clustering[i]? = some f) :
    ∃ s ∈ ss, ∃ next, ∀ method ∈ boundsOfShape f (i + 1) next .between, method ∈ s.methods := by
  have hselect : ∀ s ∈ selectStates p false, s ∈ ss := selectStates_mem h nofun
  simp only [selectStates, List.forall_mem_append] at hselect
  obtain ⟨s, hs, hmethods⟩ : ∃ s ∈ clusteringStates p (selectFamily false)
      (p.lastState (selectFamily false)) (readMethods p false (!p.clustering.isEmpty)) 1
      p.clustering, ∀ method ∈ boundMethods f (1 + i) (p.lastState (selectFamily false)),
        method ∈ s.methods := exists_clusteringState hf
  refine ⟨s, hselect.1.2 s hs, p.lastState (selectFamily false), fun method hmethod => ?_⟩
  rw [Nat.add_comm] at hmethod
  exact hmethods method (List.mem_flatMap.mpr
    ⟨.between, mem_legalShapes_of_ne_zero (by omega) _ (by simp [SliceShape.all]), hmethod⟩)

/-! ## 3. Calls -/

/-- What is bound where data are given for a parameter that the built-in codec encodes. -/
def Operand.given (o : Operand) (t : DataType) (d : Data) : WideColumn.Operand :=
  ⟨d.spoken, (Codec.native t).encodeColumn o.column d⟩

/-- The call that a method makes if it is given data for both bounds. -/
def Method.betweenCall? (method : Method) (t : DataType) (lower upper : Data) :
    Option Query.Call :=
  match method.act with
  | .change _ (.relateRange position lowerText upperText low high) _ =>
    some (.relateRange position lowerText (low.given t lower) upperText (high.given t upper))
  | _ => none

/-- **A method accepts bounds** if no query fails by them that has not failed before, and the
query makes a statement. -/
def Method.Accepts (method : Method) (t : DataType) (lower upper : Data) : Prop :=
  ∃ call, method.betweenCall? t lower upper = some call ∧ ∀ q : Query, q.failure = none →
    (q.call call).failure = none ∧ (q.call call).statement = .ok (q.call call).render

/-- **A method refuses bounds** if every query fails by them that has not failed before, and
makes no statement. -/
def Method.Refuses (method : Method) (place : Nat) (t : DataType) (lower upper : Data) : Prop :=
  ∃ call, method.betweenCall? t lower upper = some call ∧ ∀ q : Query, q.failure = none →
    (q.call call).failure = some (.range (.nonMonotonic place))
      ∧ (q.call call).statement = .error (.range (.nonMonotonic place))

variable {t : DataType} {lower upper : Data}

/-- What the method makes of a query is settled by how the bounds compare as they are stored. -/
theorem exists_betweenCall (h : method.betweenPlace? = some place) (t : DataType)
    (lower upper : Data) :
    ∃ call, method.betweenCall? t lower upper = some call ∧
      call.failure? = if lower.encode.lt upper.encode then none
        else some (.range (.nonMonotonic place)) := by
  obtain ⟨act, via⟩ := method
  simp only [Method.betweenPlace?] at h
  split at h
  · cases h
    refine ⟨_, rfl, ?_⟩
    cases hlt : lower.encode.lt upper.encode <;>
      simp [Query.Call.failure?, Query.outOfOrder, Operand.given, Codec.encodeColumn, Codec.native,
        Except.mapError, WideColumn.Operand.failure?, hlt]
  · cases h

theorem accepts_of_bounds (h : method.betweenPlace? = some place)
    (hbounds : Data.Bounds t lower upper) : method.Accepts t lower upper := by
  obtain ⟨call, hcall, hfailure⟩ := exists_betweenCall h t lower upper
  have hlt : lower.encode.lt upper.encode = true := by simp [Value.lt, hbounds.stored]
  rw [hlt, if_pos rfl] at hfailure
  refine ⟨call, hcall, fun q hq => ?_⟩
  have hnone : (q.call call).failure = none := by simp [Query.failure_call, hq, hfailure]
  exact ⟨hnone, by rw [Query.statement, hnone]⟩

theorem refuses_of_compare? (h : method.betweenPlace? = some place)
    (hcompare : lower.encode.compare? upper.encode = none) :
    method.Refuses place t lower upper := by
  obtain ⟨call, hcall, hfailure⟩ := exists_betweenCall h t lower upper
  have hlt : lower.encode.lt upper.encode = false := by simp [Value.lt, hcompare]
  rw [hlt, if_neg Bool.false_ne_true] at hfailure
  refine ⟨call, hcall, fun q hq => ?_⟩
  have hsome : (q.call call).failure = some (.range (.nonMonotonic place)) := by
    simp [Query.failure_call, hq, hfailure]
  exact ⟨hsome, by rw [Query.statement, hsome]⟩

/-! ## 4. Columns -/

section
variable {d : Declaration} {registry : Schema.Registry} {defaults : Schema.Defaults}
  {schema : Schema} {app : Application} {e : Schema.Entity} {profile : Profile} {emitDdl : Bool}
  {i : Nat}

/-- A field that the built-in codec carries is encoded as data of the type of its shape. -/
theorem typedCodec?_of_native (hplan : plan schema profile emitDdl e = .ok p) (hf : f ∈ p.fields)
    (hnative : f.isNative = true) (ht : schema.dataType? app.module f.model.shape = some t) :
    schema.typedCodec? app e f.model = some ⟨Data, .native t⟩ := by
  obtain ⟨-, hmade⟩ := planField_of_plan hplan f hf
  obtain ⟨st, hst, -, -, hisNative⟩ := strategy_of_planField hmade
  obtain ⟨text, rfl⟩ := hisNative hnative
  simp only [Schema.typedCodec?, hst, ht, Option.map_some]

/-- Whatever data are given for a shape that is not boundable, its methods refuse them. -/
theorem refuses_of_not_isBoundable (hload : Schema.load d registry defaults = .ok schema)
    (he : e ∈ schema.entities) (hplan : plan schema profile emitDdl e = .ok p) (hf : f ∈ p.fields)
    (hnative : f.isNative = true) (hshape : f.model.shape.isBoundable = false) {module : String}
    (ht : schema.dataType? module f.model.shape = some t) (hlower : lower.HasType t)
    (hupper : upper.HasType t) (hplace : method.betweenPlace? = some place) :
    method.Refuses place t lower upper := by
  obtain ⟨text, htext⟩ := (resolves_of_plan hload he hplan).fields f hf hnative
  rw [schema_of_plan hplan] at htext
  refine refuses_of_compare? hplace ?_
  exact Schema.compare?_of_not_isBoundable
    (fun _ _ h => Schema.isRecord_of_userDataTypeWithin? h) _ hshape htext ht hlower hupper

/-- **All two-sided methods of a column can be used, or none.**  A clustering column that the
built-in codec carries and whose shape is orderable is bounded on both sides by four methods, and
by no others.  If its shape is no map, no user type and no tuple that begins with one, there are
data in order that all of these methods accept, from any query that has not failed.  For any other
shape every one of them refuses whatever data it is given. -/
theorem two_sided_methods (hload : Schema.load d registry defaults = .ok schema)
    (he : e ∈ schema.entities) (hplan : plan schema profile emitDdl e = .ok p)
    (hstates : states p = .ok ss) (hf : p.clustering[i]? = some f) (hnative : f.isNative = true)
    (horderable : Schema.isOrderable schema.userTypes f.model.shape = true)
    (app : Application) :
    (∃ s ∈ ss, ∃ next, ∀ method ∈ boundsOfShape f (i + 1) next .between, method ∈ s.methods)
      ∧ (∀ s ∈ ss, ∀ method ∈ s.methods, method.betweenPlace? = some (i + 1) →
        ∃ next, method ∈ boundsOfShape f (i + 1) next .between)
      ∧ ∃ t, schema.typedCodec? app e f.model = some ⟨Data, .native t⟩
        ∧ (f.model.shape.isBoundable = true → ∃ lower upper, lower.HasType t ∧ upper.HasType t
          ∧ lower.order upper = .lt ∧ ∀ s ∈ ss, ∀ method ∈ s.methods,
            method.betweenPlace? = some (i + 1) → method.Accepts t lower upper)
        ∧ (f.model.shape.isBoundable = false → ∀ lower upper, lower.HasType t → upper.HasType t →
          ∀ s ∈ ss, ∀ method ∈ s.methods, method.betweenPlace? = some (i + 1) →
            method.Refuses (i + 1) t lower upper) := by
  have hmem : f ∈ p.fields := List.mem_of_mem_filter (List.mem_of_getElem? hf)
  obtain ⟨text, htext⟩ := (resolves_of_plan hload he hplan).fields f hmem hnative
  rw [schema_of_plan hplan] at htext
  obtain ⟨t, ht⟩ := Schema.dataType?_of_orderable hload app.module htext horderable
  refine ⟨exists_between_of_states hstates hf, ?_, t,
    typedCodec?_of_native hplan hmem hnative ht, ?_, ?_⟩
  · intro s hs method hmethod hplace
    obtain ⟨j, g, next, hg, hj, hbetween⟩ := inPlace_of_states hstates s hs method hmethod _ hplace
    obtain rfl : j = i := by omega
    obtain rfl : g = f := Option.some.inj (hg.symm.trans hf)
    exact ⟨next, hbetween⟩
  · intro hshape
    obtain ⟨lower, upper, hbounds⟩ := Schema.exists_bounds_of_isBoundable _ hshape ht
    exact ⟨lower, upper, hbounds.lower, hbounds.upper, hbounds.ordered,
      fun s hs method hmethod hplace => accepts_of_bounds hplace hbounds⟩
  · intro hshape lower upper hlower hupper s hs method hmethod hplace
    exact refuses_of_not_isBoundable hload he hplan hmem hnative hshape ht hlower hupper hplace

end

/-- There are days that all methods with two bounds on the day of a reading accept. -/
theorem two_sided_methods_day :
    ∃ schema e p ss t, Schema.load valuedReadings {} {} = .ok schema ∧ e ∈ schema.entities
      ∧ plan schema .cassandra37 false e = .ok p ∧ states p = .ok ss
      ∧ (∃ s ∈ ss, ∃ method ∈ s.methods, method.betweenPlace? = some 1)
      ∧ ∃ lower upper : Data, lower.HasType t ∧ upper.HasType t ∧ lower.order upper = .lt
        ∧ ∀ s ∈ ss, ∀ method ∈ s.methods, method.betweenPlace? = some 1 →
          method.Accepts t lower upper := by
  have hready : ((Schema.load valuedReadings {} {}).toOption.bind fun schema =>
      schema.entities.head?.bind fun e => (plan schema .cassandra37 false e).toOption.bind fun p =>
        (states p).toOption.bind fun _ => p.clustering[0]?.map fun f => (f.isNative,
          Schema.isOrderable schema.userTypes f.model.shape, f.model.shape.isBoundable)) =
      some (true, true, true) := by decide +kernel
  simp only [Option.bind_eq_some_iff, Option.map_eq_some_iff, Except.toOption_eq_some_iff,
    Prod.mk.injEq] at hready
  obtain ⟨schema, hload, e, he, p, hplan, ss, hstates, f, hf, hnative, horderable, hshape⟩ := hready
  have hmem := List.mem_of_mem_head? he
  obtain ⟨⟨s, hs, next, hmethods⟩, -, t, -, haccepts, -⟩ := two_sided_methods hload hmem
    hplan hstates hf hnative horderable ⟨"app", [], [], []⟩
  exact ⟨schema, e, p, ss, t, hload, hmem, hplan, hstates,
    ⟨s, hs, _, hmethods _ List.mem_cons_self, rfl⟩, haccepts hshape⟩

/-- Signals of a station, by flag. -/
def signals : Declaration where
  userTypes := [{ name := "Flag", fields := [⟨"raised", "boolean", none⟩] }]
  entities := [
    { name := "Signal"
      fields := [
        (Declaration.Field.typed "station" "bigint").inPartition 0,
        (Declaration.Field.typed "flag" "frozen<Flag>").inClustering 0 true] }]

/-- **An orderable column may have no bounds that are accepted.**  A user type with a boolean has
two values, in order, but none of the methods with two bounds on such a column accepts any two. -/
theorem flags_refused :
    ∃ schema e p ss f t, Schema.load signals {} {} = .ok schema ∧ e ∈ schema.entities
      ∧ plan schema .cassandra37 false e = .ok p ∧ states p = .ok ss ∧ p.clustering[0]? = some f
      ∧ f.isNative = true ∧ Schema.isOrderable schema.userTypes f.model.shape = true
      ∧ schema.typedCodec? ⟨"app", [], [], []⟩ e f.model = some ⟨Data, .native t⟩
      ∧ (∃ lower upper : Data, lower.HasType t ∧ upper.HasType t ∧ lower.order upper = .lt)
      ∧ (∃ s ∈ ss, ∃ method ∈ s.methods, method.betweenPlace? = some 1)
      ∧ ∀ lower upper : Data, lower.HasType t → upper.HasType t → ∀ s ∈ ss, ∀ method ∈ s.methods,
        method.betweenPlace? = some 1 → method.Refuses 1 t lower upper := by
  have hready : ((Schema.load signals {} {}).toOption.bind fun schema =>
      schema.entities.head?.bind fun e => (plan schema .cassandra37 false e).toOption.bind fun p =>
        (states p).toOption.bind fun _ => p.clustering[0]?.bind fun f =>
          f.model.shape.udtName?.bind fun name =>
            (Schema.userType? schema.userTypes name).map fun u => (f.isNative,
              Schema.isOrderable schema.userTypes f.model.shape, f.model.shape.isBoundable,
              u.fields.map (·.shape.scalar?))) =
      some (true, true, false, [some .boolean]) := by decide +kernel
  simp only [Option.bind_eq_some_iff, Option.map_eq_some_iff, Except.toOption_eq_some_iff,
    Prod.mk.injEq] at hready
  obtain ⟨schema, hload, e, he, p, hplan, ss, hstates, f, hf, name, hname, u, hu, hnative,
    horderable, hshape, hfields⟩ := hready
  have hmem := List.mem_of_mem_head? he
  have hfield : f ∈ p.fields := List.mem_of_mem_filter (List.mem_of_getElem? hf)
  obtain ⟨s, hs, next, hmethods⟩ := exists_between_of_states hstates hf
  obtain ⟨g, hg, hboolean⟩ := List.map_eq_singleton_iff.mp hfields
  have ht : schema.dataType? "app" f.model.shape =
      some (.record ("app" ++ "::" ++ u.name) [(g.column, .boolean)]) := by
    rw [Schema.dataType?, Schema.shapeDataType?_of_udtName? hname, Schema.userDataTypeWithin?, hu]
    simp [hg, Schema.shapeDataType?_of_scalar? hboolean, Schema.scalarDataType?]
  refine ⟨schema, e, p, ss, f, _, hload, hmem, hplan, hstates, hf, hnative, horderable,
    typedCodec?_of_native hplan hfield hnative ht, ?_,
    ⟨s, hs, _, hmethods _ List.mem_cons_self, rfl⟩,
    fun lower upper hlower hupper s hs method hmethod hplace =>
      refuses_of_not_isBoundable hload hmem hplan hfield hnative hshape ht hlower hupper hplace⟩
  refine ⟨.record [(g.column, .boolean false)], .record [(g.column, .boolean true)],
    .record rfl ?_, .record rfl ?_, ?_⟩
  · exact List.forall_mem_singleton.mpr (.boolean false)
  · exact List.forall_mem_singleton.mpr (.boolean true)
  · simp only [Data.order, Data.orderFields]
    decide

end WideColumn.Builder
