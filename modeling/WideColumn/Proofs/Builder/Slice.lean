/-
# A slice and a select chain make one statement

The rows of one partition can be asked for in two ways.  A SLICE resolves two rows of components
into a range when it runs, and makes relations of what it found.  A select CHAIN has its relations
and its comparisons from the generated source, where the legal bounds were settled before.

Both say the same of every selection (`slice_agrees_with_chain`).  Each is brought to the relations
that the selection amounts to (`Selection.relations`): the chain by what its calls push, the slice
by what sides that share a beginning resolve to.  How a bound value is spoken differs between the
two, so statements are compared by what they TELL the store: text, and values in order.
-/
import WideColumn.Proofs.Builder.Entries
import WideColumn.Proofs.Builder.ItemNames
import WideColumn.Proofs.Builder.Plan
import WideColumn.Proofs.Builder.Selection
import WideColumn.Proofs.Builder.Written
import WideColumn.Proofs.Key.Interval
import WideColumn.Slice

namespace WideColumn

open WideColumn.Key

/-! ## 1. What is told to the store -/

/-- What a fragment tells the store: a text and its values. -/
def Fragment.told (f : Fragment) : String × List Value := (f.text, f.bounds.map (·.value))

/-- What a relation tells the store. -/
def Key.Relation.told (r : Relation) : String × List Value := (r.text, [r.value])

@[simp] theorem Mapping.select_relations (m : Mapping) (json : Bool) :
    (m.select json).relations = [] := rfl

@[simp] theorem Mapping.select_failure (m : Mapping) (json : Bool) :
    (m.select json).failure = none := rfl

@[simp] theorem Mapping.select_options (m : Mapping) (json : Bool) :
    (m.select json).options = {} := rfl

/-- Two queries that differ in how their relations are spoken and in options tell the store the
same. -/
theorem Query.render_congr {q q' : Query} {rs : List Fragment} {options : StatementOptions}
    (hq : q' = { q with relations := rs, options := options })
    (h : rs.map Fragment.told = q.relations.map Fragment.told) :
    q'.render.cql = q.render.cql ∧ q'.render.values = q.render.values := by
  subst hq
  have htext : rs.map (·.text) = q.relations.map (·.text) := by
    have htexts := congrArg (List.map Prod.fst) h
    rwa [List.map_map, List.map_map] at htexts
  have hvalues : (rs.flatMap (·.bounds)).map (·.value) =
      (q.relations.flatMap (·.bounds)).map (·.value) := by
    have hlists := congrArg (List.flatMap Prod.snd) h
    rw [List.flatMap_map, List.flatMap_map] at hlists
    rw [List.map_flatMap, List.map_flatMap]
    exact hlists
  constructor
  · cases hkind : q.kind <;>
      simp only [render, text, hkind, selectText, whereClause, htext, usingClause, ifClause,
        ifNotExistsClause, filteringClause]
  · simp only [render, Statement.values, boundFragments, List.flatMap_append, List.map_append,
      hvalues]

namespace Builder

namespace Selection

/-- All values of a selection. -/
def bounds (s : Selection Bound) : List Bound :=
  s.keys ++ s.fixed ++ s.lower.toList ++ s.upper.toList

/-- The values that its statement binds, in order. -/
def values (s : Selection Bound) : List Value := s.bounds.map (·.value)

/-- What every part of a selection has to be for it to mean rows. -/
structure Sound (s : Selection Bound) : Prop where
  /-- No value is null. -/
  present : ∀ b ∈ s.bounds, b.value.isNull = false
  /-- Every value equals itself. -/
  equal : ∀ b ∈ s.bounds, b.value.equals b.value = true
  /-- Some side is bounded. -/
  bounded : s.lower ≠ none ∨ s.upper ≠ none

/-- Whether both sides are bounded and the lower bound is not strictly the lower. -/
def isOutOfOrder (s : Selection Bound) : Bool :=
  match s.lower, s.upper with
  | some a, some b => !a.value.lt b.value
  | _, _ => false

/-- The failure of bounds that are out of order. -/
def failure? (s : Selection Bound) : Option Error :=
  if s.isOutOfOrder then some (.range (.nonMonotonic s.position)) else none

/-- The bounds as relations of a column. -/
def boundsOn (s : Selection Bound) (column : String) : List Relation :=
  (s.lower.map fun b => ⟨column, s.bounding.startOperator, b.value⟩).toList
    ++ (s.upper.map fun b => ⟨column, s.bounding.endOperator, b.value⟩).toList

/-- The relations that a selection amounts to. -/
def relations (s : Selection Bound) (p : Plan) : List Relation :=
  equalities (p.partition.map (·.column)) (s.keys.map (·.value))
    ++ equalities (p.clustering.map (·.column)) (s.fixed.map (·.value))
    ++ (p.clustering[s.fixed.length]?).toList.flatMap (s.boundsOn ·.column)

/-- The slice that reads the rows of a selection: each side has the equated values and its bound,
if there is one. -/
def slice (s : Selection Bound) : Slice where
  partition := .ok (partitionKey (s.keys.map (·.value)))
  lower := (s.fixed ++ s.lower.toList).map (·.value)
  upper := (s.fixed ++ s.upper.toList).map (·.value)
  bounding := s.bounding
  direction := s.direction

end Selection

/-! ## 2. The chain -/

theorem relate_operand (q : Query) (text : String) (b : Bound) :
    q.relate text [b.operand] = { q with relations := q.relations ++ [⟨text, [b]⟩] } := by
  simp [Query.relate, Query.note, Query.fragment, Bound.operand, Operand.failure?, Operand.bound?]

theorem call_relate (q : Query) (text : String) (b : Bound) :
    q.call (.relate text b.operand) = { q with relations := q.relations ++ [⟨text, [b]⟩] } :=
  relate_operand q text b

theorem call_relateRange (q : Query) (position : Nat) (lowerText upperText : String)
    (a b : Bound) :
    q.call (.relateRange position lowerText a.operand upperText b.operand) =
      { q with
        relations := q.relations ++ [⟨lowerText, [a]⟩, ⟨upperText, [b]⟩]
        failure := q.failure <|> if !a.value.lt b.value then
          some (.range (.nonMonotonic position)) else none } := by
  have horder : Query.outOfOrder a.operand b.operand = !a.value.lt b.value := rfl
  rw [Query.call, Query.relateRange_eq, relate_operand, relate_operand, horder, List.append_assoc,
    List.singleton_append]

/-- Calls of equalities push the equalities of their columns. -/
theorem calls_equalityCalls : ∀ (q : Query) (fs : List PlannedField) (bs : List Bound),
    ∃ rs, q.calls (equalityCalls fs bs) = { q with relations := q.relations ++ rs } ∧
      rs.map Fragment.told = (equalities (fs.map (·.column)) (bs.map (·.value))).map Relation.told
  | q, f :: fs, b :: bs => by
    obtain ⟨rs, hcalls, htold⟩ :=
      calls_equalityCalls (q.call (.relate (f.relation "=") b.operand)) fs bs
    refine ⟨⟨f.relation "=", [b]⟩ :: rs, ?_, ?_⟩
    · rw [equalityCalls, List.zipWith_cons_cons, Query.calls_cons, ← equalityCalls, hcalls,
        call_relate, List.append_assoc, List.singleton_append]
    · rw [List.map_cons, htold]
      rfl
  | q, [], bs => ⟨[], by simp [equalityCalls], by simp [equalities]⟩
  | q, f :: fs, [] => ⟨[], by simp [equalityCalls], by simp [equalities]⟩

/-- The call of bounds pushes the comparisons of its column, and fails if they are out of order. -/
theorem calls_boundCalls (q : Query) (f : PlannedField) (s : Selection Bound) :
    ∃ rs, q.calls (s.boundCalls f) =
        { q with relations := q.relations ++ rs, failure := q.failure <|> s.failure? } ∧
      rs.map Fragment.told = (s.boundsOn f.column).map Relation.told := by
  obtain ⟨keys, fixed, lower, upper, bounding, direction⟩ := s
  cases lower with
  | none =>
    cases upper with
    | none =>
      exact ⟨[], by simp [Selection.boundCalls, Selection.failure?, Selection.isOutOfOrder], rfl⟩
    | some b =>
      refine ⟨[⟨f.relation bounding.endOperator.symbol, [b]⟩], ?_, rfl⟩
      rw [Selection.boundCalls, Query.calls_cons, call_relate]
      simp [Selection.failure?, Selection.isOutOfOrder]
  | some a =>
    cases upper with
    | none =>
      refine ⟨[⟨f.relation bounding.startOperator.symbol, [a]⟩], ?_, rfl⟩
      rw [Selection.boundCalls, Query.calls_cons, call_relate]
      simp [Selection.failure?, Selection.isOutOfOrder]
    | some b =>
      refine ⟨[⟨f.relation bounding.startOperator.symbol, [a]⟩,
        ⟨f.relation bounding.endOperator.symbol, [b]⟩], ?_, rfl⟩
      rw [Selection.boundCalls, Query.calls_cons, call_relateRange]
      rfl

variable {s : Selection Bound} {p : Plan} {m : Mapping} {f : PlannedField}

/-- The query of a select chain has the relations of its selection, and the order asked for. -/
theorem calls_selection (q : Query) (hf : p.clustering[s.fixed.length]? = some f) :
    ∃ rs, q.calls (s.calls p m) =
        { q with
          relations := q.relations ++ rs
          orderBy := m.clusteringColumns.map (·.orderItem s.direction)
          failure := q.failure <|> s.failure? } ∧
      rs.map Fragment.told = (s.relations p).map Relation.told := by
  obtain ⟨rs₁, hkeys, htold₁⟩ := calls_equalityCalls q p.partition s.keys
  obtain ⟨rs₂, hfixed, htold₂⟩ :=
    calls_equalityCalls (q.calls (equalityCalls p.partition s.keys)) p.clustering s.fixed
  obtain ⟨rs₃, hbounds, htold₃⟩ := calls_boundCalls
    ((q.calls (equalityCalls p.partition s.keys)).calls (equalityCalls p.clustering s.fixed)) f s
  refine ⟨rs₁ ++ rs₂ ++ rs₃, ?_, ?_⟩
  · rw [Selection.calls, hf, Query.calls_append, Query.calls_append, Query.calls_append]
    simp only [Option.toList_some, List.flatMap_cons, List.flatMap_nil, List.append_nil]
    rw [hbounds, hfixed, hkeys, List.append_assoc, List.append_assoc]
    simp [Query.call, Query.orderByClustering]
  · rw [Selection.relations, hf, List.map_append, List.map_append, htold₁, htold₂, htold₃]
    simp

/-! ## 3. The slice -/

/-- A value of a selection as a component of a side. -/
def component (b : Bound) : Option Value := some b.value

theorem side_eq (v : Value) (fixed : List Bound) (b : Option Bound) :
    Slice.side v ((fixed ++ b.toList).map (·.value)) =
      some v :: fixed.map component ++ (b.map component).toList ++ [] := by
  cases b <;> simp [Slice.side, component, Function.comp_def]

theorem equalItems_self {vs : List Value} (h : ∀ v ∈ vs, v.equals v = true) :
    Value.equalItems vs vs = true := by
  induction vs with
  | nil => rw [Value.equalItems]
  | cons v vs ih =>
    obtain ⟨hv, hvs⟩ := List.forall_mem_cons.mp h
    rw [Value.equalItems, hv, ih hvs, Bool.and_self]

/-- A partition key is present and equals itself if all its values do. -/
theorem partitionKey_sound {vs : List Value}
    (h : ∀ v ∈ vs, v.isNull = false ∧ v.equals v = true) :
    (partitionKey vs).isNull = false ∧ (partitionKey vs).equals (partitionKey vs) = true := by
  by_cases hone : vs.length = 1
  · obtain ⟨v, rfl⟩ := List.length_eq_one_iff.mp hone
    exact h v (List.mem_singleton_self v)
  · rw [partitionKey_eq_tuple hone, Value.equals]
    exact ⟨rfl, equalItems_self fun v hv => (h v hv).2⟩

/-- A value of a sound selection is present and fixes its column. -/
theorem Selection.Sound.present_same (hsound : s.Sound) {b : Bound} (hb : b ∈ s.bounds) :
    Component.absent (component b) = false ∧ Component.same (component b) (component b) = true :=
  ⟨hsound.present b hb, hsound.equal b hb⟩

/-- So do the components that both sides of a sound selection share. -/
theorem Selection.Sound.shared (hsound : s.Sound) :
    ∀ c ∈ some (partitionKey (s.keys.map (·.value))) :: s.fixed.map component,
      Component.absent c = false ∧ Component.same c c = true := by
  have hkeys : ∀ v ∈ s.keys.map (·.value), v.isNull = false ∧ v.equals v = true := by
    intro v hv
    obtain ⟨b, hb, rfl⟩ := List.mem_map.mp hv
    exact hsound.present_same (by simp [Selection.bounds, hb])
  refine List.forall_mem_cons.mpr ⟨partitionKey_sound hkeys, ?_⟩
  intro c hc
  obtain ⟨b, hb, rfl⟩ := List.mem_map.mp hc
  exact hsound.present_same (by simp [Selection.bounds, hb])

/-- The sides of a selection resolve to its values, unless its bounds are out of order. -/
theorem resolve_selection (hsound : s.Sound) :
    resolve (Slice.side (partitionKey (s.keys.map (·.value))) s.slice.lower)
        (Slice.side (partitionKey (s.keys.map (·.value))) s.slice.upper) =
      if s.isOutOfOrder then .error (.nonMonotonic s.position)
      else .ok ⟨some (partitionKey (s.keys.map (·.value))) :: s.fixed.map component,
        s.lower.map component, s.upper.map component⟩ := by
  have horder : boundsOutOfOrder (s.lower.map component) (s.upper.map component) =
      s.isOutOfOrder := by
    rw [Selection.isOutOfOrder]
    cases s.lower <;> cases s.upper <;> rfl
  rw [Selection.slice, side_eq, side_eq, resolve_of_shared, horder, List.length_map]
  · rfl
  · intro c hc
    simp only [List.mem_append, Option.mem_toList, Option.map_eq_some_iff] at hc
    rcases hc with (hc | ⟨b, hb, rfl⟩) | ⟨b, hb, rfl⟩
    · exact (hsound.shared c hc).1
    · exact (hsound.present_same (by simp [Selection.bounds, hb])).1
    · exact (hsound.present_same (by simp [Selection.bounds, hb])).1
  · exact fun c hc => (hsound.shared c hc).2
  · simpa using hsound.bounded
  · simp
  · simp

/-- The bounds of a selection are the comparisons of its column. -/
theorem boundRelations_selection (column : String) (fixed : List (Option Value)) :
    boundRelations s.bounding column ⟨fixed, s.lower.map component, s.upper.map component⟩ =
      s.boundsOn column := by
  rw [Selection.boundsOn, boundRelations]
  cases s.lower <;> cases s.upper <;> rfl

/-- The relations of the sides of a selection are the ones it amounts to. -/
theorem predicate_selection (hbounded : s.lower ≠ none ∨ s.upper ≠ none)
    (hpartition : m.partitionColumns = p.partition.map (·.column))
    (hclustering : m.clusteringColumns.map (·.name) = p.clustering.map (·.column))
    (hkeys : s.keys.length = p.partition.length) (hf : p.clustering[s.fixed.length]? = some f) :
    (⟨some (partitionKey (s.keys.map (·.value))) :: s.fixed.map component, s.lower.map component,
        s.upper.map component⟩ : Range (Option Value)).predicate m.partitionColumns
        m.clusteringColumns s.bounding s.direction =
      .ok ⟨s.relations p, m.clusteringColumns.map (·.orderItem s.direction)⟩ := by
  have hfirst : partitionRelations m.partitionColumns (partitionKey (s.keys.map (·.value))) =
      .ok (equalities (p.partition.map (·.column)) (s.keys.map (·.value))) := by
    rw [hpartition]
    exact partitionRelations_partitionKey (by simpa using hkeys)
  -- the column that varies in the mapping is the bounded one of the plan
  obtain ⟨c, hc, hname⟩ : ∃ c, m.clusteringColumns[s.fixed.length]? = some c ∧
      c.name = f.column := by
    have hcolumn := congrArg (·[s.fixed.length]?) hclustering
    simp only [List.getElem?_map, hf, Option.map_some] at hcolumn
    exact Option.map_eq_some_iff.mp hcolumn
  have henough : s.fixed.length < m.clusteringColumns.length :=
    (List.getElem?_eq_some_iff.mp hc).1
  have hsides : ((s.lower.map component).isSome || (s.upper.map component).isSome) = true := by
    simpa [Option.isSome_iff_ne_none] using hbounded
  have hfixed : (s.fixed.map component).map componentValue = s.fixed.map (·.value) := by
    rw [List.map_map]
    rfl
  simp only [Range.predicate, componentValue, Option.getD_some, hfirst, bind, Except.bind,
    clusteringRelations, hsides, if_true, List.length_map, hc, boundRelations_selection, hname,
    hfixed, hclustering]
  rw [if_neg (by omega), Selection.relations, hf]
  simp [pure, Except.pure]

/-- The query that a selection amounts to. -/
def Selection.query (s : Selection Bound) (p : Plan) (m : Mapping) : Query :=
  { m.select false with
    relations := (s.relations p).map fun r => ⟨r.text, [⟨r.value.spoken, r.value⟩]⟩
    orderBy := m.clusteringColumns.map (·.orderItem s.direction) }

/-- The statement of a slice is that of its selection, unless its bounds are out of order. -/
theorem statement_slice (hsound : s.Sound)
    (hpartition : m.partitionColumns = p.partition.map (·.column))
    (hclustering : m.clusteringColumns.map (·.name) = p.clustering.map (·.column))
    (hkeys : s.keys.length = p.partition.length) (hf : p.clustering[s.fixed.length]? = some f) :
    s.slice.statement m =
      if s.isOutOfOrder then .error (.range (.nonMonotonic s.position))
      else .ok (s.query p m).render := by
  have hresolve := resolve_selection hsound
  have hpredicate := predicate_selection hsound.bounded hpartition hclustering hkeys hf
  have hquery : s.slice.query m =
      if s.isOutOfOrder then .error (.range (.nonMonotonic s.position))
      else .ok (s.query p m, m.clusteringColumns[s.fixed.length]?.map fun c =>
        { column := c.name, ascending := c.growsIn s.direction : Tracked }) := by
    have hkey : s.slice.partition = .ok (partitionKey (s.keys.map (·.value))) := rfl
    cases horder : s.isOutOfOrder with
    | true =>
      rw [horder, if_pos rfl] at hresolve
      simp only [Slice.query, hkey, bind, Except.bind, hresolve, Except.mapError_error, if_true]
    | false =>
      rw [horder, if_neg Bool.false_ne_true] at hresolve
      have hbounding : s.slice.bounding = s.bounding := rfl
      have hdirection : s.slice.direction = s.direction := rfl
      simp only [Slice.query, hkey, bind, Except.bind, hresolve, Except.mapError_ok, hbounding,
        hdirection, hpredicate, Bool.false_eq_true, if_false]
      simp [pure, Except.pure, Range.varyingPosition, Selection.query, Query.restrictTo,
        Query.restrict, Mapping.select, Query.selecting, Query.on, Selection.slice]
  rw [Slice.statement, hquery]
  split <;> rfl

/-! ## 4. The statement -/

namespace Selection

/-- The relations of a selection, as they stand in a statement. -/
def relationTexts (s : Selection Bound) (p : Plan) : List String :=
  (p.partition ++ p.clustering.take s.fixed.length).map (fun f => f.column ++ " = ?")
    ++ (p.clustering[s.fixed.length]?).toList.flatMap fun f =>
      (s.lower.map fun _ => f.column ++ " " ++ s.bounding.startOperator.symbol ++ " ?").toList
        ++ (s.upper.map fun _ => f.column ++ " " ++ s.bounding.endOperator.symbol ++ " ?").toList

/-- How the rows of a selection are ordered, column by column. -/
def orderTexts (s : Selection Bound) (m : Mapping) : List String :=
  m.clusteringColumns.map fun c =>
    c.name ++
      match s.direction, c.ascending with
      | .ascending, true | .descending, false => " ASC"
      | .ascending, false | .descending, true => " DESC"

/-- The text that asks for the rows of a selection. -/
def cql (s : Selection Bound) (p : Plan) (m : Mapping) : String :=
  "SELECT " ++ m.projection ++ " FROM " ++ m.qualifiedTable
    ++ " WHERE " ++ " AND ".intercalate (s.relationTexts p)
    ++ " ORDER BY " ++ ", ".intercalate (s.orderTexts m)

end Selection

theorem texts_equalities (columns : List String) (vs : List Value) :
    (equalities columns vs).map Relation.text = (columns.take vs.length).map (· ++ " = ?") := by
  induction columns generalizing vs with
  | nil => simp [equalities]
  | cons column columns ih =>
    cases vs with
    | nil => rfl
    | cons v vs =>
      have htext : (⟨column, .eq, v⟩ : Relation).text = column ++ " = ?" := by
        simp only [Relation.text, Operator.symbol, String.append_assoc]
        rfl
      rw [equalities, List.zipWith_cons_cons, List.map_cons, ← equalities, ih, htext]
      rfl

theorem values_equalities (columns : List String) (vs : List Value) :
    (equalities columns vs).map (·.value) = vs.take columns.length := by
  induction columns generalizing vs with
  | nil => rfl
  | cons column columns ih =>
    cases vs with
    | nil => rfl
    | cons v vs =>
      rw [equalities, List.zipWith_cons_cons, List.map_cons, ← equalities, ih]
      rfl

/-- The relations that a selection amounts to have its texts, if its key is whole. -/
theorem texts_relations (hkeys : s.keys.length = p.partition.length) :
    (s.relations p).map Relation.text = s.relationTexts p := by
  have hbounds : ∀ g : PlannedField, (s.boundsOn g.column).map Relation.text =
      (s.lower.map fun _ => g.column ++ " " ++ s.bounding.startOperator.symbol ++ " ?").toList
        ++ (s.upper.map fun _ =>
          g.column ++ " " ++ s.bounding.endOperator.symbol ++ " ?").toList := by
    intro g
    rw [Selection.boundsOn]
    cases s.lower <;> cases s.upper <;> rfl
  simp only [Selection.relations, Selection.relationTexts, List.map_append, texts_equalities,
    List.length_map, hkeys, List.map_flatMap, hbounds, ← List.map_take, List.map_map,
    Function.comp_def, List.take_length]

/-- They have its values, in order. -/
theorem values_relations (hkeys : s.keys.length = p.partition.length)
    (hf : p.clustering[s.fixed.length]? = some f) :
    (s.relations p).map (·.value) = s.values := by
  have hfixed : s.fixed.length < p.clustering.length := (List.getElem?_eq_some_iff.mp hf).1
  have hbounds : (s.boundsOn f.column).map (·.value) =
      s.lower.toList.map (·.value) ++ s.upper.toList.map (·.value) := by
    rw [Selection.boundsOn]
    cases s.lower <;> cases s.upper <;> rfl
  simp only [Selection.relations, Selection.values, Selection.bounds, List.map_append,
    values_equalities, List.length_map, hf, Option.toList_some, List.flatMap_cons,
    List.flatMap_nil, List.append_nil, hbounds, List.append_assoc]
  rw [List.take_of_length_le (by simp [hkeys]), List.take_of_length_le (by simp; omega)]

/-- **The query of a selection asks for its rows**, with its values in order. -/
theorem render_selection (hkeys : s.keys.length = p.partition.length)
    (hpartition : p.partition ≠ []) (hclustering : m.clusteringColumns ≠ [])
    (hf : p.clustering[s.fixed.length]? = some f) :
    (s.query p m).render.cql = s.cql p m ∧ (s.query p m).render.values = s.values := by
  have htexts := texts_relations hkeys
  have hrelations : (s.query p m).relations.map (·.text) = s.relationTexts p := by
    rw [← htexts, Selection.query, List.map_map]
    rfl
  have hsome : s.relationTexts p ≠ [] := by
    simp [Selection.relationTexts, hpartition]
  have hwhere : (s.query p m).whereClause =
      " WHERE " ++ " AND ".intercalate (s.relationTexts p) := by
    rw [Query.whereClause, hrelations, Query.clause, if_neg (by simpa using hsome)]
  have horder : (s.query p m).orderBy = s.orderTexts m := by
    refine List.map_congr_left fun c _ => ?_
    rw [ClusteringColumn.orderItem, ClusteringColumn.growsIn]
    cases s.direction <;> cases c.ascending <;> rfl
  constructor
  · have hclause : Query.clause " ORDER BY " ", " (s.query p m).orderBy =
        " ORDER BY " ++ ", ".intercalate (s.orderTexts m) := by
      rw [Query.clause, horder, if_neg]
      simpa [Selection.orderTexts] using hclustering
    show (s.query p m).selectText "SELECT " = _
    rw [Query.selectText, hwhere, hclause, Selection.cql]
    simp [Selection.query, Mapping.select, Query.selecting, Query.on, Fragment.join,
      Query.numberClause, Query.filteringClause, String.append_assoc]
  · rw [← values_relations hkeys hf, List.map_eq_flatMap]
    simp [Query.render, Statement.values, Query.boundFragments, Selection.query, Mapping.select,
      Query.selecting, Query.on, List.flatMap_map, List.map_flatMap]

/-! ## 5. Both -/

/-- **Slice and chain ask for the same rows**, or fail alike. -/
theorem statements_of_selection (hsound : s.Sound)
    (hcolumns : m.partitionColumns = p.partition.map (·.column))
    (hclustering : m.clusteringColumns.map (·.name) = p.clustering.map (·.column))
    (hpartition : p.partition ≠ []) (hkeys : s.keys.length = p.partition.length)
    (hf : p.clustering[s.fixed.length]? = some f) :
    (s.isOutOfOrder = true →
      s.slice.statement m = .error (.range (.nonMonotonic s.position))
        ∧ ((m.select false).calls (s.calls p m)).statement =
          .error (.range (.nonMonotonic s.position)))
      ∧ (s.isOutOfOrder = false → ∃ sliced chained,
        s.slice.statement m = .ok sliced
          ∧ ((m.select false).calls (s.calls p m)).statement = .ok chained
          ∧ sliced.cql = s.cql p m ∧ chained.cql = s.cql p m
          ∧ sliced.values = s.values ∧ chained.values = s.values) := by
  have hsome : m.clusteringColumns ≠ [] := by
    intro hnone
    rw [hnone, List.map_nil, eq_comm, List.map_eq_nil_iff] at hclustering
    simp [hclustering] at hf
  have hslice := statement_slice hsound hcolumns hclustering hkeys hf
  obtain ⟨hcql, hvalues⟩ := render_selection hkeys hpartition hsome hf
  obtain ⟨rs, hcalls, htold⟩ : ∃ rs, (m.select false).calls (s.calls p m) = _ ∧ _ :=
    calls_selection (m.select false) hf
  constructor
  · intro horder
    rw [hslice, hcalls, if_pos horder]
    refine ⟨rfl, ?_⟩
    simp [Query.statement, Selection.failure?, horder]
  · intro horder
    have hquery : s.query p m = { (m.select false).calls (s.calls p m) with
        relations := (s.query p m).relations, options := {} } := by
      rw [hcalls]
      simp [Selection.query, Selection.failure?, horder]
    obtain ⟨hsame, hsameValues⟩ := Query.render_congr hquery (by
      rw [hcalls, Mapping.select_relations, List.nil_append, htold, Selection.query, List.map_map]
      rfl)
    refine ⟨(s.query p m).render, ((m.select false).calls (s.calls p m)).render, ?_, ?_, hcql,
      hsame ▸ hcql, hvalues, hsameValues ▸ hvalues⟩
    · rw [hslice, horder, if_neg Bool.false_ne_true]
    · rw [hcalls]
      simp [Query.statement, Selection.failure?, horder]

/-- A selection as it is bound: what is spoken of each input, and its value. -/
def Selection.bound {V : Vocabulary} (s : Selection (Input V)) : Selection Bound :=
  s.map Input.bound

/-- **A slice and a select chain make one statement.**  The method that begins a select chain and
those of its states stand in the source that is generated for an accepted entity.  For every
selection that fits the entity they are there, one state after another, up to one that makes
statements; and given the sources of the selection they make calls.  If the lower bound does not
lie strictly before the upper one, slice and chain fail alike, at the place of the bounded column;
else both succeed, and their statements have the text and the values of the selection. -/
theorem slice_agrees_with_chain {d : Declaration} {registry : Schema.Registry}
    {defaults : Schema.Defaults} {schema : Schema} {app : Application} {e : Schema.Entity}
    {profile : Profile} {emitDdl : Bool} {its : List Source.Item} {V : Vocabulary}
    {s : Selection (Input V)} (hload : Schema.load d registry defaults = .ok schema)
    (he : e ∈ schema.entities) (hmapping : schema.mapping? app e.name = some m)
    (hplan : plan schema profile emitDdl e = .ok p)
    (hitems : items schema profile emitDdl = .ok its) (hrecord : V.mapping? p.name = some m)
    (hfits : s.Fits p) (hsound : s.bound.Sound) :
    EmitsSelect its p
      ∧ (∀ state ∈ selectStates p false, Emits its state)
      ∧ lastSelectState p ∈ selectStates p false
      ∧ finish .statement ∈ (lastSelectState p).methods
      ∧ ∃ calls, Chain V (selectStates p false) (selectEntry p false) (s.uses p) calls
          (lastSelectState p).name
        ∧ (s.bound.isOutOfOrder = true →
          s.bound.slice.statement m = .error (.range (.nonMonotonic s.position))
            ∧ ((m.select false).calls calls).statement =
              .error (.range (.nonMonotonic s.position)))
        ∧ (s.bound.isOutOfOrder = false → ∃ sliced chained,
          s.bound.slice.statement m = .ok sliced
            ∧ ((m.select false).calls calls).statement = .ok chained
            ∧ sliced.cql = s.bound.cql p m ∧ chained.cql = s.bound.cql p m
            ∧ sliced.values = s.bound.values ∧ chained.values = s.bound.values) := by
  have hname := Schema.entity?_of_load hload he
  have hpartition := partition_ne_nil hload he hplan
  obtain ⟨p', ss, hplan', hstates, hemits, hmanager⟩ := entityItems_of_items hitems he
  obtain rfl := Except.ok.inj (hplan.symm.trans hplan')
  obtain ⟨f, hf, -⟩ := hfits.bounds
  have hclustering : p.clustering ≠ [] := by
    intro hnone
    simp [hnone] at hf
  have hkeys : s.bound.keys.length = p.partition.length :=
    (List.length_map _).trans hfits.keys.length_eq
  have hlength : s.bound.fixed.length = s.fixed.length := List.length_map _
  have hposition : s.position = s.bound.position := congrArg (· + 1) hlength.symm
  have hbounded : s.lower ≠ none ∨ s.upper ≠ none := by
    simpa [Selection.bound, Selection.map] using hsound.bounded
  refine ⟨emitsSelect_of_items hmanager, fun state hstate => emits_of_items (hemits state ?_),
    lastSelectState_mem hclustering, by simp [lastSelectState, readMethods], _,
    chain_of_selection hpartition hrecord hfits hbounded, ?_⟩
  · exact selectStates_mem hstates (by simp) state hstate
  · rw [hposition]
    exact statements_of_selection hsound (partitionColumns_eq hname hmapping hplan)
      (clusteringColumns_eq hname hmapping hplan) hpartition hkeys (hlength ▸ hf)

/-- Readings of sensors, by day. -/
def readings : Declaration where
  entities := [
    { name := "Reading"
      fields := [
        (Declaration.Field.typed "sensor" "bigint").inPartition 0,
        (Declaration.Field.typed "day" "int").inClustering 0 true] }]

/-- What the names in their source stand for. -/
def readingsVocabulary (m : Mapping) : Vocabulary :=
  { wholeNumbers with mapping? := fun record => if record = "Reading" then some m else none }

/-- The readings of one sensor from day three up to day seven, the latest first. -/
def someDays (m : Mapping) : Selection (Input (readingsVocabulary m)) where
  keys := [⟨"i64", Data.bigint 1, .bigint 1⟩]
  fixed := []
  lower := some ⟨"i32", Data.int 3, .int 3⟩
  upper := some ⟨"i32", Data.int 7, .int 7⟩
  bounding := .inclusiveStart
  direction := .descending

theorem slice_agrees_with_chain_readings :
    ∃ schema e m p its, Schema.load readings {} {} = .ok schema ∧ e ∈ schema.entities
      ∧ schema.mapping? ⟨"app", [], [], []⟩ e.name = some m
      ∧ plan schema .cassandra37 false e = .ok p ∧ items schema .cassandra37 false = .ok its
      ∧ EmitsSelect its p ∧ (∀ state ∈ selectStates p false, Emits its state)
      ∧ ∃ calls, Chain (readingsVocabulary m) (selectStates p false) (selectEntry p false)
          ((someDays m).uses p) calls (lastSelectState p).name
        ∧ ∃ sliced chained, (someDays m).bound.slice.statement m = .ok sliced
          ∧ ((m.select false).calls calls).statement = .ok chained
          ∧ sliced.cql = "SELECT sensor, day FROM reading "
              ++ "WHERE sensor = ? AND day >= ? AND day < ? ORDER BY day DESC"
          ∧ chained.cql = sliced.cql
          ∧ sliced.values = [.bigint 1, .int 3, .int 7] ∧ chained.values = sliced.values := by
  let native (type : String) := Source.core "codec :: NativeCodec < " ++ type ++ " >"
  have hready : ((Schema.load readings {} {}).toOption.bind fun schema =>
      schema.entities.head?.bind fun e => (schema.mapping? ⟨"app", [], [], []⟩ e.name).bind fun m =>
        (plan schema .cassandra37 false e).toOption.bind fun p =>
          (items schema .cassandra37 false).toOption.map fun _ => (p.name,
            p.partition.map fun f => (f.type, f.codec), p.clustering.map fun f => (f.type, f.codec),
            (someDays m).bound.cql p m)) =
      some ("Reading", [("i64", native "i64")], [("i32", native "i32")],
        "SELECT sensor, day FROM reading "
          ++ "WHERE sensor = ? AND day >= ? AND day < ? ORDER BY day DESC") := by decide +kernel
  simp only [Option.bind_eq_some_iff, Option.map_eq_some_iff, Except.toOption_eq_some_iff,
    Prod.mk.injEq] at hready
  obtain ⟨schema, hload, e, he, m, hmapping, p, hplan, its, hitems, hname, hkeys, hclustering,
    hcql⟩ := hready
  have hmem := List.mem_of_mem_head? he
  obtain ⟨f, hpartition, hf⟩ := List.map_eq_singleton_iff.mp hkeys
  obtain ⟨g, hcluster, hg⟩ := List.map_eq_singleton_iff.mp hclustering
  simp only [Prod.mk.injEq] at hf hg
  have hfitsDay : ∀ n, (⟨"i32", Data.int n, .int n⟩ : Input (readingsVocabulary m)).Fits g :=
    fun n => ⟨hg.1.symm, .native .int, by rw [hg.2]; rfl, rfl⟩
  have hfits : (someDays m).Fits p := {
    keys := by
      rw [hpartition]
      exact .cons ⟨hf.1.symm, .native .bigint, by rw [hf.2]; rfl, rfl⟩ .nil
    fixed := .nil
    bounds := ⟨g, by rw [hcluster]; rfl, by rintro i ⟨⟩; exact hfitsDay 3,
      by rintro i ⟨⟩; exact hfitsDay 7⟩ }
  have hbounds : (someDays m).bound.bounds =
      [⟨"1", .bigint 1⟩, ⟨"3", .int 3⟩, ⟨"7", .int 7⟩] := rfl
  have hsound : (someDays m).bound.Sound := {
    present := by rw [hbounds]; decide
    equal := by rw [hbounds]; simp [Value.equals]
    bounded := Or.inl (by simp [someDays, Selection.bound, Selection.map]) }
  obtain ⟨hselect, hstates, -, -, calls, hchain, -, hboth⟩ := slice_agrees_with_chain hload hmem
    hmapping hplan hitems (by rw [hname]; rfl) hfits hsound
  obtain ⟨sliced, chained, hsliced, hchained, htext, htext', hvalues, hvalues'⟩ :=
    hboth (by rfl)
  exact ⟨schema, e, m, p, its, hload, hmem, hmapping, hplan, hitems, hselect, hstates, calls,
    hchain, sliced, chained, hsliced, hchained, htext.trans hcql, htext'.trans htext.symm, hvalues,
    hvalues'.trans hvalues.symm⟩

end Builder

end WideColumn
