/-
# The states of a chain go along the key

The states in which key columns are next are made from a plan, the record and its SELECT from the
columns of a mapping, and the statements that create a table from its entity.  All three list the
key of an accepted entity alike, whatever the order in which its fields are declared
(`key_order_agrees`).

For states this means a WALK (`KeyWalk`): from where a chain begins, one column of the key after
the other is equated, each in a state that asks for no other column, up to the last state of the
family.
-/
import WideColumn.Proofs.Builder.Columns
import WideColumn.Proofs.Builder.Entries
import WideColumn.Proofs.Schema.KeyOrder

namespace WideColumn.Builder

open WideColumn.Key

namespace Entry

/-- The family of the states that an entry point begins. -/
def family : Entry → String
  | select json => selectFamily json
  | update false => "Update"
  | update true => "UpdateStatic"
  | delete false => "Delete"
  | delete true => "DeleteStatic"

/-- The columns of the key that the chains of an entry point go along: where they are about
static columns, those of the partition alone. -/
def keyColumns (m : Mapping) : Entry → List String
  | update true | delete true => m.partitionColumns
  | select _ | update false | delete false => m.keyColumns

end Entry

variable {p : Plan} {family after : String} {states ss : List State} {columns others : List String}
  {a b c : String}

/-! ## 1. Walks -/

/-- **A method is about a column** if it relates that one or none. -/
def Method.IsOn (method : Method) (column : String) : Prop :=
  ∀ name a next, method.act = .change name a next →
    ∀ text ∈ a.relations, ∃ rest, text = column ++ " " ++ rest

/-- **States go along columns**: one after the other is equated, each in a state of its own.
Before that something may have to be assigned. -/
inductive KeyWalk (states : List State) : String → List String → String → Prop
  | done (last : String) : KeyWalk states last [] last
  | assign {s : State} {next last : String} {columns : List String} (known : s ∈ states)
      (assigns : ∀ method ∈ s.methods, method.Assigns (some next))
      (onward : KeyWalk states next columns last) : KeyWalk states s.name columns last
  | key {s : State} {column name next last : String} {columns : List String} {operand : Operand}
      (known : s ∈ states)
      (has : change name (.relate (equality column) operand) (some next) ∈ s.methods)
      (bound : operand.column = column) (only : ∀ method ∈ s.methods, method.IsOn column)
      (onward : KeyWalk states next columns last) : KeyWalk states s.name (column :: columns) last

namespace KeyWalk

theorem append (h : KeyWalk states a columns b) (h' : KeyWalk states b others c) :
    KeyWalk states a (columns ++ others) c := by
  induction h with
  | done => exact h'
  | assign known assigns _ ih => exact .assign known assigns (ih h')
  | key known has bound only _ ih => exact .key known has bound only (ih h')

/-- A state in which a key column is equated. -/
theorem of_equate {s : State} {f : PlannedField} {name next last : String} (known : s ∈ states)
    (has : equate f name next ∈ s.methods) (only : ∀ method ∈ s.methods, method.IsOn f.column)
    (onward : KeyWalk states next columns last) :
    KeyWalk states s.name (f.column :: columns) last := by
  rw [equate, PlannedField.relation_eq] at has
  exact .key known has rfl only onward

end KeyWalk

/-! ## 2. What methods are about -/

section
variable {f : PlannedField} {column : String} {ms : List Method}

theorem isOn_equate {name next : String} : (equate f name next).IsOn f.column := by
  rintro _ _ _ ⟨⟩ text htext
  obtain rfl := List.mem_singleton.mp htext
  exact ⟨"= ?", by rw [PlannedField.relation, String.append_assoc]; rfl⟩

theorem isOn_among {next : String} : (among f next).IsOn f.column := by
  rintro _ _ _ ⟨⟩ text htext
  obtain rfl := List.mem_singleton.mp htext
  exact ⟨"IN ?", by rw [PlannedField.relation, String.append_assoc]; rfl⟩

theorem isOn_equateJson {next : String} : (equateJson f next).IsOn f.column := by
  rintro _ _ _ ⟨⟩ text htext
  obtain rfl := List.mem_singleton.mp htext
  exact ⟨"= fromJson(?)", by rw [String.append_assoc]; rfl⟩

theorem isOn_boundMethods {position : Nat} {next : String} :
    ∀ method ∈ boundMethods f position next, method.IsOn f.column := by
  intro method hmethod
  obtain ⟨_, _, rfl, hbounds⟩ := mem_boundMethods hmethod
  rintro _ _ _ ⟨⟩ text htext
  have hone : ∀ op, ∃ rest, f.column ++ " " ++ op ++ " ?" = f.column ++ " " ++ rest :=
    fun op => ⟨op ++ " ?", String.append_assoc ..⟩
  generalize Action.relations _ = texts at hbounds htext
  cases hbounds with
  | lower | upper =>
    obtain rfl := List.mem_singleton.mp htext
    exact hone _
  | both =>
    rcases List.mem_pair.mp htext with rfl | rfl
    · exact hone _
    · exact hone _

/-- A method that relates nothing is about any column. -/
theorem isOn_of_clause {method : Method}
    (h : ∀ name a next, method.act = .change name a next → a.clause? ≠ some .relations) :
    method.IsOn column := by
  intro name a next hact text htext
  rw [Action.relations_eq_nil (h name a next hact)] at htext
  cases htext

theorem isOn_of_rests (h : ∀ method ∈ ms, method.Rests) : ∀ method ∈ ms, method.IsOn column := by
  refine fun method hmethod => isOn_of_clause fun name a next hact => ?_
  obtain ⟨-, hneutral, -⟩ := (h method hmethod).2 name a next hact
  simp [hneutral]

theorem isOn_of_assigns {next : Option String} (h : ∀ method ∈ ms, method.Assigns next) :
    ∀ method ∈ ms, method.IsOn column := by
  refine fun method hmethod => isOn_of_clause ?_
  obtain ⟨_, _, rfl, hclause⟩ := h method hmethod
  rintro _ _ _ ⟨⟩
  rw [hclause]
  simp

theorem isOn_conditionalMethods {tested : List PlannedField} :
    ∀ method ∈ conditionalMethods p family tested, method.IsOn column := by
  intro method hmethod
  rw [conditionalMethods] at hmethod
  refine isOn_of_clause ?_
  rcases List.mem_cons.mp (List.mem_ite_nil_right.mp hmethod).2 with rfl | hmethod
  · rintro _ _ _ ⟨⟩
    simp [Action.clause?]
  · obtain ⟨f, -, rfl⟩ := List.mem_map.mp hmethod
    rintro _ _ _ ⟨⟩
    simp [Action.clause?]

/-- A method that is passed on is about what it is about in its own state. -/
theorem isOn_passedTo {state : String} (h : ∀ method ∈ ms, method.IsOn column) :
    ∀ method ∈ passedTo state ms, method.IsOn column := by
  intro method hmethod
  obtain ⟨own, hown, rfl⟩ := List.mem_map.mp hmethod
  exact h own hown

end

/-! ## 3. The key columns of a family -/

section
variable {fs : List PlannedField} {last : String} {lastMethods : List Method}

theorem walk_partitionStates {first : Bool}
    (hstates : ∀ s ∈ partitionStates p family after first fs, s ∈ states) :
    KeyWalk states (p.stateForFirst family fs after) (fs.map (·.column)) after := by
  induction fs generalizing first with
  | nil => exact .done after
  | cons f fs ih =>
    rw [partitionStates, List.forall_mem_cons] at hstates
    refine .of_equate hstates.1 (List.mem_append_left _ (List.mem_append_left _
      (List.mem_append_right _ List.mem_cons_self))) ?_ (ih hstates.2)
    intro method hmethod
    simp only [List.mem_append, List.mem_ite_nil_right, List.mem_singleton] at hmethod
    rcases hmethod with ((⟨-, rfl⟩ | rfl) | ⟨-, rfl⟩) | ⟨-, rfl⟩
    · refine isOn_of_clause ?_
      rintro _ _ _ ⟨⟩
      simp [Action.clause?]
    · exact isOn_equate
    · exact isOn_among
    · exact isOn_equateJson

theorem walk_clusteringStates (hlast : ∀ column, ∀ method ∈ lastMethods, method.IsOn column)
    {position : Nat}
    (hstates : ∀ s ∈ clusteringStates p family last lastMethods position fs, s ∈ states) :
    KeyWalk states (p.stateForFirst family fs last) (fs.map (·.column)) last := by
  induction fs generalizing position with
  | nil => exact .done last
  | cons f fs ih =>
    rw [clusteringStates, List.forall_mem_cons] at hstates
    refine .of_equate hstates.1 List.mem_cons_self ?_ (ih hstates.2)
    exact List.forall_mem_cons.mpr ⟨isOn_equate, List.forall_mem_append.mpr
      ⟨isOn_boundMethods, isOn_passedTo (hlast f.column)⟩⟩

theorem walk_narrowingStates (hlast : ∀ column, ∀ method ∈ lastMethods, method.IsOn column)
    {position : Nat}
    (hstates : ∀ s ∈ narrowingStates p family last lastMethods position fs, s ∈ states) :
    KeyWalk states (p.stateForFirst family fs last) (fs.map (·.column)) last := by
  induction fs generalizing position with
  | nil => exact .done last
  | cons f fs ih =>
    rw [narrowingStates, List.forall_mem_cons] at hstates
    refine .of_equate hstates.1 List.mem_cons_self ?_ (ih hstates.2)
    refine List.forall_mem_cons.mpr ⟨isOn_equate, List.forall_mem_append.mpr ⟨?_, ?_⟩⟩
    · exact fun method h => isOn_boundMethods method (List.mem_ite_nil_right.mp h).2
    · exact fun method h => isOn_passedTo (hlast f.column) method (List.mem_ite_nil_right.mp h).2

theorem walk_keyStates (hstates : ∀ s ∈ keyStates p family after fs, s ∈ states) :
    KeyWalk states (p.stateForFirst family fs after) (fs.map (·.column)) after := by
  induction fs with
  | nil => exact .done after
  | cons f fs ih =>
    rw [keyStates, List.forall_mem_cons] at hstates
    exact .of_equate hstates.1 List.mem_cons_self (List.forall_mem_singleton.mpr isOn_equate)
      (ih hstates.2)

end

/-! ## 4. Whole families -/

theorem walk_selectStates {json : Bool} (hpartition : p.partition ≠ [])
    (hstates : ∀ s ∈ selectStates p json, s ∈ states) :
    KeyWalk states (selectEntry p json) ((p.partition ++ p.clustering).map (·.column))
      (p.lastState (selectFamily json)) := by
  simp only [selectStates, List.forall_mem_append] at hstates
  obtain ⟨⟨hpart, hclust⟩, -⟩ := hstates
  rw [selectEntry, stateForFirst_eq hpartition, List.map_append]
  exact (walk_partitionStates hpart).append
    (walk_clusteringStates (fun _ => isOn_of_rests rests_readMethods) hclust)

theorem walk_updateFamily {settable keys tested : List PlannedField} (hkeys : keys ≠ [])
    (h : updateFamily p family settable keys tested = .ok ss) (hstates : ∀ s ∈ ss, s ∈ states) :
    KeyWalk states (updateEntry p family) (keys.map (·.column)) (p.lastState family) := by
  obtain ⟨first, others, rfl⟩ := List.exists_cons_of_ne_nil hkeys
  simp only [updateFamily, Except.bind_eq_ok_iff] at h
  obtain ⟨firstMethods, hfirst, moreMethods, hmore, h⟩ := h
  cases h
  simp only [List.forall_mem_append, List.forall_mem_cons] at hstates
  obtain ⟨⟨⟨hset, hsetOrWhere, -⟩, hothers⟩, -⟩ := hstates
  refine .assign hset (assigns_of_flatMapM hfirst) ?_
  refine .of_equate hsetOrWhere (List.mem_append_right _ List.mem_cons_self) ?_
    (walk_keyStates hothers)
  exact List.forall_mem_append.mpr ⟨isOn_of_assigns (assigns_of_flatMapM hmore),
    List.forall_mem_singleton.mpr isOn_equate⟩

theorem walk_deleteFamily {clustering tested : List PlannedField} (hpartition : p.partition ≠ [])
    (hstates : ∀ s ∈ deleteFamily p family clustering tested, s ∈ states) :
    KeyWalk states (deleteEntry p family) ((p.partition ++ clustering).map (·.column))
      (p.lastState family) := by
  simp only [deleteFamily, List.forall_mem_append] at hstates
  obtain ⟨⟨hpart, hclust⟩, -⟩ := hstates
  rw [deleteEntry, stateForFirst_eq hpartition, List.map_append]
  refine (walk_keyStates hpart).append (walk_narrowingStates (fun _ => ?_) hclust)
  exact List.forall_mem_append.mpr ⟨isOn_conditionalMethods, isOn_of_rests rests_writeMethods⟩

/-- **Every chain that a manager begins goes along the key.** -/
theorem walk_of_entry {m : Mapping} {entry : Entry} (hpartition : p.partition ≠ [])
    (hcolumns : m.partitionColumns = p.partition.map (·.column))
    (hkey : m.keyColumns = (p.partition ++ p.clustering).map (·.column))
    (hstates : Builder.states p = .ok ss) (hentry : entry.member p ∈ managerMembers p) :
    KeyWalk ss (entry.state p) (entry.keyColumns m) (p.lastState entry.family) := by
  have hoffered := offered_of_mem_managerMembers hentry
  cases entry with
  | select json =>
    rw [Entry.keyColumns, hkey]
    exact walk_selectStates hpartition (selectStates_mem hstates hoffered)
  | update ofStatics =>
    cases ofStatics with
    | false =>
      obtain ⟨fs, hfamily, hmem⟩ := (updateFamily_mem hstates hoffered.1).1 hoffered.2
      rw [Entry.keyColumns, hkey]
      exact walk_updateFamily (List.append_ne_nil_of_left_ne_nil hpartition _) hfamily hmem
    | true =>
      obtain ⟨tested, fs, hfamily, hmem⟩ := (updateFamily_mem hstates hoffered.1).2 hoffered.2
      rw [Entry.keyColumns, hcolumns]
      exact walk_updateFamily hpartition hfamily hmem
  | delete ofStatics =>
    cases ofStatics with
    | false =>
      rw [Entry.keyColumns, hkey]
      exact walk_deleteFamily hpartition (deleteFamily_mem hstates hoffered).1
    | true =>
      have hmem := (deleteFamily_mem hstates hoffered.1).2 hoffered.2
      have hwalk := walk_deleteFamily hpartition hmem
      rwa [List.append_nil, ← hcolumns] at hwalk

/-! ## 5. Plan, mapping and statement -/

/-- **Source, mapping and statements agree on the key of an entity** and on the columns that are
stored. -/
structure KeyAgrees (s : Schema) (e : Schema.Entity) (p : Plan) (m : Mapping) : Prop where
  /-- The source lists the columns of the mapping. -/
  listed : p.fields.map (columnText p) = (m.columns.map (·.about)).map entryText
  /-- A table is created with these columns and their key. -/
  table : e.viewOf = none →
    (s.entityStatements e).head? = some (m.tableText e.qualifiedTable)
  /-- So is a view, of its base. -/
  view : ∀ name, e.viewOf = some name → ∃ base ∈ s.entities, s.entity? name = some base
    ∧ (s.entityStatements e).head? = some (m.viewText e.qualifiedTable base.qualifiedTable)
  /-- All chains go along the key. -/
  walks : ∀ ss, Builder.states p = .ok ss → ∀ entry : Entry, entry.member p ∈ managerMembers p →
    KeyWalk ss (entry.state p) (entry.keyColumns m) (p.lastState entry.family)
  /-- The natural order is the one that the statement fixes. -/
  natural : ∀ V : Vocabulary, V.mapping? p.name = some m →
    ∃ call, Action.call? V [] (.set (.naturalOrder p.name)) = some call
      ∧ ∀ q : Query, (q.call call).orderBy = e.clusteringFields.map Schema.orderItem
  /-- The reversed order is the one against it. -/
  reversed : ∀ V : Vocabulary, V.mapping? p.name = some m →
    ∃ call, Action.call? V [] (.set (.reversedOrder p.name)) = some call
      ∧ ∀ q : Query, (q.call call).orderBy = e.clusteringFields.map Schema.reversedItem
  /-- SELECT projects what is stored by its columns, in their order. -/
  selected : m.stored.map (·.expression) = m.stored.map (·.name)
  /-- INSERT writes the same columns in the same order, where nothing counts. -/
  inserted : e.hasCounters = false →
    (p.fields.filter isInserted).map (·.column) = m.stored.map (·.name)
      ∧ ∀ (r : m.Record) pairs, r.encodeColumns m.columns = .ok pairs →
        (m.insert r).assignments.map (·.text) = m.stored.map (·.name)

variable {d : Declaration} {registry : Schema.Registry} {defaults : Schema.Defaults} {s : Schema}
  {e : Schema.Entity} {profile : Profile} {emitDdl : Bool} {m : Mapping}

/-- What the source inserts is what is stored, where nothing counts. -/
theorem columns_of_isInserted (hplan : plan s profile emitDdl e = .ok p)
    (hcounters : e.hasCounters = false) :
    (p.fields.filter isInserted).map (·.column) = (Schema.storedFields e).map (·.column) := by
  have hpart : p.fields.filter isInserted = p.fields.filter fun f =>
      !f.model.role.isComputed && !f.model.role.isCounter := rfl
  rw [hpart, columns_of_plan hplan fun r => !r.isComputed && !r.isCounter, Schema.storedFields]
  congr 1
  refine List.filter_congr fun f hf => ?_
  have hcounter : f.role.isCounter = false := by
    simpa using List.any_eq_false.mp hcounters f (Schema.mem_orderedFields.mp hf)
  rw [hcounter, Bool.not_false, Bool.and_true]

/-- **One order of the key.**  The key of every entity of an accepted batch is in order, however
its fields are declared.  On whatever store its source is generated, the mapping that the source
lists has the key and the columns that the statements create, that chains go along, and that rows
are ordered, selected and inserted by. -/
theorem key_order_agrees (hload : Schema.load d registry defaults = .ok s) (he : e ∈ s.entities) :
    e.KeyInOrder ∧ ∀ profile emitDdl p m, plan s profile emitDdl e = .ok p →
      m.columns.map (·.about) = p.fields.map (entry p) → KeyAgrees s e p m := by
  refine ⟨Schema.keyInOrder_of_load hload he, fun profile emitDdl p m hplan hentries => ?_⟩
  have habout := hentries.trans (entries_of_plan hplan)
  have hcolumns : m.partitionColumns = p.partition.map (·.column) := by
    rw [Schema.partitionColumns_of_about habout, ← partition_of_plan hplan, List.map_map]
    rfl
  have hkey : m.keyColumns = (p.partition ++ p.clustering).map (·.column) := by
    rw [Schema.keyColumns_of_about habout, ← partition_of_plan hplan, ← clustering_of_plan hplan,
      ← List.map_append, List.map_map]
    rfl
  obtain ⟨hnatural, hreversed⟩ := Schema.orderItems_of_about habout
  constructor
  · rw [hentries, List.map_map]
    refine List.map_congr_left fun f _ => ?_
    rw [columnText_eq, Function.comp_apply]
  · intro htable
    simp only [Schema.entityStatements, htable, Option.bind_none, List.head?_cons]
    exact congrArg some (Schema.createTable_eq habout)
  · intro name hview
    obtain ⟨base, hbase, hfound, -⟩ := Schema.base_of_load hload he hview
    refine ⟨base, hbase, hfound, ?_⟩
    simp only [Schema.entityStatements, hview, Option.bind_some, hfound, List.head?_cons]
    exact congrArg some (Schema.createView_eq habout base)
  · intro ss hstates entry hentry
    exact walk_of_entry (partition_ne_nil hload he hplan) hcolumns hkey hstates hentry
  · exact fun V hrecord => ⟨_, call?_naturalOrder hrecord, fun q => hnatural⟩
  · exact fun V hrecord => ⟨_, call?_reversedOrder hrecord, fun q => hreversed⟩
  · exact Schema.expressions_of_stored habout hload he
  · intro hcounters
    refine ⟨?_, fun r pairs => Schema.assignments_of_insert habout hcounters⟩
    rw [columns_of_isInserted hplan hcounters, Schema.names_of_stored habout]

/-- Readings of sensors by day, whose key is declared last and the other way around. -/
def keyedLast : Declaration where
  entities := [
    { name := "Reading"
      fields := [
        .typed "value" "int",
        (Declaration.Field.typed "unit" "text").asStatic,
        (Declaration.Field.typed "written" "bigint").asComputed "writetime" ["value"] "written",
        (Declaration.Field.typed "day" "date").inClustering 0 false,
        (Declaration.Field.typed "sensor" "bigint").inPartition 0] }]

/-- A mapping of numbers to the columns that the source of an entity lists. -/
def numbersOf (p : Plan) : Mapping :=
  ⟨p.entity.keyspace, p.entity.table,
    p.fields.map fun f => ⟨f.name, entry p f, false, Data, .native .int⟩⟩

theorem key_order_agrees_readings :
    ∃ s e p, Schema.load keyedLast {} {} = .ok s ∧ e ∈ s.entities
      ∧ plan s .cassandra30 true e = .ok p
      ∧ (numbersOf p).keyColumns = ["sensor", "day"]
      ∧ (numbersOf p).stored.map (·.name) = ["sensor", "day", "value", "unit"]
      ∧ e.KeyInOrder ∧ KeyAgrees s e p (numbersOf p) := by
  have hready : ((Schema.load keyedLast {} {}).toOption.bind fun s =>
      s.entities[0]?.bind fun e => (plan s .cassandra30 true e).toOption.map fun p =>
        ((numbersOf p).keyColumns, (numbersOf p).stored.map (·.name))) =
      some (["sensor", "day"], ["sensor", "day", "value", "unit"]) := by decide +kernel
  simp only [Option.bind_eq_some_iff, Option.map_eq_some_iff, Except.toOption_eq_some_iff,
    Prod.mk.injEq] at hready
  obtain ⟨s, hload, e, he, p, hplan, hkey, hstored⟩ := hready
  have hmem := List.mem_of_getElem? he
  obtain ⟨horder, hagrees⟩ := key_order_agrees hload hmem
  have hentries : (numbersOf p).columns.map (·.about) = p.fields.map (entry p) := by
    rw [numbersOf, List.map_map]
    rfl
  exact ⟨s, e, p, hload, hmem, hplan, hkey, hstored, horder,
    hagrees .cassandra30 true p (numbersOf p) hplan hentries⟩

end WideColumn.Builder
