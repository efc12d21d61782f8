/-
# Every chain makes a legal statement

A chain begins with a method of the manager, which makes a query and a first state, and goes on
from state to state until a method sends the query off.  Whatever is called on the way, the query
has one of the shapes that its family allows (`chain_is_legal`).

Two key columns with one name in upper camel case would share a state, and a chain could then go
on from the other one of the two.  So the names are asked to differ.
-/
import WideColumn.Builder.Entry
import WideColumn.Proofs.Builder.Families
import WideColumn.Proofs.Builder.Plan
import WideColumn.Proofs.Builder.StateNames

namespace WideColumn.Builder

open WideColumn.Source

/-! ## 1. Entry points -/

/-- Where a chain of one of the three families begins. -/
inductive Entry where
  | select (json : Bool)
  | update (ofStatics : Bool)
  | delete (ofStatics : Bool)

namespace Entry

/-- The method of the manager. -/
def member (p : Plan) : Entry → Member
  | select json => selectMember p json
  | update false => entryMember "update" "" (updateEntry p "Update") (ofKind p "Update")
  | update true => entryMember "update_static" "" (updateEntry p "UpdateStatic") (ofKind p "Update")
  | delete false => entryMember "delete" "" (deleteEntry p "Delete") (ofKind p "Delete")
  | delete true => deleteStaticMember p

/-- The state that the method makes. -/
def state (p : Plan) : Entry → String
  | select json => selectEntry p json
  | update false => updateEntry p "Update"
  | update true => updateEntry p "UpdateStatic"
  | delete false => deleteEntry p "Delete"
  | delete true => deleteEntry p "DeleteStatic"

/-- The query that the method makes. -/
def query (p : Plan) (m : Mapping) : Entry → Query
  | select json => m.select json
  | update _ => .on .update m.qualifiedTable
  | delete false => .on .delete m.qualifiedTable
  | delete true =>
    (Query.on .delete m.qualifiedTable).calls (p.statics.map fun f => .project f.column)

/-- The method of an entry point returns the state that its chains begin in. -/
theorem returns_member (entry : Entry) (p : Plan) :
    (entry.member p).returns = builderType (entry.state p) := by
  cases entry with
  | select json => rfl
  | update ofStatics => cases ofStatics <;> rfl
  | delete ofStatics => cases ofStatics <;> rfl

/-- The query of an entry point has gathered nothing that the shape of a statement is about. -/
theorem query_empty (entry : Entry) (p : Plan) (m : Mapping) :
    (entry.query p m).relationTexts = [] ∧ (entry.query p m).conditions = []
      ∧ (entry.query p m).ifExists = false := by
  have hprojected : ∀ (q : Query) (fs : List PlannedField),
      (q.calls (fs.map fun f => .project f.column)).relations = q.relations
        ∧ (q.calls (fs.map fun f => .project f.column)).conditions = q.conditions
        ∧ (q.calls (fs.map fun f => .project f.column)).ifExists = q.ifExists := by
    intro q fs
    induction fs generalizing q with
    | nil => exact ⟨rfl, rfl, rfl⟩
    | cons f fs ih => exact ih _
  cases entry with
  | select json => cases json <;> exact ⟨rfl, rfl, rfl⟩
  | update ofStatics => exact ⟨rfl, rfl, rfl⟩
  | delete ofStatics =>
    cases ofStatics with
    | false => exact ⟨rfl, rfl, rfl⟩
    | true =>
      obtain ⟨hrelations, hconditions, hexists⟩ :=
        hprojected (.on .delete m.qualifiedTable) p.statics
      exact ⟨by rw [Query.relationTexts, query, hrelations]; rfl, hconditions, hexists⟩

end Entry

/-! ## 2. Legal statements -/

/-- **A legal select**: one relation on each partition column, then equalities on the first
clustering columns and at most bounds of the next. -/
structure LegalSelect (partition clustering : List String) (q : Query) : Prop where
  relations : ∃ pins rest, q.relationTexts = pins ++ rest ∧ Pins partition pins
    ∧ Narrows clustering rest

/-- **A legal update**: some assignment, an equality on each key column, and one kind of
condition. -/
structure LegalUpdate (key : List String) (q : Query) : Prop where
  assigned : q.assignments ≠ []
  relations : q.relationTexts = key.map equality
  exclusive : ¬(q.ifExists = true ∧ q.conditions ≠ [])

/-- **A legal delete**: an equality on each partition column, then equalities on the first
clustering columns and at most bounds of the next; where ranges are not deleted, equalities on all
clustering columns or none. -/
structure LegalDelete (ranges : Bool) (partition clustering : List String) (q : Query) : Prop where
  relations : ∃ rest, q.relationTexts = partition.map equality ++ rest ∧ Narrows clustering rest
    ∧ (ranges = false → rest = [] ∨ rest = clustering.map equality)

/-- What an entry point allows for an entity, on a store of a profile. -/
def Entry.Legal (e : Schema.Entity) (profile : Profile) (entry : Entry) (q : Query) : Prop :=
  let partition := e.partitionFields.map (·.column)
  let clustering := e.clusteringFields.map (·.column)
  match entry with
  | .select _ => LegalSelect partition clustering q
  | .update false => LegalUpdate (partition ++ clustering) q
  | .update true => LegalUpdate partition q
  | .delete false => LegalDelete (profile.has .clusteringRangeDelete) partition clustering q
  | .delete true => LegalDelete (profile.has .clusteringRangeDelete) partition [] q

/-! ## 3. Families behind entry points -/

variable {p : Plan} {ss : List State} {entry : Entry}

/-- Which methods a manager has, by their names. -/
theorem name_of_mem_managerMembers {member : Member} (h : member ∈ managerMembers p) :
    member.name ∈ ["new", "select", "slice", "schema_statements"]
      ∨ member.name = "select_json" ∧ p.has .jsonStatements = true
      ∨ p.entity.isView = false ∧ (member.name ∈ ["insert", "insert_json", "delete",
          "index_select", "index_select_json"]
        ∨ member.name = "update" ∧ p.settable ≠ []
        ∨ member.name ∈ ["update_static", "delete_static"] ∧ p.statics ≠ []) := by
  simp only [managerMembers, inBothForms, sliceMembers, tableMembers, insertMembers, updateMembers,
    deleteMembers, List.mem_append, List.mem_cons, List.not_mem_nil, or_false,
    List.mem_ite_nil_left, List.mem_ite_nil_right, List.isEmpty_iff, Bool.not_eq_true] at h
  rcases h with (((rfl | rfl | ⟨hjson, rfl⟩) | ⟨-, rfl⟩) | ⟨htable, ((⟨-, rfl | ⟨-, rfl⟩⟩ |
    (⟨hset, rfl⟩ | ⟨hstatic, rfl⟩)) | (rfl | ⟨hstatic, rfl⟩)) | ⟨-, rfl | ⟨-, rfl⟩⟩⟩) | ⟨-, rfl⟩
  all_goals
    simp [newMember, selectMember, entryMember, deleteStaticMember, indexMember, statementsMember,
      *]

/-- **What an entry point tells of its entity**: JSON is begun only where the store knows it, and
a writing chain only for a table, and only if there is something to write. -/
theorem offered_of_mem_managerMembers (h : entry.member p ∈ managerMembers p) :
    match entry with
    | .select json => json = true → p.has .jsonStatements = true
    | .update false => p.entity.isView = false ∧ p.settable ≠ []
    | .delete false => p.entity.isView = false
    | .update true | .delete true => p.entity.isView = false ∧ p.statics ≠ [] := by
  have hname := name_of_mem_managerMembers h
  cases entry with
  | select json =>
    cases json with
    | false => simp
    | true => simpa [Entry.member, selectMember, entryMember] using hname
  | update ofStatics =>
    cases ofStatics <;> simpa [Entry.member, entryMember] using hname
  | delete ofStatics =>
    cases ofStatics with
    | false => simpa [Entry.member, entryMember] using hname
    | true => simpa [Entry.member, deleteStaticMember] using hname

/-- The states of the select families of an entity are among its states. -/
theorem selectStates_mem {json : Bool} (h : states p = .ok ss)
    (hjson : json = true → p.has .jsonStatements = true) : ∀ s ∈ selectStates p json, s ∈ ss := by
  have hreading : ∀ s ∈ selectStates p json, s ∈ readingStates p := by
    intro s hs
    rw [readingStates]
    cases json with
    | false => exact List.mem_append_left _ hs
    | true => exact List.mem_append_right _ (List.mem_ite_nil_right.mpr ⟨hjson rfl, hs⟩)
  intro s hs
  rcases states_cases h with ⟨-, rfl⟩ | ⟨-, _, _, -, -, rfl⟩
  · exact hreading s hs
  · simp [hreading s hs]

/-- The states of the update families of a table are among its states. -/
theorem updateFamily_mem (h : states p = .ok ss) (htable : p.entity.isView = false) :
    (p.settable ≠ [] → ∃ fs, updateFamily p "Update" p.settable (p.partition ++ p.clustering)
        p.testable = .ok fs ∧ ∀ s ∈ fs, s ∈ ss)
      ∧ (p.statics ≠ [] → ∃ tested fs, updateFamily p "UpdateStatic" p.statics p.partition tested =
        .ok fs ∧ ∀ s ∈ fs, s ∈ ss) := by
  rcases states_cases h with ⟨hview, -⟩ | ⟨-, updates, indexes, hupdates, -, rfl⟩
  · rw [htable] at hview
    cases hview
  · simp only [updateStates, updateFamilyIfAny, Except.bind_eq_ok_iff] at hupdates
    obtain ⟨whole, hwhole, static, hstatic, hupdates⟩ := hupdates
    cases hupdates
    refine ⟨?_, ?_⟩
    · intro hset
      rw [if_neg (by simpa using hset)] at hwhole
      exact ⟨whole, hwhole, fun s hs => by simp [hs]⟩
    · intro hset
      rw [if_neg (by simpa using hset)] at hstatic
      exact ⟨_, static, hstatic, fun s hs => by simp [hs]⟩

/-- The states of the delete families of a table are among its states. -/
theorem deleteFamily_mem (h : states p = .ok ss) (htable : p.entity.isView = false) :
    (∀ s ∈ deleteFamily p "Delete" p.clustering p.testable, s ∈ ss)
      ∧ (p.statics ≠ [] → ∀ s ∈ deleteFamily p "DeleteStatic" [] [], s ∈ ss) := by
  rcases states_cases h with ⟨hview, -⟩ | ⟨-, updates, indexes, -, -, rfl⟩
  · rw [htable] at hview
    cases hview
  · refine ⟨fun s hs => by simp [deleteStates, hs], fun hstatics s hs => ?_⟩
    have hsome : p.statics.isEmpty = false := by simpa using hstatics
    simp [deleteStates, hsome, hs]

/-! ## 4. All chains -/

/-- **Every chain makes a legal statement.**  From whichever method of the manager a chain begins,
and whatever methods it uses with whatever data, once it stands at a method that sends the query
off, the query has a shape that the entry point allows. -/
theorem chain_is_legal {d : Declaration} {registry : Schema.Registry} {defaults : Schema.Defaults}
    {schema : Schema} {e : Schema.Entity} {profile : Profile} {emitDdl : Bool} {V : Vocabulary}
    {m : Mapping} {uses : List (Use V)} {calls : List Query.Call} {last : State}
    (hload : Schema.load d registry defaults = .ok schema) (he : e ∈ schema.entities)
    (hkeys : ((e.partitionFields ++ e.clusteringFields).map (Text.pascalCase ·.name)).Nodup)
    (hplan : plan schema profile emitDdl e = .ok p) (hstates : states p = .ok ss)
    (hentry : entry.member p ∈ managerMembers p)
    (hchain : Chain V ss (entry.state p) uses calls last.name) (hlast : last ∈ ss)
    (hfinish : last.Finishes) :
    entry.Legal e profile ((entry.query p m).calls calls) := by
  have hpartition := partition_ne_nil hload he hplan
  have hmodels : (p.partition ++ p.clustering).map (·.model) =
      e.partitionFields ++ e.clusteringFields := by
    rw [List.map_append, partition_of_plan hplan, clustering_of_plan hplan]
  have hnodup : (ss.map (·.name)).Nodup := by
    refine nodup_names_states hstates ?_
    rw [← hmodels, List.map_map] at hkeys
    exact hkeys
  have hpart : e.partitionFields.map (·.column) = p.partition.map (·.column) := by
    rw [← partition_of_plan hplan, List.map_map]; rfl
  have hclust : e.clusteringFields.map (·.column) = p.clustering.map (·.column) := by
    rw [← clustering_of_plan hplan, List.map_map]; rfl
  have hranges : profile.has .clusteringRangeDelete = p.has .clusteringRangeDelete := by
    rw [Plan.has, profile_of_plan hplan]
  obtain ⟨actions, hmakes, hsends⟩ := hchain.sends hlast hfinish
  obtain ⟨hempty, hconditions, hexists⟩ := entry.query_empty p m
  have htexts : ((entry.query p m).calls calls).relationTexts =
      actions.flatMap Action.relations := by
    rw [relationTexts_calls hmakes, hempty, List.nil_append]
  have hoffered := offered_of_mem_managerMembers hentry
  have hexclusive : Exclusive actions → ¬(((entry.query p m).calls calls).ifExists = true
      ∧ ((entry.query p m).calls calls).conditions ≠ []) := by
    rintro (hnone | hnone) ⟨hif, hsome⟩
    · rw [ifExists_calls hmakes hnone, hexists] at hif
      cases hif
    · exact hsome (by rw [conditions_calls hmakes hnone, hconditions])
  cases entry with
  | select json =>
    obtain ⟨pins, rest, htold, hpins, hrest⟩ :=
      select_of_sends hnodup hpartition (selectStates_mem hstates hoffered) hsends
    simp only [Entry.Legal, hpart, hclust]
    exact ⟨pins, rest, htexts.trans htold, hpins, hrest⟩
  | update ofStatics =>
    cases ofStatics with
    | false =>
      obtain ⟨htable, hset⟩ := hoffered
      obtain ⟨fs, hfamily, hmem⟩ := (updateFamily_mem hstates htable).1 hset
      obtain ⟨hassigned, htold, hone⟩ := update_of_sends hnodup
        (List.append_ne_nil_of_left_ne_nil hpartition _) hfamily hmem hsends
      simp only [Entry.Legal, hpart, hclust, ← List.map_append]
      exact ⟨assignments_calls hmakes (Or.inr hassigned), htexts.trans htold, hexclusive hone⟩
    | true =>
      obtain ⟨htable, hset⟩ := hoffered
      obtain ⟨tested, fs, hfamily, hmem⟩ := (updateFamily_mem hstates htable).2 hset
      obtain ⟨hassigned, htold, hone⟩ := update_of_sends hnodup hpartition hfamily hmem hsends
      simp only [Entry.Legal, hpart]
      exact ⟨assignments_calls hmakes (Or.inr hassigned), htexts.trans htold, hexclusive hone⟩
  | delete ofStatics =>
    cases ofStatics with
    | false =>
      obtain ⟨rest, htold, hrest, hwhole⟩ :=
        delete_of_sends hnodup hpartition (deleteFamily_mem hstates hoffered).1 hsends
      simp only [Entry.Legal, hpart, hclust, hranges]
      exact ⟨rest, htexts.trans htold, hrest, hwhole⟩
    | true =>
      obtain ⟨htable, hset⟩ := hoffered
      obtain ⟨rest, htold, hrest, hwhole⟩ :=
        delete_of_sends hnodup hpartition ((deleteFamily_mem hstates htable).2 hset) hsends
      simp only [Entry.Legal, hpart, hranges]
      exact ⟨rest, htexts.trans htold, hrest, hwhole⟩

/-- Readings of sensors by day, each with a value. -/
def valuedReadings : Declaration where
  entities := [
    { name := "Reading"
      fields := [
        (Declaration.Field.typed "sensor" "bigint").inPartition 0,
        (Declaration.Field.typed "day" "int").inClustering 0 true,
        .typed "value" "int"] }]

/-- The uses of methods by which the value that sensor one gave on day three is taken away if the
reading exists, each with its state. -/
def valueRemoval : List (String × Use wholeNumbers) :=
  let native (type : String) := Encoding.codec (core "codec :: NativeCodec < " ++ type ++ " >")
  [("ReadingUpdateSet",
      ⟨change "value_set_null" (.assignLiteral "value = null")
        (some "ReadingUpdateSetOrWhere"), []⟩),
    ("ReadingUpdateSetOrWhere",
      ⟨change "sensor" (.relate "sensor = ?" ⟨"value", "i64", "sensor", native "i64"⟩)
        (some "ReadingUpdateWhereDay"), [.source "i64" (.bigint 1)]⟩),
    ("ReadingUpdateWhereDay",
      ⟨change "day" (.relate "day = ?" ⟨"value", "i32", "day", native "i32"⟩)
        (some "ReadingUpdateEnd"), [.source "i32" (.int 3)]⟩),
    ("ReadingUpdateEnd", ⟨change "if_exists" (.set .ifExists) (some "ReadingUpdateIfExists"), []⟩)]

/-- The calls that these methods make. -/
def valueRemovalCalls : List Query.Call :=
  [.assignLiteral "value = null", .relate "sensor = ?" ⟨"1", .ok (.bigint 1)⟩,
    .relate "day = ?" ⟨"3", .ok (.int 3)⟩, .ifExists]

theorem chain_is_legal_valueRemoval :
    ∃ schema e p ss, Schema.load valuedReadings {} {} = .ok schema ∧ e ∈ schema.entities
      ∧ plan schema .cassandra37 false e = .ok p ∧ states p = .ok ss
      ∧ Chain wholeNumbers ss ((Entry.update false).state p) (valueRemoval.map (·.2))
          valueRemovalCalls "ReadingUpdateIfExists"
      ∧ ∀ m, (Entry.update false).Legal e .cassandra37
          (((Entry.update false).query p m).calls valueRemovalCalls) := by
  have hready : ((Schema.load valuedReadings {} {}).toOption.bind fun schema =>
      schema.entities.head?.bind fun e => (plan schema .cassandra37 false e).toOption.bind fun p =>
        (states p).toOption.map fun ss => (decide ((e.partitionFields ++ e.clusteringFields).map
            (Text.pascalCase ·.name)).Nodup, p.entity.isView, p.settable.isEmpty, p.name,
          decide (∀ step ∈ valueRemoval, ∃ s ∈ ss, s.name = step.1 ∧ step.2.method ∈ s.methods),
          decide (∃ s ∈ ss, s.name = "ReadingUpdateIfExists" ∧ finish .statement ∈ s.methods))) =
      some (true, false, false, "Reading", true, true) := by decide +kernel
  simp only [Option.bind_eq_some_iff, Option.map_eq_some_iff, Except.toOption_eq_some_iff,
    Prod.mk.injEq, decide_eq_true_eq] at hready
  obtain ⟨schema, hload, e, he, p, hplan, ss, hstates, hkeys, htable, hset, hname, hsteps, last,
    hlast, hlastName, hfinish⟩ := hready
  have hmem := List.mem_of_mem_head? he
  have hstep : ∀ state name action next given,
      (state, ⟨change name action (some next), given⟩) ∈ valueRemoval →
        ∀ call, action.call? wholeNumbers given = some call →
          Chain wholeNumbers ss state [⟨change name action (some next), given⟩] [call] next := by
    intro state name action next given hstep call hmakes
    obtain ⟨s, hs, rfl, hmethod⟩ := hsteps _ hstep
    exact .single hs hmethod hmakes
  have hchain : Chain wholeNumbers ss ((Entry.update false).state p) (valueRemoval.map (·.2))
      valueRemovalCalls "ReadingUpdateIfExists" := by
    have hstart : (Entry.update false).state p = "ReadingUpdateSet" := by
      rw [Entry.state, updateEntry, Plan.item, hname]; rfl
    rw [hstart]
    exact (((hstep _ _ _ _ _ (by simp [valueRemoval]) _ (by rfl)).append
      (hstep _ _ _ _ _ (by simp [valueRemoval]) _ (by rfl))).append
      (hstep _ _ _ _ _ (by simp [valueRemoval]) _ (by rfl))).append
      (hstep _ _ _ _ _ (by simp [valueRemoval]) _ (by rfl))
  have hentry : (Entry.update false).member p ∈ managerMembers p := by
    simp [Entry.member, managerMembers, tableMembers, updateMembers, htable, hset]
  refine ⟨schema, e, p, ss, hload, hmem, hplan, hstates, hchain, fun m => ?_⟩
  exact chain_is_legal hload hmem hkeys hplan hstates hentry (hlastName ▸ hchain) hlast
    ⟨_, hfinish, _, rfl⟩

end WideColumn.Builder
