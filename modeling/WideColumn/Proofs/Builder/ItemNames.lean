/-
# Which generated names can meet

Generated source has two kinds of names that must not meet: the structures and constants of the
source as a whole, and the methods of one type.  In general they do not.  What is generated for one
entity begins with the entity's name and goes on in words of its own, and the methods of a state
differ in their words or in their endings.

What remains is in the hands of who names entities, columns and functions, and `names_apart_iff`
lists it.  The rules do not ask for it: the batch of `spellings_collide` breaks the last of its
clauses and is accepted.
-/
import WideColumn.Builder
import WideColumn.Proofs.Builder.FieldNames
import WideColumn.Proofs.Builder.FunctionNames
import WideColumn.Proofs.Builder.StateNames
import WideColumn.Proofs.Schema.View

namespace WideColumn.Builder

open WideColumn.Source

variable {p : Plan} {ss : List State} {its : List Item}

/-! ## 1. The states of an entity -/

/-- **What keeps the methods of each state of an entity apart.** -/
structure MethodsApart (p : Plan) : Prop where
  /-- Where functions can be called, the first partition column is not named like the call. -/
  call : p.schema.functions ≠ [] → ∀ f ∈ p.partition.head?, f.name ≠ "with_function"
  /-- No field is named like a part of another one that can be set. -/
  paths : p.entity.isView = false → (p.settable.flatMap (setPaths p)).Nodup
  /-- The first partition column is not named like an assignment. -/
  key : p.entity.isView = false →
    ∀ f ∈ p.partition.head?, f.name ∉ p.settable.flatMap (setterNames p)
  /-- A clustering column at which a delete can end is not named like a condition. -/
  tests : p.entity.isView = false → p.has .lightweightTransactions = true →
    ∀ f ∈ narrowed p 1 p.clustering, ∀ g ∈ p.testable, f.name ≠ "if_" ++ g.name

theorem nodup_readingStates_iff :
    (∀ s ∈ readingStates p, (methodNames s.methods).Nodup) ↔
      (p.schema.functions ≠ [] → ∀ f ∈ p.partition.head?, f.name ≠ "with_function") := by
  rw [readingStates, List.forall_mem_append, nodup_selectStates_iff]
  refine and_iff_left_of_imp fun hcall => ?_
  split
  · exact nodup_selectStates_iff.mpr hcall
  · simp

theorem IndexChains.nodup_methods (hnames : (p.fields.map (·.name)).Nodup)
    (hsingle : ∀ f ∈ p.fields, f.model.indexes.length ≤ 1) (h : IndexChains p ss) :
    ∀ s ∈ ss, (methodNames s.methods).Nodup := by
  cases h with
  | none => simp
  | records h => exact nodup_indexStates hnames hsingle h
  | both h hj =>
    exact List.forall_mem_append.mpr
      ⟨nodup_indexStates hnames hsingle h, nodup_indexStates hnames hsingle hj⟩

/-- **The methods of each state have names of their own exactly if these clauses hold.** -/
theorem nodup_methods_iff (hread : PartsReadable p) (hnames : (p.fields.map (·.name)).Nodup)
    (hsingle : ∀ f ∈ p.fields, f.model.indexes.length ≤ 1) (hpartition : p.partition ≠ [])
    (h : states p = .ok ss) :
    (∀ s ∈ ss, (methodNames s.methods).Nodup) ↔ MethodsApart p := by
  obtain ⟨f, others, hkey⟩ := List.exists_cons_of_ne_nil hpartition
  have htested : (p.testable.map (·.name)).Nodup :=
    (((List.filter_sublist.trans List.filter_sublist).map _).nodup hnames)
  rcases states_cases h with ⟨hview, rfl⟩ | ⟨htable, updates, indexes, hupdates, hindexes, rfl⟩
  · rw [nodup_readingStates_iff]
    refine ⟨fun hcall => ⟨hcall, ?_, ?_, ?_⟩, fun hapart => hapart.call⟩ <;>
      · intro htable
        simp [hview] at htable
  · simp only [List.forall_mem_append, nodup_readingStates_iff,
      nodup_updateStates_iff hread hnames hkey hupdates, nodup_deleteStates_iff htested]
    rw [and_iff_left (hindexes.nodup_methods hnames hsingle), and_iff_left nodup_insertStates]
    constructor
    · rintro ⟨⟨hcall, hpaths, hfirst⟩, htests⟩
      refine ⟨hcall, fun _ => hpaths, fun _ => ?_, fun _ => htests⟩
      simpa [hkey] using hfirst
    · rintro ⟨hcall, hpaths, hfirst, htests⟩
      exact ⟨⟨hcall, hpaths htable, hfirst htable f (by simp [hkey])⟩, htests htable⟩

/-! ## 2. The items of an entity -/

/-- The names that items add to the source as a whole. -/
def itemNames (its : List Item) : List String := its.filterMap Item.name?

/-- The methods that an item gives its type. -/
def memberNames : Item → List String
  | .methods _ _ _ members => members.map (·.name)
  | .structure .. | .constant .. | .conformance .. => []

@[simp] theorem itemNames_append (is js : List Item) :
    itemNames (is ++ js) = itemNames is ++ itemNames js := List.filterMap_append

theorem itemNames_states : itemNames (ss.flatMap State.items) = ss.map (·.name) := by
  induction ss with
  | nil => rfl
  | cons s ss ih =>
    rw [List.flatMap_cons, itemNames_append, ih, List.map_cons]
    rfl

/-- The methods of a manager, in order. -/
def managerWords : List String :=
  ["new", "select", "select_json", "slice", "insert", "insert_json", "update", "update_static",
    "delete", "delete_static", "index_select", "index_select_json", "schema_statements"]

theorem names_inBothForms {make : Bool → Member} :
    ((inBothForms p make).map (·.name)).Sublist [(make false).name, (make true).name] := by
  rw [inBothForms]
  split
  · exact .refl _
  · exact (List.nil_sublist _).cons_cons _

theorem names_sliceMembers : ((sliceMembers p).map (·.name)).Sublist ["slice"] := by
  rw [sliceMembers]
  split
  · exact List.nil_sublist _
  · exact .refl _

theorem names_insertMembers :
    ((insertMembers p).map (·.name)).Sublist ["insert", "insert_json"] := by
  rw [insertMembers]
  split
  · split
    · exact .refl _
    · exact (List.nil_sublist _).cons_cons _
  · exact List.nil_sublist _

theorem names_updateMembers :
    ((updateMembers p).map (·.name)).Sublist ["update", "update_static"] := by
  rw [updateMembers, List.map_append]
  have hsome : ∀ (c : Bool) (m : Member),
      ((if c then [] else [m]).map (·.name)).Sublist [m.name] := by
    intro c m
    cases c <;> simp
  exact (hsome _ _).append (hsome _ _)

theorem names_deleteMembers :
    ((deleteMembers p).map (·.name)).Sublist ["delete", "delete_static"] := by
  rw [deleteMembers]
  refine List.Sublist.cons_cons _ ?_
  split
  · exact List.nil_sublist _
  · exact .refl _

theorem names_tableMembers : ((tableMembers p).map (·.name)).Sublist
    ["insert", "insert_json", "update", "update_static", "delete", "delete_static",
      "index_select", "index_select_json"] := by
  have hindex : ((if p.indexed.isEmpty then [] else inBothForms p (indexMember p)).map
      (·.name)).Sublist ["index_select", "index_select_json"] := by
    split
    · exact List.nil_sublist _
    · exact names_inBothForms
  rw [tableMembers]
  split
  · exact List.nil_sublist _
  · simp only [List.map_append]
    exact ((names_insertMembers.append names_updateMembers).append names_deleteMembers).append
      hindex

/-- The methods of a manager have names of their own. -/
theorem nodup_managerMembers : ((managerMembers p).map (·.name)).Nodup := by
  have hddl : ((if p.emitDdl then [statementsMember p] else []).map (·.name)).Sublist
      ["schema_statements"] := by
    split
    · exact .refl _
    · exact List.nil_sublist _
  have hall : ((managerMembers p).map (·.name)).Sublist managerWords := by
    simp only [managerMembers, List.map_append, List.map_cons]
    exact (((names_inBothForms.cons_cons _).append names_sliceMembers).append
      names_tableMembers).append hddl
  exact hall.nodup (by decide)

/-- What the items of an entity add to the source: its record, its states and its manager. -/
theorem items_of_entityItems (h : entityItems p = .ok its) : ∃ ss, states p = .ok ss
    ∧ itemNames its = p.outline.itemEndings.map p.item
    ∧ ((∀ i ∈ its, (memberNames i).Nodup) ↔ ∀ s ∈ ss, (methodNames s.methods).Nodup) := by
  simp only [entityItems, Except.bind_eq_ok_iff] at h
  obtain ⟨ss, hss, h⟩ := h
  cases h
  refine ⟨ss, hss, ?_, ?_⟩
  · have hrecord : itemNames (recordItems p) = [p.item ""] := by
      rw [Plan.item, String.append_empty]
      rfl
    rw [itemNames_append, itemNames_append, itemNames_states, names_states hss, hrecord,
      Outline.itemEndings, List.map_cons, List.map_append]
    rfl
  · have hrecord : ∀ i ∈ recordItems p, (memberNames i).Nodup := by
      simp [recordItems, memberNames]
    have hmanager : ∀ i ∈ managerItems p, (memberNames i).Nodup := by
      simp [managerItems, memberNames, nodup_managerMembers]
    rw [List.forall_mem_append, List.forall_mem_append, and_iff_right hrecord,
      and_iff_left hmanager]
    simp only [List.forall_mem_flatMap]
    refine forall₂_congr fun s _ => ?_
    have hnames : (s.methods.map Method.member).map (·.name) = methodNames s.methods := List.map_map
    simp [State.items, memberNames, hnames]

/-! ## 3. The source as a whole -/

variable {schema : Schema} {profile : Profile} {emitDdl : Bool} {e : Schema.Entity}

/-- The names of the items of an entity: the name that is declared, with each ending. -/
def entityNames (profile : Profile) (e : Schema.Entity) : List String :=
  (Outline.ofEntity profile e).itemEndings.map (e.name ++ ·)

/-- The names that each user type, each entity, the functions and the statements add. -/
def ownedNames (schema : Schema) (profile : Profile) (emitDdl : Bool) : List (List String) :=
  schema.userTypes.map (fun u => [u.name])
    ++ schema.entities.map (entityNames profile)
    ++ (if schema.functions.isEmpty then [] else [["FunctionRegistry"]])
    ++ if emitDdl then [["SCHEMA_STATEMENTS"]] else []

/-- **What keeps the generated names of a schema apart.** -/
structure NamesApart (schema : Schema) (profile : Profile) (emitDdl : Bool) : Prop where
  /-- No two of the schema's parts add one name. -/
  owners : (ownedNames schema profile emitDdl).Pairwise List.Disjoint
  /-- The key columns of an entity differ in upper camel case. -/
  keys : ∀ e ∈ schema.entities,
    ((e.partitionFields ++ e.clusteringFields).map (Text.pascalCase ·.name)).Nodup
  /-- The names of columns leave the methods of an entity's states apart. -/
  methods : ∀ e ∈ schema.entities, ∀ p, plan schema profile emitDdl e = .ok p → MethodsApart p
  /-- Functions declared under different names have methods of different names. -/
  functions : FunctionsApart (schema.functions.map (·.name))

theorem itemNames_functionItems (h : functionItems schema = .ok its) :
    itemNames its = (if schema.functions.isEmpty then [] else [["FunctionRegistry"]]).flatten := by
  rw [functionItems] at h
  split at h
  · rename_i hnone
    cases h
    rw [if_pos hnone]
    rfl
  · rename_i hsome
    obtain ⟨ms, -, h⟩ := Except.bind_eq_ok_iff.mp h
    cases h
    rw [if_neg hsome]
    rfl

theorem nodup_memberNames_functionItems_iff (h : functionItems schema = .ok its) :
    (∀ i ∈ its, (memberNames i).Nodup) ↔ FunctionsApart (schema.functions.map (·.name)) := by
  rw [functionItems] at h
  split at h
  · rename_i hnone
    cases h
    rw [List.isEmpty_iff.mp hnone]
    exact ⟨fun _ i => i.elim0, fun _ => List.forall_mem_nil _⟩
  · obtain ⟨ms, hms, h⟩ := Except.bind_eq_ok_iff.mp h
    cases h
    rw [List.forall_mem_cons, List.forall_mem_singleton, memberNames, memberNames,
      and_iff_right List.nodup_nil, nodup_functionMembers_iff hms]

theorem of_userTypeItems {u : Schema.UserType} (hname : nameFault? u.name = none)
    (h : userTypeItems schema u = .ok its) :
    itemNames its = [u.name] ∧ ∀ i ∈ its, (memberNames i).Nodup := by
  simp only [userTypeItems, Except.bind_eq_ok_iff] at h
  obtain ⟨ident, hident, fields, -, h⟩ := h
  cases h
  obtain rfl := eq_of_name hname hident
  exact ⟨rfl, by simp [memberNames]⟩

theorem items_cases (h : items schema profile emitDdl = .ok its) :
    ∃ types entities functions, schema.userTypes.flatMapM (userTypeItems schema) = .ok types
      ∧ schema.entities.flatMapM (fun e => plan schema profile emitDdl e >>= entityItems) =
        .ok entities
      ∧ functionItems schema = .ok functions
      ∧ its = types ++ entities ++ functions
        ++ if emitDdl then [statementsItem schema] else [] := by
  simp only [items, Except.bind_eq_ok_iff] at h
  obtain ⟨-, -, types, htypes, entities, hentities, functions, hfunctions, h⟩ := h
  cases h
  exact ⟨types, entities, functions, htypes, hentities, hfunctions, rfl⟩

/-- The source for a schema has the states and the manager of each of its entities. -/
theorem entityItems_of_items (h : items schema profile emitDdl = .ok its)
    (he : e ∈ schema.entities) :
    ∃ p ss, plan schema profile emitDdl e = .ok p ∧ states p = .ok ss
      ∧ (∀ st ∈ ss, st.items ⊆ its) ∧ managerItems p ⊆ its := by
  obtain ⟨types, entities, functions, -, hentities, -, rfl⟩ := items_cases h
  obtain ⟨own, hown, hsub⟩ := (Except.forall_mem_flatMapM_iff hentities).mp (fun _ hi => hi) e he
  obtain ⟨p, hplan, hown⟩ := Except.bind_eq_ok_iff.mp hown
  obtain ⟨ss, hstates, hown⟩ := Except.bind_eq_ok_iff.mp hown
  cases hown
  have hall : entities ⊆ types ++ entities ++ functions
      ++ if emitDdl then [statementsItem schema] else [] := fun i hi => by simp [hi]
  refine ⟨p, ss, hplan, hstates, fun st hst i hi => hall (hsub i ?_),
    fun i hi => hall (hsub i (List.mem_append_right _ hi))⟩
  exact List.mem_append_left _ (List.mem_append_right _ (List.mem_flatMap.mpr ⟨st, hst, hi⟩))

/-- The source for a schema has the states of each of its entities. -/
theorem states_of_items (h : items schema profile emitDdl = .ok its) (he : e ∈ schema.entities) :
    ∃ p ss, plan schema profile emitDdl e = .ok p ∧ states p = .ok ss
      ∧ ∀ st ∈ ss, st.items ⊆ its := by
  obtain ⟨p, ss, hplan, hstates, hitems, -⟩ := entityItems_of_items h he
  exact ⟨p, ss, hplan, hstates, hitems⟩

variable {d : Declaration} {registry : Schema.Registry} {defaults : Schema.Defaults}

/-- The fields of an entity of an accepted batch have names of their own in source. -/
theorem nodup_names_of_plan (hload : Schema.load d registry defaults = .ok schema)
    (he : e ∈ schema.entities) (hplan : plan schema profile emitDdl e = .ok p) :
    (p.fields.map (·.name)).Nodup := by
  rw [names_of_plan (Schema.nameFault?_of_field hload he) hplan]
  exact ((Schema.orderedFields_perm e).map _).nodup_iff.mpr (Schema.nodup_names_of_load hload he)

/-- A field that is planned for an accepted batch has at most one index. -/
theorem length_indexes_of_plan (hload : Schema.load d registry defaults = .ok schema)
    (he : e ∈ schema.entities) (hplan : plan schema profile emitDdl e = .ok p) :
    ∀ f ∈ p.fields, f.model.indexes.length ≤ 1 := fun f hf =>
  Schema.length_indexes_of_load hload he f.model (planField_of_plan hplan f hf).1

/-- **What an entity of an accepted batch adds to the source** goes by its declared names. -/
theorem of_entity (hload : Schema.load d registry defaults = .ok schema) (he : e ∈ schema.entities)
    (hplan : plan schema profile emitDdl e = .ok p) (hits : entityItems p = .ok its) :
    itemNames its = entityNames profile e
      ∧ ((∀ i ∈ its, (memberNames i).Nodup) ↔ MethodsApart p) := by
  have hread : PartsReadable p := by
    intro u hu sub hsub ident hident
    rw [schema_of_plan hplan] at hu
    exact eq_of_name ((Schema.nameFault?_of_userType hload hu).2 sub hsub) hident
  have hname : p.name = e.name :=
    eq_of_name (Schema.nameFault?_of_entity hload he) (name_of_plan hplan)
  obtain ⟨ss, hstates, hnames, hmembers⟩ := items_of_entityItems hits
  refine ⟨?_, hmembers.trans ?_⟩
  · rw [hnames, outline_of_plan hplan, entityNames, ← hname]
    rfl
  · exact nodup_methods_iff hread (nodup_names_of_plan hload he hplan)
      (length_indexes_of_plan hload he hplan) (partition_ne_nil hload he hplan) hstates

theorem nodup_entityNames_iff : (entityNames profile e).Nodup ↔
    ((e.partitionFields ++ e.clusteringFields).map (Text.pascalCase ·.name)).Nodup := by
  have hinjective : Function.Injective (e.name ++ ·) := fun _ _ => (String.append_right_inj _).mp
  rw [entityNames, List.nodup_map_iff hinjective, Outline.nodup_itemEndings_iff, List.map_append]
  rfl

/-- The items of the whole source add the names that its parts own. -/
theorem itemNames_of_items (hload : Schema.load d registry defaults = .ok schema)
    (h : items schema profile emitDdl = .ok its) :
    itemNames its = (ownedNames schema profile emitDdl).flatten := by
  obtain ⟨types, entities, functions, htypes, hentities, hfunctions, rfl⟩ := items_cases h
  have hofTypes : itemNames types = schema.userTypes.flatMap fun u => [u.name] := by
    refine Except.filterMap_eq_of_flatMapM (fun u hu us hus => ?_) htypes
    exact (of_userTypeItems (Schema.nameFault?_of_userType hload hu).1 hus).1
  have hofEntities : itemNames entities = schema.entities.flatMap (entityNames profile) := by
    refine Except.filterMap_eq_of_flatMapM (fun e he is his => ?_) hentities
    obtain ⟨p, hplan, hown⟩ := Except.bind_eq_ok_iff.mp his
    exact (of_entity hload he hplan hown).1
  have hofDdl : itemNames (if emitDdl then [statementsItem schema] else []) =
      (if emitDdl then [["SCHEMA_STATEMENTS"]] else []).flatten := by
    cases emitDdl <;> rfl
  simp only [itemNames_append, ownedNames, List.flatten_append, hofTypes, hofEntities,
    itemNames_functionItems hfunctions, hofDdl, List.flatMap_def]

theorem nodup_ownedNames_iff : (∀ names ∈ ownedNames schema profile emitDdl, names.Nodup) ↔
    ∀ e ∈ schema.entities,
      ((e.partitionFields ++ e.clusteringFields).map (Text.pascalCase ·.name)).Nodup := by
  have hregistry : ∀ names ∈ if schema.functions.isEmpty then [] else [["FunctionRegistry"]],
      names.Nodup := by split <;> simp
  have hstatements : ∀ names ∈ if emitDdl then [["SCHEMA_STATEMENTS"]] else [], names.Nodup := by
    split <;> simp
  simp only [ownedNames, List.forall_mem_append, List.forall_mem_map, nodup_entityNames_iff]
  rw [and_iff_left hstatements, and_iff_left hregistry,
    and_iff_right fun _ _ => List.nodup_singleton _]

theorem nodup_memberNames_entities_iff (hload : Schema.load d registry defaults = .ok schema)
    (h : schema.entities.flatMapM (fun e => plan schema profile emitDdl e >>= entityItems) =
      .ok its) :
    (∀ i ∈ its, (memberNames i).Nodup) ↔ ∀ e ∈ schema.entities,
      ∀ p, plan schema profile emitDdl e = .ok p → MethodsApart p := by
  rw [Except.forall_mem_flatMapM_iff h]
  refine forall₂_congr fun e he => ⟨?_, fun hapart => ?_⟩
  · rintro ⟨own, hown, hnodup⟩ p hplan
    rw [hplan, Except.ok_bind] at hown
    exact (of_entity hload he hplan hown).2.mp hnodup
  · obtain ⟨own, hown⟩ := Except.exists_of_flatMapM h e he
    obtain ⟨p, hplan, hits⟩ := Except.bind_eq_ok_iff.mp hown
    exact ⟨own, hown, (of_entity hload he hplan hits).2.mpr (hapart p hplan)⟩

/-- **Generated names are distinct exactly if these clauses hold**: those of structures and
constants in the source as a whole, and those of methods for each type. -/
theorem names_apart_iff (hload : Schema.load d registry defaults = .ok schema)
    (h : items schema profile emitDdl = .ok its) :
    ((itemNames its).Nodup ∧ ∀ i ∈ its, (memberNames i).Nodup) ↔
      NamesApart schema profile emitDdl := by
  rw [itemNames_of_items hload h, List.nodup_flatten]
  obtain ⟨types, entities, functions, htypes, hentities, hfunctions, rfl⟩ := items_cases h
  have htypeMembers : ∀ i ∈ types, (memberNames i).Nodup := by
    intro i hi
    obtain ⟨u, hu, own, hown, hi⟩ := Except.exists_of_mem_flatMapM htypes i hi
    exact (of_userTypeItems (Schema.nameFault?_of_userType hload hu).1 hown).2 i hi
  have hddl : ∀ i ∈ if emitDdl then [statementsItem schema] else [], (memberNames i).Nodup := by
    cases emitDdl <;> simp [statementsItem, memberNames]
  rw [nodup_ownedNames_iff, List.forall_mem_append, List.forall_mem_append,
    List.forall_mem_append, and_iff_right htypeMembers, and_iff_left hddl,
    nodup_memberNames_entities_iff hload hentities, nodup_memberNames_functionItems_iff hfunctions]
  constructor
  · rintro ⟨⟨hkeys, howners⟩, hmethods, hcalls⟩
    exact ⟨howners, hkeys, hmethods, hcalls⟩
  · rintro ⟨howners, hkeys, hmethods, hcalls⟩
    exact ⟨⟨hkeys, howners⟩, hmethods, hcalls⟩

/-- Readings with the place where they are taken, and two functions of one name. -/
def placedReadings : Declaration where
  userTypes := [{ name := "Place", fields := [{ name := "floor", type := "int" }] }]
  entities := [
    { name := "Reading"
      fields := [
        (Declaration.Field.typed "sensor" "bigint").inPartition 0,
        (Declaration.Field.typed "day" "int").inClustering 0 true,
        (Declaration.Field.typed "value" "int").withIndex {},
        .typed "place" "place"] }]
  functions := [{ name := "score", returns := "int" },
    { name := "score", parameters := [⟨"least", "int"⟩], returns := "int" }]

theorem names_apart_iff_placed :
    ∃ schema its, Schema.load placedReadings {} {} = .ok schema
      ∧ items schema .cassandra37 true = .ok its
      ∧ (itemNames its).Nodup ∧ (∀ i ∈ its, (memberNames i).Nodup)
      ∧ NamesApart schema .cassandra37 true := by
  have hready : ((Schema.load placedReadings {} {}).toOption.bind fun schema =>
      (items schema .cassandra37 true).toOption.map fun its =>
        decide ((itemNames its).Nodup ∧ ∀ i ∈ its, (memberNames i).Nodup)) = some true := by
    decide +kernel
  simp only [Option.bind_eq_some_iff, Option.map_eq_some_iff, Except.toOption_eq_some_iff,
    decide_eq_true_eq] at hready
  obtain ⟨schema, hload, its, hitems, hnames, hmembers⟩ := hready
  exact ⟨schema, its, hload, hitems, hnames, hmembers,
    (names_apart_iff hload hitems).mp ⟨hnames, hmembers⟩⟩

/-- Two functions whose names are one in snake case. -/
def twoSpellings : Declaration where
  functions := [{ name := "fooBar", returns := "int" }, { name := "foo_bar", returns := "int" }]

/-- **Methods of one type may share a name.**  Functions are told apart by their declared names. -/
theorem spellings_collide :
    ∃ schema its, Schema.load twoSpellings {} {} = .ok schema
      ∧ items schema .cassandra30 false = .ok its
      ∧ ∃ i ∈ its, memberNames i = ["foo_bar", "foo_bar"] := by
  have hready : ((Schema.load twoSpellings {} {}).toOption.bind fun schema =>
      (items schema .cassandra30 false).toOption.map fun its =>
        decide (∃ i ∈ its, memberNames i = ["foo_bar", "foo_bar"])) = some true := by decide +kernel
  simp only [Option.bind_eq_some_iff, Option.map_eq_some_iff, Except.toOption_eq_some_iff,
    decide_eq_true_eq] at hready
  obtain ⟨schema, hload, its, hitems, hshared⟩ := hready
  exact ⟨schema, its, hload, hitems, hshared⟩

end WideColumn.Builder
