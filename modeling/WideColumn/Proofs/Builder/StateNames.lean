/-
# What belongs to an entity has a name of its own

Everything that is generated for an entity is named after it: the name of the entity, then an ENDING
that tells the family and the place.  Which endings there are is told by little of the entity, its
`Outline`, and by no method of it (`names_states`).

The states in which a key column is next end in the name of that column, so a whole GROUP of endings
begins with the same words and goes on in any way.  Two endings of different groups could be one
only if the words of one group begin those of the other.  They do not, whatever the columns are
called, so endings meet only within a group: where two key columns have one name in upper camel case
(`Outline.nodup_itemEndings_iff`).
-/
import Mathlib.Data.List.Nodup
import WideColumn.Builder
import WideColumn.Proofs.Builder.Plan
import WideColumn.Proofs.Except

namespace WideColumn.Builder

variable {p : Plan} {family : String} {json : Bool} {ss : List State} {words : List String}

/-! ## 1. Groups of endings -/

/-- Items of one entity differ in what comes after its name. -/
theorem Plan.item_injective (p : Plan) : Function.Injective p.item :=
  fun _ _ h => (String.append_right_inj p.name).mp h

/-- The endings of a family's states in which one of some key columns is next, by the names of the
columns in upper camel case. -/
def keyEndings (family : String) (keys : List String) : List String :=
  keys.map fun key => family ++ "Where" ++ key

theorem keyEndings_append {words' : List String} :
    keyEndings family (words ++ words') = keyEndings family words ++ keyEndings family words' :=
  List.map_append

/-- Endings that are made alike. -/
inductive Group where
  /-- The states of a family in which a key column is next. -/
  | key (family : String)
  /-- One item. -/
  | single (suffix : String)

namespace Group

/-- The words that the endings of a group begin with. -/
def lead : Group → String
  | key family => family ++ "Where"
  | single suffix => suffix

/-- The endings of a group. -/
def endings (keys : List String) : Group → List String
  | key family => keyEndings family keys
  | single suffix => [suffix]

/-- Whether an ending of a group could go on like this. -/
def covers : Group → String → Bool
  | key family, words => (family ++ "Where").toList.isPrefixOf words.toList
  | single suffix, words => suffix == words

/-- **Groups are apart** where neither could go on like the other. -/
def Apart (a b : Group) : Prop := a.covers b.lead = false ∧ b.covers a.lead = false

instance (a b : Group) : Decidable (Apart a b) :=
  inferInstanceAs (Decidable (a.covers b.lead = false ∧ b.covers a.lead = false))

/-- One text begins with words that stand before the rest of another. -/
theorem isPrefixOf_append (a rest : String) : a.toList.isPrefixOf (a ++ rest).toList = true := by
  rw [String.toList_append, List.isPrefixOf_iff_prefix]
  exact List.prefix_append _ _

/-- **Groups that are apart have no ending in common.** -/
theorem disjoint_endings {a b : Group} (h : Apart a b) :
    List.Disjoint (a.endings words) (b.endings words) := by
  intro n ha hb
  obtain ⟨hab, hba⟩ := h
  cases a with
  | single s =>
    obtain rfl := List.mem_singleton.mp ha
    cases b with
    | single t =>
      obtain rfl := List.mem_singleton.mp hb
      simp [covers, lead] at hab
    | key g =>
      obtain ⟨rest, -, rfl⟩ := List.mem_map.mp hb
      rw [lead, covers, isPrefixOf_append] at hba
      cases hba
  | key f =>
    obtain ⟨rest, -, rfl⟩ := List.mem_map.mp ha
    cases b with
    | single t =>
      rw [lead, ← List.mem_singleton.mp hb, covers, isPrefixOf_append] at hab
      cases hab
    | key g =>
      obtain ⟨rest', -, heq⟩ := List.mem_map.mp hb
      have hlist : (g ++ "Where").toList ++ rest'.toList =
          (f ++ "Where").toList ++ rest.toList := by
        rw [← String.toList_append, ← String.toList_append, heq]
      have hprefix := List.prefix_or_prefix_of_prefix (List.prefix_append (g ++ "Where").toList _)
        (hlist ▸ List.prefix_append (f ++ "Where").toList _)
      rcases hprefix with hgf | hfg
      · rw [covers, lead, List.isPrefixOf_iff_prefix.mpr hgf] at hba
        cases hba
      · rw [covers, lead, List.isPrefixOf_iff_prefix.mpr hfg] at hab
        cases hab

/-- The endings of a group differ if those of key columns do. -/
theorem nodup_endings (h : words.Nodup) (g : Group) : (g.endings words).Nodup := by
  cases g with
  | single => exact List.nodup_singleton _
  | key family => exact h.map fun _ _ heq => (String.append_right_inj _).mp heq

/-- The names of a group. -/
def names (p : Plan) : Group → List String
  | key family => (p.partition ++ p.clustering).map (p.stateFor family)
  | single suffix => [p.item suffix]

end Group

/-! ## 2. The groups of an entity -/

def selectGroups (json : Bool) : List Group :=
  [.key (selectFamily json), .single (selectFamily json ++ "End")]

def updateGroups (family : String) : List Group :=
  [.single (family ++ "Set"), .single (family ++ "SetOrWhere"), .key family,
    .single (family ++ "End"), .single (family ++ "IfExists"), .single (family ++ "If")]

def deleteGroups (family : String) : List Group :=
  [.key family, .single (family ++ "End"), .single (family ++ "IfExists"),
    .single (family ++ "If")]

def indexGroups (json : Bool) : List Group :=
  [.single (indexFamily json), .single (indexFamily json ++ "End")]

/-- The groups of all states but those of the index chains. -/
def keyedGroups : List Group :=
  selectGroups false ++ selectGroups true ++ [.single "Insert"]
    ++ (updateGroups "Update" ++ updateGroups "UpdateStatic")
    ++ (deleteGroups "Delete" ++ deleteGroups "DeleteStatic")

/-- The groups of the states of an entity. -/
def stateGroups : List Group := keyedGroups ++ (indexGroups false ++ indexGroups true)

/-- The groups of all items of an entity: its record, its states and its manager. -/
def itemGroups : List Group := .single "" :: (stateGroups ++ [.single "Manager"])

theorem pairwise_apart_itemGroups : itemGroups.Pairwise Group.Apart := by decide +kernel

/-- **The items of an entity have endings of their own**, unless two key columns have one name in
upper camel case. -/
theorem nodup_endings_itemGroups (h : words.Nodup) :
    (itemGroups.flatMap (Group.endings words)).Nodup :=
  List.nodup_flatMap.mpr ⟨fun g _ => Group.nodup_endings h g,
    pairwise_apart_itemGroups.imp Group.disjoint_endings⟩

/-! ## 3. The endings of an entity -/

/-- The endings of the states that conditions lead to. -/
def conditionEndings (profile : Profile) (family : String) (tested : Bool) : List String :=
  if profile.has .lightweightTransactions then
    (family ++ "IfExists") :: if tested then [family ++ "If"] else []
  else []

def selectEndings (json : Bool) (keys : List String) : List String :=
  keyEndings (selectFamily json) keys ++ [selectFamily json ++ "End"]

/-- The endings of an update family: none without something to set or a key column. -/
def updateEndings (profile : Profile) (family : String) (settable : Bool) (keys : List String)
    (tested : Bool) : List String :=
  match settable, keys with
  | true, _ :: others =>
    [family ++ "Set", family ++ "SetOrWhere"] ++ keyEndings family others
      ++ (family ++ "End") :: conditionEndings profile family tested
  | _, _ => []

def deleteEndings (profile : Profile) (family : String) (keys : List String) (tested : Bool) :
    List String :=
  keyEndings family keys ++ (family ++ "End") :: conditionEndings profile family tested

def indexEndings (json : Bool) : List String := [indexFamily json, indexFamily json ++ "End"]

/-- **What the names of an entity's items depend on**: the store, the names of key columns in upper
camel case, and which kinds of fields there are. -/
structure Outline where
  profile : Profile
  isView : Bool
  insertable : Bool
  partition : List String
  clustering : List String
  settable : Bool
  testable : Bool
  statics : Bool
  testableStatics : Bool
  indexed : Bool

namespace Outline

/-- The outline of a declared entity. -/
def ofEntity (profile : Profile) (e : Schema.Entity) : Outline where
  profile := profile
  isView := e.isView
  insertable := !e.isView && !e.hasCounters
  partition := e.partitionFields.map (Text.pascalCase ·.name)
  clustering := e.clusteringFields.map (Text.pascalCase ·.name)
  settable := e.fields.any fun f => !f.isKey && !f.role.isComputed
  testable := e.fields.any fun f => !f.isKey && !f.role.isComputed && !f.role.isCounter
  statics := e.fields.any (·.role.isStatic)
  testableStatics := e.fields.any fun f => f.role.isStatic && !f.role.isCounter
  indexed := e.fields.any (!·.indexes.isEmpty)

variable (o : Outline)

def keys : List String := o.partition ++ o.clustering

def readingEndings : List String :=
  selectEndings false o.keys
    ++ if o.profile.has .jsonStatements then selectEndings true o.keys else []

def insertEndings : List String := if o.insertable then ["Insert"] else []

def updatingEndings : List String :=
  updateEndings o.profile "Update" o.settable o.keys o.testable
    ++ updateEndings o.profile "UpdateStatic" o.statics o.partition o.testableStatics

def deletingEndings : List String :=
  deleteEndings o.profile "Delete" o.keys o.testable
    ++ if o.statics then deleteEndings o.profile "DeleteStatic" o.partition false else []

def indexedEndings : List String :=
  if o.indexed then
    indexEndings false ++ if o.profile.has .jsonStatements then indexEndings true else []
  else []

/-- The endings of the states of a table but those of its index chains. -/
def keyedEndings : List String :=
  o.readingEndings ++ o.insertEndings ++ o.updatingEndings ++ o.deletingEndings

/-- The endings of an entity's states. -/
def stateEndings : List String :=
  if o.isView then o.readingEndings else o.keyedEndings ++ o.indexedEndings

/-- The endings of an entity's items: its record has none, then come its states and its manager. -/
def itemEndings : List String := "" :: (o.stateEndings ++ ["Manager"])

end Outline

/-! ## 4. Endings are apart -/

theorem sublist_conditionEndings {profile : Profile} {tested : Bool} :
    (conditionEndings profile family tested).Sublist [family ++ "IfExists", family ++ "If"] := by
  rw [conditionEndings]
  split
  · cases tested <;> simp
  · exact List.nil_sublist _

theorem sublist_selectEndings : (selectEndings json words).Sublist
    ((selectGroups json).flatMap (Group.endings words)) := .refl _

theorem sublist_updateEndings {profile : Profile} {settable tested : Bool} {ks : List String}
    (h : ks.Sublist words) : (updateEndings profile family settable ks tested).Sublist
      ((updateGroups family).flatMap (Group.endings words)) := by
  unfold updateEndings
  split
  · rename_i first others
    have hothers : (keyEndings family others).Sublist (keyEndings family words) :=
      ((List.sublist_cons_self first others).trans h).map _
    exact ((hothers.append (sublist_conditionEndings.cons_cons _)).cons_cons _).cons_cons _
  · exact List.nil_sublist _

theorem sublist_deleteEndings {profile : Profile} {tested : Bool} {ks : List String}
    (h : ks.Sublist words) : (deleteEndings profile family ks tested).Sublist
      ((deleteGroups family).flatMap (Group.endings words)) :=
  (h.map _).append (sublist_conditionEndings.cons_cons _)

namespace Outline

variable {o : Outline}

theorem sublist_keyedEndings :
    o.keyedEndings.Sublist (keyedGroups.flatMap (Group.endings o.keys)) := by
  have hpartition : o.partition.Sublist o.keys := List.sublist_append_left _ _
  have hreading : o.readingEndings.Sublist
      ((selectGroups false ++ selectGroups true).flatMap (Group.endings o.keys)) := by
    rw [readingEndings, List.flatMap_append]
    refine sublist_selectEndings.append ?_
    split
    · exact sublist_selectEndings
    · exact List.nil_sublist _
  have hinsert : o.insertEndings.Sublist ([.single "Insert"].flatMap (Group.endings o.keys)) := by
    rw [insertEndings]
    split
    · exact .refl _
    · exact List.nil_sublist _
  have hupdating : o.updatingEndings.Sublist
      ((updateGroups "Update" ++ updateGroups "UpdateStatic").flatMap (Group.endings o.keys)) := by
    rw [List.flatMap_append]
    exact (sublist_updateEndings (.refl _)).append (sublist_updateEndings hpartition)
  have hdeleting : o.deletingEndings.Sublist
      ((deleteGroups "Delete" ++ deleteGroups "DeleteStatic").flatMap (Group.endings o.keys)) := by
    rw [deletingEndings, List.flatMap_append]
    refine (sublist_deleteEndings (.refl _)).append ?_
    split
    · exact sublist_deleteEndings hpartition
    · exact List.nil_sublist _
  simp only [keyedEndings, keyedGroups]
  rw [List.flatMap_append, List.flatMap_append, List.flatMap_append]
  exact ((hreading.append hinsert).append hupdating).append hdeleting

theorem sublist_indexedEndings : o.indexedEndings.Sublist
    ((indexGroups false ++ indexGroups true).flatMap (Group.endings o.keys)) := by
  rw [indexedEndings, List.flatMap_append]
  split
  · refine List.Sublist.append (.refl _) ?_
    split
    · exact .refl _
    · exact List.nil_sublist _
  · exact List.nil_sublist _

theorem readingEndings_sublist : o.readingEndings.Sublist o.keyedEndings := by
  simp only [keyedEndings, List.append_assoc]
  exact List.sublist_append_left _ _

theorem sublist_stateEndings :
    o.stateEndings.Sublist (stateGroups.flatMap (Group.endings o.keys)) := by
  rw [stateEndings, stateGroups, List.flatMap_append]
  split
  · exact (readingEndings_sublist.trans sublist_keyedEndings).trans (List.sublist_append_left _ _)
  · exact sublist_keyedEndings.append sublist_indexedEndings

/-- **The items of an entity have endings of their own exactly if its key columns do** in upper
camel case. -/
theorem nodup_itemEndings_iff : o.itemEndings.Nodup ↔ o.keys.Nodup := by
  constructor
  · intro hnodup
    -- a select chain has a state for each key column
    have hselect : (keyEndings "Select" o.keys).Sublist o.stateEndings := by
      have hreading : (keyEndings "Select" o.keys).Sublist o.readingEndings :=
        (List.sublist_append_left _ _).trans (List.sublist_append_left _ _)
      rw [stateEndings]
      split
      · exact hreading
      · exact (hreading.trans readingEndings_sublist).trans (List.sublist_append_left _ _)
    exact ((List.nodup_cons.mp hnodup).2.of_append_left.sublist hselect).of_map
  · intro hkeys
    refine (nodup_endings_itemGroups hkeys).sublist ?_
    rw [itemEndings, itemGroups, List.flatMap_cons, List.flatMap_append]
    exact (sublist_stateEndings.append (.refl _)).cons_cons _

end Outline

/-! ## 5. The names of states by their endings -/

/-- The outline of a planned entity. -/
def Plan.outline (p : Plan) : Outline where
  profile := p.profile
  isView := p.entity.isView
  insertable := p.isInsertable
  partition := p.partition.map (·.pascal)
  clustering := p.clustering.map (·.pascal)
  settable := !p.settable.isEmpty
  testable := !p.testable.isEmpty
  statics := !p.statics.isEmpty
  testableStatics := !(p.statics.filter (!·.model.role.isCounter)).isEmpty
  indexed := !p.indexed.isEmpty

theorem names_partitionStates {after : String} {first : Bool} {fs : List PlannedField} :
    (partitionStates p family after first fs).map (·.name) = fs.map (p.stateFor family) := by
  induction fs generalizing first with
  | nil => rfl
  | cons f fs ih => rw [partitionStates, List.map_cons, List.map_cons, ih]

theorem names_clusteringStates {last : String} {lastMethods : List Method} {position : Nat}
    {fs : List PlannedField} :
    (clusteringStates p family last lastMethods position fs).map (·.name) =
      fs.map (p.stateFor family) := by
  induction fs generalizing position with
  | nil => rfl
  | cons f fs ih => rw [clusteringStates, List.map_cons, List.map_cons, ih]

theorem names_narrowingStates {last : String} {lastMethods : List Method} {position : Nat}
    {fs : List PlannedField} :
    (narrowingStates p family last lastMethods position fs).map (·.name) =
      fs.map (p.stateFor family) := by
  induction fs generalizing position with
  | nil => rfl
  | cons f fs ih => rw [narrowingStates, List.map_cons, List.map_cons, ih]

theorem names_keyStates {after : String} {fs : List PlannedField} :
    (keyStates p family after fs).map (·.name) = fs.map (p.stateFor family) := by
  induction fs with
  | nil => rfl
  | cons f fs ih => rw [keyStates, List.map_cons, List.map_cons, ih]

@[simp] theorem has_outline {f : Feature} : p.outline.profile.has f = p.has f := rfl

@[simp] theorem insertable_outline : p.outline.insertable = p.isInsertable := rfl

theorem map_stateFor {fs : List PlannedField} :
    fs.map (p.stateFor family) = (keyEndings family (fs.map (·.pascal))).map p.item := by
  rw [keyEndings, List.map_map, List.map_map]
  rfl

theorem names_selectStates :
    (selectStates p json).map (·.name) = (selectEndings json p.outline.keys).map p.item := by
  simp only [selectStates, List.map_append, names_partitionStates, names_clusteringStates,
    selectEndings, map_stateFor, Outline.keys, keyEndings_append]
  rfl

theorem names_conditionalStates {tested : List PlannedField} {tail : List Method} :
    (conditionalStates p family tested tail).map (·.name) =
      (conditionEndings p.profile family (!tested.isEmpty)).map p.item := by
  rw [conditionalStates, conditionEndings, Plan.has]
  split
  · cases tested <;> rfl
  · rfl

theorem names_updateFamilyIfAny {settable keys tested : List PlannedField}
    (h : updateFamilyIfAny p family settable keys tested = .ok ss) :
    ss.map (·.name) = (updateEndings p.profile family (!settable.isEmpty)
      (keys.map (·.pascal)) (!tested.isEmpty)).map p.item := by
  rw [updateFamilyIfAny] at h
  split at h
  · rename_i hnone
    cases h
    rw [hnone]
    rfl
  · rename_i hsome
    cases keys with
    | nil =>
      cases h
      simp [updateEndings]
    | cons first others =>
      simp only [updateFamily, Except.bind_eq_ok_iff] at h
      obtain ⟨firstMethods, -, moreMethods, -, h⟩ := h
      cases h
      rw [Bool.not_eq_true] at hsome
      simp [updateEndings, hsome, names_keyStates, map_stateFor, names_conditionalStates,
        Plan.lastState]

theorem names_deleteFamily {clustering tested : List PlannedField} :
    (deleteFamily p family clustering tested).map (·.name) =
      (deleteEndings p.profile family ((p.partition ++ clustering).map (·.pascal))
        (!tested.isEmpty)).map p.item := by
  simp [deleteFamily, deleteEndings, names_keyStates, names_narrowingStates, map_stateFor,
    names_conditionalStates, keyEndings_append, Plan.lastState]

theorem names_indexStates (h : indexStates p json = .ok ss) :
    ss.map (·.name) = (indexEndings json).map p.item := by
  simp only [indexStates, Except.bind_eq_ok_iff] at h
  obtain ⟨first, -, more, -, h⟩ := h
  cases h
  rfl

/-! ## 6. All states -/

/-- The states of the reading chains. -/
def readingStates (p : Plan) : List State :=
  selectStates p false ++ if p.has .jsonStatements then selectStates p true else []

theorem names_readingStates :
    (readingStates p).map (·.name) = p.outline.readingEndings.map p.item := by
  rw [readingStates, Outline.readingEndings, has_outline]
  split <;> simp [names_selectStates]

theorem names_insertStates :
    (insertStates p).map (·.name) = p.outline.insertEndings.map p.item := by
  rw [insertStates, Outline.insertEndings, insertable_outline]
  cases p.isInsertable <;> rfl

theorem names_updateStates (h : updateStates p = .ok ss) :
    ss.map (·.name) = p.outline.updatingEndings.map p.item := by
  simp only [updateStates, Except.bind_eq_ok_iff] at h
  obtain ⟨whole, hwhole, static, hstatic, h⟩ := h
  cases h
  rw [List.map_append, names_updateFamilyIfAny hwhole, names_updateFamilyIfAny hstatic,
    Outline.updatingEndings, List.map_append, Outline.keys, List.map_append]
  rfl

theorem names_deleteStates :
    (deleteStates p).map (·.name) = p.outline.deletingEndings.map p.item := by
  rw [deleteStates, Outline.deletingEndings, List.map_append, List.map_append, names_deleteFamily]
  cases hstatics : p.statics.isEmpty with
  | true => simp [Plan.outline, Outline.keys, hstatics]
  | false => simp [Plan.outline, Outline.keys, hstatics, names_deleteFamily]

/-- The states of the index chains: none without an index, those that read records, or those that
read JSON as well. -/
inductive IndexChains (p : Plan) : List State → Prop
  | none : IndexChains p []
  | records {ss : List State} (h : indexStates p false = .ok ss) : IndexChains p ss
  | both {ss js : List State} (h : indexStates p false = .ok ss)
      (hj : indexStates p true = .ok js) : IndexChains p (ss ++ js)

/-- The states of the index chains, if there is an index. -/
def indexChains (p : Plan) : Except GenerationError (List State) :=
  if p.indexed.isEmpty then pure []
  else do
    let records ← indexStates p false
    let json ← if p.has .jsonStatements then indexStates p true else pure []
    return records ++ json

theorem IndexChains.of_indexChains (h : indexChains p = .ok ss) : IndexChains p ss := by
  rw [indexChains] at h
  split at h
  · cases h
    exact .none
  · obtain ⟨records, hrecords, h⟩ := Except.bind_eq_ok_iff.mp h
    split at h
    · obtain ⟨json, hjson, h⟩ := Except.bind_eq_ok_iff.mp h
      cases h
      exact .both hrecords hjson
    · cases h
      rw [List.append_nil]
      exact .records hrecords

theorem names_indexChains (h : indexChains p = .ok ss) :
    ss.map (·.name) = p.outline.indexedEndings.map p.item := by
  rw [indexChains] at h
  rw [Outline.indexedEndings]
  cases hindexed : p.indexed.isEmpty with
  | true =>
    rw [if_pos hindexed] at h
    cases h
    simp [Plan.outline, hindexed]
  | false =>
    rw [if_neg (by simp [hindexed])] at h
    obtain ⟨records, hrecords, h⟩ := Except.bind_eq_ok_iff.mp h
    rw [if_pos (by simp [Plan.outline, hindexed]), has_outline]
    split at h <;> rename_i hjson
    · obtain ⟨json, hmade, h⟩ := Except.bind_eq_ok_iff.mp h
      cases h
      simp [hjson, names_indexStates hrecords, names_indexStates hmade]
    · cases h
      simp [hjson, names_indexStates hrecords]

/-- The states of an entity, chain by chain. -/
theorem states_eq : states p =
    if p.entity.isView then .ok (readingStates p)
    else do
      let updates ← updateStates p
      let indexes ← indexChains p
      return readingStates p ++ insertStates p ++ updates ++ deleteStates p ++ indexes := by
  rw [states, indexChains]
  simp only [readingStates]
  split
  · rfl
  · split
    · simp only [pure_bind]
    · split <;> simp only [pure_bind, bind_assoc]

/-- **What the states of an entity are**: those of the reading chains and, for a table, those of
the writing and of the index chains. -/
theorem states_cases (h : states p = .ok ss) :
    p.entity.isView = true ∧ ss = readingStates p ∨
      p.entity.isView = false ∧ ∃ updates indexes, updateStates p = .ok updates
        ∧ IndexChains p indexes
        ∧ ss = readingStates p ++ insertStates p ++ updates ++ deleteStates p ++ indexes := by
  rw [states_eq] at h
  cases hview : p.entity.isView with
  | true =>
    rw [hview] at h
    cases h
    exact Or.inl ⟨rfl, rfl⟩
  | false =>
    simp only [hview, Bool.false_eq_true, if_false, Except.bind_eq_ok_iff] at h
    obtain ⟨updates, hupdates, indexes, hindexes, h⟩ := h
    cases h
    exact Or.inr ⟨rfl, updates, indexes, hupdates, .of_indexChains hindexes, rfl⟩

/-- The states of a table but those of the index chains. -/
def keyedStates (p : Plan) (updates : List State) : List State :=
  readingStates p ++ insertStates p ++ updates ++ deleteStates p

theorem names_keyedStates {updates : List State} (h : updateStates p = .ok updates) :
    (keyedStates p updates).map (·.name) = p.outline.keyedEndings.map p.item := by
  simp only [keyedStates, Outline.keyedEndings, List.map_append, names_readingStates,
    names_insertStates, names_updateStates h, names_deleteStates]

/-- **The states of an entity are named by its outline.** -/
theorem names_states (h : states p = .ok ss) :
    ss.map (·.name) = p.outline.stateEndings.map p.item := by
  rw [states_eq] at h
  rw [Outline.stateEndings]
  split at h <;> rename_i hview
  · cases h
    rw [if_pos (by exact hview), names_readingStates]
  · simp only [Except.bind_eq_ok_iff] at h
    obtain ⟨updates, hupdates, indexes, hindexes, h⟩ := h
    cases h
    change (keyedStates p updates ++ indexes).map (·.name) = _
    rw [if_neg (by exact hview), List.map_append, List.map_append, names_keyedStates hupdates,
      names_indexChains hindexes]

theorem Group.map_endings {g : Group} : (g.endings p.outline.keys).map p.item = g.names p := by
  cases g with
  | single suffix => rfl
  | key family =>
    rw [endings, names, map_stateFor, Outline.keys, List.map_append]
    rfl

/-- Each state of an entity belongs to a group. -/
theorem exists_group_of_states (h : states p = .ok ss) :
    ∀ s ∈ ss, ∃ g ∈ stateGroups, s.name ∈ g.names p := by
  intro s hs
  have hname : s.name ∈ p.outline.stateEndings.map p.item :=
    names_states h ▸ List.mem_map_of_mem hs
  obtain ⟨ending, hending, hitem⟩ := List.mem_map.mp hname
  obtain ⟨g, hg, hmem⟩ := List.mem_flatMap.mp (Outline.sublist_stateEndings.subset hending)
  exact ⟨g, hg, Group.map_endings ▸ List.mem_map.mpr ⟨ending, hmem, hitem⟩⟩

/-- **The states of an entity have names of their own**, unless two key columns have one name in
upper camel case. -/
theorem nodup_names_states (h : states p = .ok ss)
    (hkeys : ((p.partition ++ p.clustering).map PlannedField.pascal).Nodup) :
    (ss.map (·.name)).Nodup := by
  have hnodup : p.outline.itemEndings.Nodup :=
    Outline.nodup_itemEndings_iff.mpr (by rwa [List.map_append] at hkeys)
  rw [names_states h]
  exact (List.nodup_cons.mp hnodup).2.of_append_left.map p.item_injective

/-! ## 7. Outlines by what is declared -/

variable {schema : Schema} {profile : Profile} {emitDdl : Bool} {e : Schema.Entity}

/-- A plan has a field of some kind exactly if one is declared. -/
theorem any_of_plan (h : plan schema profile emitDdl e = .ok p) (q : Schema.Field → Bool) :
    (!(p.fields.filter (q ·.model)).isEmpty) = e.fields.any q := by
  have hany : p.fields.any (q ·.model) = e.fields.any q := by
    rw [← (Schema.orderedFields_perm e).any_eq, ← models_of_plan h, List.any_map]
    rfl
  rw [← hany, Bool.eq_iff_iff]
  simp

/-- **A plan has the outline of the declared entity.** -/
theorem outline_of_plan (h : plan schema profile emitDdl e = .ok p) :
    p.outline = .ofEntity profile e := by
  have hwords {fs : List PlannedField} {gs : List Schema.Field} (hmodels : fs.map (·.model) = gs) :
      fs.map (·.pascal) = gs.map (Text.pascalCase ·.name) := by
    rw [← hmodels, List.map_map]
    rfl
  have hsettable := any_of_plan h fun f => !f.isKey && !f.role.isComputed
  have htestable := any_of_plan h fun f => !f.isKey && !f.role.isComputed && !f.role.isCounter
  have hstatics := any_of_plan h (·.role.isStatic)
  have htestableStatics := any_of_plan h fun f => f.role.isStatic && !f.role.isCounter
  have hindexed := any_of_plan h (!·.indexes.isEmpty)
  have htested {fs : List PlannedField} {q : PlannedField → Bool} :
      (fs.filter q).filter (!·.model.role.isCounter) =
        fs.filter fun f => q f && !f.model.role.isCounter := by
    rw [List.filter_filter]
    exact List.filter_congr fun _ _ => Bool.and_comm _ _
  simp only [Plan.outline, Outline.ofEntity, Plan.isInsertable, profile_of_plan h, entity_of_plan h,
    hwords (partition_of_plan h), hwords (clustering_of_plan h), Plan.testable, Plan.settable,
    Plan.statics, Plan.indexed, htested, hsettable, htestable, hstatics, htestableStatics, hindexed]

end WideColumn.Builder
