/-
# Indexes and the queries they serve

An index is made twice.  The store gets a statement that creates it ON A TARGET; the index chains
of the builders get THE RELATIONS that it serves.  Each goes by the kind of the index and the
declared shape of the field for itself, and so does the rule that says which kinds fit which shapes.

They meet.  Where the rule finds nothing, a native index makes one relation, and the target serves
it with operands of the types that the target is about (`served_of_nativeRelations`).  What either
side has for other kinds and shapes is never asked for.

A relation is told by the name of its field and an ending, and no two fields share one
(`eq_of_relates`).  So in every state of the index chains of an accepted batch a field has relations
exactly if it has an index (`indexes_queried`).
-/
import WideColumn.Proofs.Builder.ItemNames
import WideColumn.Proofs.Builder.Written
import WideColumn.Proofs.Schema.Dependencies

namespace WideColumn.Builder

open WideColumn.Schema WideColumn.Source

variable {p : Plan} {f g : PlannedField} {kind : IndexKind} {next : Option String} {m : Method}
  {ms : List Method} {types : List UserType}

/-! ## 1. Relations -/

/-- Whether an action adds a relation that an index has to serve. -/
def Action.relatesIndex : Action → Bool
  | relateIndex .. | relateLike .. | relateEntry .. | relateSearch _ => true
  | projectFunction | relate .. | relateAll .. | relateJson _ | relateRange .. | assign ..
  | assignLiteral _ | assignItem .. | condition .. | allowFiltering | set _ => false

/-- Whether a method adds a relation that an index has to serve. -/
def Method.relatesIndex (m : Method) : Bool :=
  match m.act with
  | .change _ action _ => action.relatesIndex
  | .finish _ => false

/-- **A relation method of a field**: named by the field and by an ending of relations. -/
def Method.Relates (m : Method) (f : PlannedField) : Prop :=
  m.relatesIndex = true ∧ m.name ∈ relationEndings.map (f.name ++ ·)

/-- **A relation is of one field only.** -/
theorem eq_of_relates (hnames : (p.fields.map (·.name)).Nodup) (hf : f ∈ p.fields)
    (hg : g ∈ p.fields) (hmf : m.Relates f) (hmg : m.Relates g) : f = g := by
  have hfree : ∀ s ∈ relationEndings, ∀ t ∈ relationEndings, s = t ∨ EndApart s t := by decide
  obtain ⟨s, hs, hsname⟩ := List.mem_map.mp hmf.2
  obtain ⟨t, ht, htname⟩ := List.mem_map.mp hmg.2
  have heq : f.name ++ s = g.name ++ t := hsname.trans htname.symm
  rcases hfree s hs t ht with rfl | hapart
  · exact List.inj_on_of_nodup_map hnames hf hg ((String.append_left_inj s).mp heq)
  · exact absurd heq (append_ne_of_endApart hapart _ _)

/-! ## 2. Targets -/

/-- **What the target of a native index serves** for a field: the text of the target, and the
relation with its operands.  A value of the whole field is bound by the codec of the field, a part
of it by the built-in codec of the part. -/
inductive Served (types : List UserType) (f : PlannedField) : String → Action → Prop
  /-- The column of what is no collection. -/
  | plain (hshape : f.model.shape.isCollection = false) :
      Served types f f.column (.relateIndex (f.relation "=") true (f.operand "value"))
  /-- A frozen collection as a whole. -/
  | full (hshape : f.model.shape.isCollection = true) (hfrozen : f.model.shape.frozen = true) :
      Served types f ("FULL(" ++ f.column ++ ")")
        (.relateIndex (f.relation "=") true (f.operand "value"))
  /-- The column of a list or a set, by its elements. -/
  | element {place : Place} {e : Shape} {t : String}
      (hshape : f.model.shape = .list place e ∨ f.model.shape = .set place e)
      (hopen : place.frozen = false) (ht : builtInType types e = .ok t) :
      Served types f f.column
        (.relateIndex (f.relation "CONTAINS") true (f.operandOf "value" t))
  /-- The values of a map. -/
  | value {place : Place} {k v : Shape} {t : String} (hshape : f.model.shape = .map place k v)
      (hopen : place.frozen = false) (ht : builtInType types v = .ok t) :
      Served types f ("VALUES(" ++ f.column ++ ")")
        (.relateIndex (f.relation "CONTAINS") true (f.operandOf "value" t))
  /-- The keys of a map. -/
  | key {place : Place} {k v : Shape} {t : String} (hshape : f.model.shape = .map place k v)
      (hopen : place.frozen = false) (ht : builtInType types k = .ok t) :
      Served types f ("KEYS(" ++ f.column ++ ")")
        (.relateIndex (f.relation "CONTAINS KEY") true (f.operandOf "value" t))
  /-- The entries of a map. -/
  | entry {place : Place} {k v : Shape} {tk tv : String} (hshape : f.model.shape = .map place k v)
      (hopen : place.frozen = false) (hk : builtInType types k = .ok tk)
      (hv : builtInType types v = .ok tv) :
      Served types f ("ENTRIES(" ++ f.column ++ ")")
        (.relateEntry (f.column ++ "[?] = ?") (f.operandOf "key" tk) (f.operandOf "value" tv))

theorem Served.relatesIndex {target : String} {action : Action} (h : Served types f target action) :
    action.relatesIndex = true := by
  cases h <;> rfl

/-- **Which shapes an index of a kind fits.** -/
def Fits (kind : IndexKind) (s : Shape) : Prop :=
  match kind with
  | .normal => s.isCollection = false
  | .full => s.isCollection = true ∧ s.frozen = true
  | .collection => s.isCollection = true ∧ s.frozen = false
  | .mapKey | .mapValue | .mapEntry => s.isMap = true ∧ s.frozen = false

/-- The rule about kinds finds nothing exactly if the kind fits. -/
theorem kindFaults_eq_nil_iff {s : Shape} : kindFaults kind s = [] ↔ Fits kind s := by
  cases kind <;> cases hcollection : s.isCollection <;> cases hmap : s.isMap <;>
    cases hfrozen : s.frozen <;> simp [kindFaults, Fits, hcollection, hmap, hfrozen]

theorem exists_of_isMap {s : Shape} (h : s.isMap = true ∧ s.frozen = false) :
    ∃ place k v, s = .map place k v ∧ place.frozen = false := by
  cases s with
  | map place k v => exact ⟨place, k, v, rfl, h.2⟩
  | scalar | counter | list | set | tuple | udt => cases h.1

/-- **A native index that fits makes one relation, and its target serves it.** -/
theorem served_of_nativeRelations (hfits : Fits kind f.model.shape)
    (h : nativeRelations p f kind next = .ok ms) :
    ∃ name action, ms = [change name action next]
      ∧ Served p.schema.userTypes f (nativeTarget f.model kind) action := by
  cases kind with
  | normal =>
    rw [nativeRelations] at h
    cases h
    exact ⟨_, _, rfl, .plain hfits⟩
  | full =>
    rw [nativeRelations] at h
    cases h
    exact ⟨_, _, rfl, .full hfits.1 hfits.2⟩
  | collection =>
    obtain ⟨hcollection, hopen⟩ := hfits
    rw [nativeRelations] at h
    obtain ⟨t, ht, h⟩ := Except.bind_eq_ok_iff.mp h
    cases h
    refine ⟨_, _, rfl, ?_⟩
    rw [nativeTarget]
    cases hshape : f.model.shape with
    | list place e =>
      rw [hshape] at ht hopen
      exact .element (.inl hshape) hopen ht
    | set place e =>
      rw [hshape] at ht hopen
      exact .element (.inr hshape) hopen ht
    | map place k v =>
      rw [hshape] at ht hopen
      exact .value hshape hopen ht
    | scalar | counter | tuple | udt =>
      rw [hshape] at hcollection
      cases hcollection
  | mapValue =>
    obtain ⟨place, k, v, hshape, hopen⟩ := exists_of_isMap hfits
    rw [nativeRelations, hshape] at h
    obtain ⟨t, ht, h⟩ := Except.bind_eq_ok_iff.mp h
    cases h
    exact ⟨_, _, rfl, .value hshape hopen ht⟩
  | mapKey =>
    obtain ⟨place, k, v, hshape, hopen⟩ := exists_of_isMap hfits
    rw [nativeRelations.eq_def, hshape] at h
    obtain ⟨t, ht, h⟩ := Except.bind_eq_ok_iff.mp h
    cases h
    exact ⟨_, _, rfl, .key hshape hopen ht⟩
  | mapEntry =>
    obtain ⟨place, k, v, hshape, hopen⟩ := exists_of_isMap hfits
    rw [nativeRelations.eq_def, hshape] at h
    obtain ⟨tk, hk, h⟩ := Except.bind_eq_ok_iff.mp h
    obtain ⟨tv, hv, h⟩ := Except.bind_eq_ok_iff.mp h
    cases h
    exact ⟨_, _, rfl, .entry hshape hopen hk hv⟩

/-! ## 3. The relations of an index -/

theorem relatesIndex_sasiRelations {mode : SasiMode} :
    ∀ m ∈ sasiRelations f mode next, m.relatesIndex = true := by
  cases mode <;> simp only [sasiRelations] <;> repeat' split
  all_goals simp [patterns, comparisons, relatePattern, relateWhole, change, Method.relatesIndex,
    Action.relatesIndex]

theorem relatesIndex_searchRelations {fullText : Bool} :
    ∀ m ∈ searchRelations f fullText next, m.relatesIndex = true := by
  rw [searchRelations, List.forall_mem_append]
  constructor <;> split
  all_goals simp [patterns, relatePattern, change, Method.relatesIndex, Action.relatesIndex]

/-- **An index that fits serves some relations of its field, and none of another.** -/
theorem relates_of_indexRelations {i : Schema.Index} (hfits : Fits i.kind f.model.shape)
    (h : indexRelations p f next i = .ok ms) : ms ≠ [] ∧ ∀ m ∈ ms, m.Relates f := by
  have hnames : ∀ m ∈ ms, m.name ∈ relationEndings.map (f.name ++ ·) := fun m hm =>
    (names_indexRelations h).subset (List.mem_map_of_mem hm)
  have hmade : ms ≠ [] ∧ ∀ m ∈ ms, m.relatesIndex = true := by
    rw [indexRelations] at h
    cases himplementation : i.implementation with
    | native =>
      rw [himplementation] at h
      obtain ⟨name, action, rfl, hserved⟩ := served_of_nativeRelations hfits h
      exact ⟨List.cons_ne_nil _ _, List.forall_mem_singleton.mpr hserved.relatesIndex⟩
    | sasi options =>
      rw [himplementation] at h
      cases h
      exact ⟨List.cons_ne_nil _ _, List.forall_mem_cons.mpr ⟨rfl, relatesIndex_sasiRelations⟩⟩
    | search options =>
      rw [himplementation] at h
      cases h
      exact ⟨List.cons_ne_nil _ _, List.forall_mem_cons.mpr ⟨rfl, relatesIndex_searchRelations⟩⟩
  exact ⟨hmade.1, fun m hm => ⟨hmade.2 m hm, hnames m hm⟩⟩

/-! ## 4. The relations of all indexes -/

/-- **A plan whose indexes fit**: its fields go by names of their own, and each has at most one
index, of a kind that fits. -/
structure Plan.Indexable (p : Plan) : Prop where
  names : (p.fields.map (·.name)).Nodup
  single : ∀ f ∈ p.fields, f.model.indexes.length ≤ 1
  fits : ∀ f ∈ p.fields, ∀ i ∈ f.model.indexes, Fits i.kind f.model.shape

section
variable (hp : p.Indexable) (h : allIndexRelations p next = .ok ms)
include hp h

/-- **Every relation is one of a field with an index.** -/
theorem exists_relates_of_mem (hm : m ∈ ms) :
    ∃ f ∈ p.fields, f.model.indexes ≠ [] ∧ m.Relates f := by
  obtain ⟨f, hf, i, hi, own, hown, hmem⟩ := exists_of_mem_allIndexRelations h hm
  have hrelates := (relates_of_indexRelations (hp.fits f hf i hi) hown).2 m hmem
  exact ⟨f, hf, List.ne_nil_of_mem hi, hrelates⟩

/-- The relations of a field are those that its index serves. -/
theorem mem_indexRelations_of_relates (hf : f ∈ p.fields) (hm : m ∈ ms) (hrelates : m.Relates f) :
    ∀ i ∈ f.model.indexes, ∃ own, indexRelations p f next i = .ok own ∧ m ∈ own := by
  intro i hi
  obtain ⟨g, hg, j, hj, own, hown, hmem⟩ := exists_of_mem_allIndexRelations h hm
  have hmg := (relates_of_indexRelations (hp.fits g hg j hj) hown).2 m hmem
  obtain rfl := eq_of_relates hp.names hf hg hrelates hmg
  obtain rfl := eq_of_length_le_one (hp.single f hf) hi hj
  exact ⟨own, hown, hmem⟩

/-- **A field has relations exactly if it has an index.** -/
theorem exists_relates_iff (hf : f ∈ p.fields) :
    (∃ m ∈ ms, m.Relates f) ↔ f.model.indexes ≠ [] := by
  constructor
  · rintro ⟨m, hm, hrelates⟩
    obtain ⟨g, hg, hindexed, hmg⟩ := exists_relates_of_mem hp h hm
    exact eq_of_relates hp.names hf hg hrelates hmg ▸ hindexed
  · intro hindexed
    obtain ⟨i, hi⟩ := List.exists_mem_of_ne_nil _ hindexed
    obtain ⟨own, hown, hsub⟩ := subset_of_allIndexRelations h hf hi
    obtain ⟨hsome, hrelates⟩ := relates_of_indexRelations (hp.fits f hf i hi) hown
    obtain ⟨m, hm⟩ := List.exists_mem_of_ne_nil _ hsome
    exact ⟨m, hsub hm, hrelates m hm⟩

end

/-! ## 5. The states of the index chains -/

/-- The states of an entity that belong to its index chains, by their names. -/
def indexSelects (p : Plan) (ss : List State) : List State :=
  ss.filter fun st => [indexEntry p false, p.lastState (indexFamily false), indexEntry p true,
    p.lastState (indexFamily true)].contains st.name

theorem indexSelects_append {ss ss' : List State} :
    indexSelects p (ss ++ ss') = indexSelects p ss ++ indexSelects p ss' :=
  List.filter_append ss ss'

/-- No other state is called like those of the index chains. -/
theorem indexSelects_eq_nil {ss : List State}
    (h : ss.map (·.name) ⊆ p.outline.keyedEndings.map p.item) : indexSelects p ss = [] := by
  have hapart : ∀ a ∈ keyedGroups, ∀ b ∈ indexGroups false ++ indexGroups true,
      Group.Apart a b := by decide +kernel
  refine List.filter_eq_nil_iff.mpr fun st hst hname => ?_
  obtain ⟨ending, hkeyed, hending⟩ := List.mem_map.mp (h (List.mem_map_of_mem hst))
  obtain ⟨ending', hindex, hending'⟩ :
      ∃ n ∈ indexEndings false ++ indexEndings true, p.item n = st.name :=
    List.mem_map.mp (List.contains_iff_mem.mp hname)
  obtain rfl := p.item_injective (hending'.trans hending.symm)
  obtain ⟨a, ha, hmem⟩ := List.mem_flatMap.mp (Outline.sublist_keyedEndings.subset hkeyed)
  obtain ⟨b, hb, hmem'⟩ : ∃ b ∈ indexGroups false ++ indexGroups true,
      ending' ∈ b.endings p.outline.keys := List.mem_flatMap.mp hindex
  exact Group.disjoint_endings (hapart a ha b hb) hmem hmem'

theorem indexSelects_of_indexChains {ss : List State} (h : indexChains p = .ok ss) :
    indexSelects p ss = ss := by
  refine List.filter_eq_self.mpr fun st hst => List.contains_iff_mem.mpr ?_
  have hname : st.name ∈ p.outline.indexedEndings.map p.item :=
    names_indexChains h ▸ List.mem_map_of_mem hst
  exact List.map_subset _ Outline.sublist_indexedEndings.subset hname

/-- **The states of the index chains**: none for a view, and for a table those made for its
indexes. -/
theorem indexSelects_of_states {ss : List State} (h : states p = .ok ss) :
    p.entity.isView = true ∧ indexSelects p ss = []
      ∨ p.entity.isView = false ∧ indexChains p = .ok (indexSelects p ss) := by
  rw [states_eq] at h
  cases hview : p.entity.isView with
  | true =>
    rw [hview] at h
    cases h
    refine .inl ⟨rfl, indexSelects_eq_nil ?_⟩
    rw [names_readingStates]
    exact List.map_subset _ Outline.readingEndings_sublist.subset
  | false =>
    simp only [hview, Bool.false_eq_true, if_false, Except.bind_eq_ok_iff] at h
    obtain ⟨updates, hupdates, chains, hchains, h⟩ := h
    cases h
    have hkeyed : indexSelects p (keyedStates p updates) = [] :=
      indexSelects_eq_nil (names_keyedStates hupdates ▸ List.Subset.refl _)
    have hselects : indexSelects p (keyedStates p updates ++ chains) = chains := by
      rw [indexSelects_append, hkeyed, indexSelects_of_indexChains hchains, List.nil_append]
    exact .inr ⟨rfl, hchains.trans (congrArg Except.ok hselects.symm)⟩

/-- Reading on adds no relations. -/
theorem relatesIndex_readMethods {json ordering : Bool} :
    ∀ m ∈ readMethods p json ordering, m.relatesIndex = false := by
  simp only [readMethods, readTerminals, consistencyMethods, List.forall_mem_append]
  refine ⟨⟨⟨⟨⟨?_, ?_⟩, ?_⟩, ?_⟩, ?_⟩, ?_⟩ <;> try split
  all_goals simp [setting, finish, change, Method.relatesIndex, Action.relatesIndex]

theorem exists_row_of_indexStates {json : Bool} {ss : List State}
    (h : indexStates p json = .ok ss) : ∀ st ∈ ss, ∃ next ms, allIndexRelations p next = .ok ms
      ∧ ∀ m, m.relatesIndex = true → (m ∈ st.methods ↔ m ∈ ms) := by
  simp only [indexStates, Except.bind_eq_ok_iff] at h
  obtain ⟨first, hfirst, more, hmore, h⟩ := h
  cases h
  refine List.forall_mem_cons.mpr ⟨⟨_, first, hfirst, fun _ _ => .rfl⟩, ?_⟩
  refine List.forall_mem_singleton.mpr ⟨_, more, hmore, fun m hm => ?_⟩
  have hread : m ∉ readMethods p json false := fun hmem => by
    simp [relatesIndex_readMethods m hmem] at hm
  have hfiltering : m ≠ change "allow_filtering" .allowFiltering none := by
    rintro rfl
    cases hm
  simp [hread, hfiltering]

/-- **What a state of an index chain relates is a row of the relations of all indexes.** -/
theorem exists_row_of_indexChains {ss : List State} (h : IndexChains p ss) : ∀ st ∈ ss,
    ∃ next ms, allIndexRelations p next = .ok ms
      ∧ ∀ m, m.relatesIndex = true → (m ∈ st.methods ↔ m ∈ ms) := by
  cases h with
  | none => exact List.forall_mem_nil _
  | records h => exact exists_row_of_indexStates h
  | both h hj =>
    exact List.forall_mem_append.mpr ⟨exists_row_of_indexStates h, exists_row_of_indexStates hj⟩

/-- Where a field has an index, there are index chains. -/
theorem indexChains_ne_nil {ss : List State} (h : indexChains p = .ok ss) (hf : f ∈ p.indexed) :
    ss ≠ [] := by
  have hsome : p.indexed.isEmpty = false := by simpa using List.ne_nil_of_mem hf
  simp only [indexChains, hsome, Bool.false_eq_true, if_false, Except.bind_eq_ok_iff] at h
  obtain ⟨records, hrecords, h⟩ := h
  have hrecord : records ≠ [] := by
    simp only [indexStates, Except.bind_eq_ok_iff] at hrecords
    obtain ⟨_, -, _, -, hrecords⟩ := hrecords
    cases hrecords
    exact List.cons_ne_nil _ _
  split at h
  · obtain ⟨json, -, h⟩ := Except.bind_eq_ok_iff.mp h
    cases h
    exact List.append_ne_nil_of_left_ne_nil hrecord json
  · cases h
    exact List.append_ne_nil_of_left_ne_nil hrecord []

/-! ## 6. Accepted batches -/

/-- **A field is queried by its index**, in the states of index chains. -/
structure Queried (s : Schema) (e : Entity) (f : PlannedField) (chains : List State) : Prop where
  /-- The types of the whole field are those of its strategy. -/
  typed : ∃ st, s.codec? e f.model = some st ∧ type st.sourceType = .ok f.type
    ∧ type st.codecType = .ok f.codec
  single : f.model.indexes.length ≤ 1
  related : (∃ st ∈ chains, ∃ m ∈ st.methods, m.Relates f) ↔ f.model.indexes ≠ []
  everywhere : f.model.indexes ≠ [] → ∀ st ∈ chains, ∃ m ∈ st.methods, m.Relates f
  created : ∀ i ∈ f.model.indexes, createIndex e f.model i ∈ s.statements
  /-- The target of a native index serves each relation of the field. -/
  served : ∀ i ∈ f.model.indexes, i.implementation = .native → ∃ target,
    createIndex e f.model i = "CREATE INDEX IF NOT EXISTS " ++ i.resolvedName e.table f.column
        ++ " ON " ++ e.qualifiedTable ++ " (" ++ target ++ ")"
      ∧ ∀ st ∈ chains, ∀ m ∈ st.methods, m.Relates f →
        ∃ name action next, m = change name action next ∧ Served s.userTypes f target action

section
variable {d : Declaration} {registry : Registry} {defaults : Defaults} {s : Schema} {e : Entity}
  {profile : Profile} {emitDdl : Bool} {ss : List State}

theorem indexable_of_plan (hload : load d registry defaults = .ok s) (he : e ∈ s.entities)
    (hplan : plan s profile emitDdl e = .ok p) : p.Indexable where
  names := nodup_names_of_plan hload he hplan
  single := length_indexes_of_plan hload he hplan
  fits f hf _ hi := kindFaults_eq_nil_iff.mp
    (faults_of_index hload he (planField_of_plan hplan f hf).1 hi).1

/-- Every index of a batch is created. -/
theorem createIndex_mem_statements (he : e ∈ s.entities) {f : Field} (hf : f ∈ e.fields)
    {i : Schema.Index} (hi : i ∈ f.indexes) : createIndex e f i ∈ s.statements := by
  rw [statements_eq]
  exact List.mem_map.mpr ⟨.index e f i, index_mem_creations_iff.mpr ⟨he, hf, hi⟩, rfl⟩

/-- In each state of the index chains a field has relations exactly if it has an index. -/
theorem exists_relates_iff_of_chains (hp : p.Indexable) (hchains : IndexChains p ss)
    (hf : f ∈ p.fields) {st : State} (hst : st ∈ ss) :
    (∃ m ∈ st.methods, m.Relates f) ↔ f.model.indexes ≠ [] := by
  obtain ⟨next, ms, hms, hrow⟩ := exists_row_of_indexChains hchains st hst
  rw [← exists_relates_iff hp hms hf]
  exact exists_congr fun m => and_congr_left fun hm => hrow m hm.1

/-- The target of a native index serves what a state of the index chains relates its field to. -/
theorem served_of_chains (hp : p.Indexable) (hchains : IndexChains p ss) (hf : f ∈ p.fields)
    {i : Schema.Index} (hi : i ∈ f.model.indexes) (hnative : i.implementation = .native)
    {st : State} (hst : st ∈ ss) (hm : m ∈ st.methods) (hrelates : m.Relates f) :
    ∃ name action next, m = change name action next
      ∧ Served p.schema.userTypes f (nativeTarget f.model i.kind) action := by
  obtain ⟨next, ms, hms, hrow⟩ := exists_row_of_indexChains hchains st hst
  obtain ⟨own, hown, hmem⟩ := mem_indexRelations_of_relates hp hms hf
    ((hrow m hrelates.1).mp hm) hrelates i hi
  rw [indexRelations, hnative] at hown
  obtain ⟨name, action, rfl, hserved⟩ := served_of_nativeRelations (hp.fits f hf i hi) hown
  exact ⟨name, action, next, List.mem_singleton.mp hmem, hserved⟩

/-- A field of an accepted batch is queried by its index. -/
theorem queried_of_states (hload : load d registry defaults = .ok s) (he : e ∈ s.entities)
    (hplan : plan s profile emitDdl e = .ok p) (hstates : states p = .ok ss) (hf : f ∈ p.fields)
    (hchains : IndexChains p (indexSelects p ss)) : Queried s e f (indexSelects p ss) := by
  have hp := indexable_of_plan hload he hplan
  obtain ⟨hmodel, hplanned⟩ := planField_of_plan hplan f hf
  obtain ⟨st, hst, hsource, hcodec, -⟩ := strategy_of_planField hplanned
  have hevery : ∀ st ∈ indexSelects p ss,
      (∃ m ∈ st.methods, m.Relates f) ↔ f.model.indexes ≠ [] := fun _ hst =>
    exists_relates_iff_of_chains hp hchains hf hst
  have hsome : f.model.indexes ≠ [] → indexSelects p ss ≠ [] := by
    intro hindexed
    rcases indexSelects_of_states hstates with ⟨hview, -⟩ | ⟨-, hmade⟩
    · rw [entity_of_plan hplan] at hview
      exact absurd (indexes_of_view hload he hview _ hmodel) hindexed
    · exact indexChains_ne_nil hmade (mem_indexed.mpr ⟨hf, hindexed⟩)
  exact {
    typed := ⟨st, hst, hsource, hcodec⟩
    single := hp.single f hf
    related := by
      constructor
      · rintro ⟨st, hst, hrelates⟩
        exact (hevery st hst).mp hrelates
      · intro hindexed
        obtain ⟨st, hst⟩ := List.exists_mem_of_ne_nil _ (hsome hindexed)
        exact ⟨st, hst, (hevery st hst).mpr hindexed⟩
    everywhere := fun hindexed st hst => (hevery st hst).mpr hindexed
    created := fun _ hi => createIndex_mem_statements he hmodel hi
    served := by
      intro i hi hnative
      refine ⟨nativeTarget f.model i.kind, by rw [createIndex, hnative]; rfl, ?_⟩
      intro st hst m hm hrelates
      rw [← schema_of_plan hplan]
      exact served_of_chains hp hchains hf hi hnative hst hm hrelates }

/-- **Every index that is created can be queried, and nothing else can.**  Views have no indexes.
For each entity the states of its chains are emitted, with all their methods; the relations in
those of the index chains are of fields with an index, and every field is queried by its index. -/
theorem indexes_queried (hload : load d registry defaults = .ok s) {its : List Item}
    (h : items s profile emitDdl = .ok its) (he : e ∈ s.entities) :
    (e.isView = true → ∀ f ∈ e.fields, f.indexes = [])
      ∧ ∃ p ss, plan s profile emitDdl e = .ok p ∧ states p = .ok ss
        ∧ (∀ st ∈ ss, st.items ⊆ its ∧ Emits its st)
        ∧ (∀ st ∈ indexSelects p ss, ∀ m ∈ st.methods, m.relatesIndex = true →
          ∃ f ∈ p.fields, f.model.indexes ≠ [] ∧ m.Relates f)
        ∧ ∀ f ∈ e.fields, ∃ pf ∈ p.fields, pf.model = f ∧ Queried s e pf (indexSelects p ss) := by
  obtain ⟨p, ss, hplan, hstates, hmade⟩ := states_of_items h he
  have hchains : IndexChains p (indexSelects p ss) := by
    rcases indexSelects_of_states hstates with ⟨-, hnone⟩ | ⟨-, hchains⟩
    · exact hnone ▸ .none
    · exact .of_indexChains hchains
  refine ⟨indexes_of_view hload he, p, ss, hplan, hstates,
    fun st hst => ⟨hmade st hst, emits_of_items (hmade st hst)⟩, ?_, fun f hf => ?_⟩
  · intro st hst m hm hrelates
    obtain ⟨next, ms, hms, hrow⟩ := exists_row_of_indexChains hchains st hst
    exact exists_relates_of_mem (indexable_of_plan hload he hplan) hms ((hrow m hrelates).mp hm)
  · obtain ⟨pf, hpf, hmodel⟩ : ∃ pf ∈ p.fields, pf.model = f :=
      List.mem_map.mp (models_of_plan hplan ▸ mem_orderedFields.mpr hf)
    exact ⟨pf, hpf, hmodel, queried_of_states hload he hplan hstates hpf hchains⟩

end

/-- A table with an index on the entries of a map. -/
def shelves : Declaration where
  entities := [
    { name := "Shelf"
      fields := [
        (Declaration.Field.typed "id" "bigint").inPartition 0,
        (Declaration.Field.typed "stock" "map<text, int>").withIndex
          { kind := some .mapEntry }] }]

theorem indexes_queried_shelves :
    ∃ s its, load shelves {} {} = .ok s ∧ items s .cassandra37 true = .ok its
      ∧ "CREATE INDEX IF NOT EXISTS shelf_stock_idx ON shelf (ENTRIES(stock))" ∈ s.statements
      ∧ ∃ e ∈ s.entities, ∃ p ss, plan s .cassandra37 true e = .ok p ∧ states p = .ok ss
        ∧ ∃ f ∈ p.fields, f.column = "stock"
          ∧ ∃ st ∈ indexSelects p ss, Emits its st ∧ ∃ m ∈ st.methods, m.Relates f := by
  have hready : ((load shelves {} {}).toOption.bind fun s =>
      (items s .cassandra37 true).toOption.bind fun _ => s.entities[0]?.bind fun e =>
      e.fields[1]?.bind fun f => f.indexes[0]?.map fun i => decide (f.column = "stock"
        ∧ createIndex e f i =
          "CREATE INDEX IF NOT EXISTS shelf_stock_idx ON shelf (ENTRIES(stock))")) = some true := by
    decide +kernel
  simp only [Option.bind_eq_some_iff, Option.map_eq_some_iff, Except.toOption_eq_some_iff,
    decide_eq_true_eq] at hready
  obtain ⟨s, hload, its, hitems, e, he, f, hf, i, hi, hcolumn, hcreate⟩ := hready
  have he := List.mem_of_getElem? he
  have hi := List.mem_of_getElem? hi
  obtain ⟨-, p, ss, hplan, hstates, hmade, -, hqueried⟩ := indexes_queried hload hitems he
  obtain ⟨pf, hpf, rfl, hqueried⟩ := hqueried f (List.mem_of_getElem? hf)
  obtain ⟨st, hst, hrelates⟩ := hqueried.related.mpr (List.ne_nil_of_mem hi)
  exact ⟨s, its, hload, hitems, hcreate ▸ hqueried.created i hi, e, he, p, ss, hplan, hstates, pf,
    hpf, hcolumn, st, hst, (hmade st (List.mem_of_mem_filter hst)).2, hrelates⟩

end WideColumn.Builder
