/-
# Which methods of fields can share a name

An update has methods for every field that it can set, and an index chain has relations for every
indexed field, all in one state.  Each is named by its field and an ending.  No ending is the end
of another one, so methods of different fields can meet only if they end alike, and then the
fields would have one name.

The one exception is a user type: its parts are set one by one, and the method of the part `b` of
a field `a` is the one of a field `a_b`.  So what has to differ are the PATHS that can be set,
whatever else can be done to a field (`nodup_setterNames_iff`).
-/
import Mathlib.Data.List.Flatten
import Mathlib.Data.List.Perm.Basic
import WideColumn.Proofs.Builder.MethodNames

namespace WideColumn.Builder

variable {p : Plan} {family : String} {f : PlannedField} {next : Option String} {ms : List Method}

/-! ## 1. Assignments -/

/-- The paths of the parts of a field that are set by name: those of a user type. -/
def partPaths (p : Plan) (f : PlannedField) : List String :=
  match f.model.shape with
  | .udt _ name =>
    match Schema.userType? p.schema.userTypes name with
    | some u => u.fields.map fun sub => f.name ++ "_" ++ sub.name
    | none => []
  | _ => []

/-- The endings of assignments to items of a field. -/
def partEndings (f : PlannedField) : List String :=
  match f.model.shape with
  | .list .. => ["_append_to", "_prepend_to", "_set_at_index", "_remove_from"]
  | .set .. => ["_add_to", "_remove_from"]
  | .map .. => ["_put_to", "_remove_by_key"]
  | _ => []

/-- Whether a field is only set as a whole. -/
def isSetWhole (f : PlannedField) : Bool := !f.isNative || f.model.shape.frozen

/-- What of a field can be set by name: the field and its parts. -/
def setPaths (p : Plan) (f : PlannedField) : List String :=
  if f.model.role.isCounter then []
  else f.name :: if isSetWhole f then [] else partPaths p f

/-- The endings of all other assignments to a field. -/
def setEndings (f : PlannedField) : List String :=
  if f.model.role.isCounter then ["_incr", "_decr"]
  else "_set_null" :: if isSetWhole f then [] else partEndings f

/-- The names of the assignments to a field. -/
def setterNames (p : Plan) (f : PlannedField) : List String :=
  (setPaths p f).map (· ++ "_set") ++ (setEndings f).map (f.name ++ ·)

/-- Names of parts of user types are read as they are. -/
def PartsReadable (p : Plan) : Prop :=
  ∀ u ∈ p.schema.userTypes, ∀ sub ∈ u.fields, ∀ ident, name sub.name = .ok ident → ident = sub.name

theorem names_typeFieldMethods (hread : PartsReadable p) {u : Schema.UserType}
    (hu : u ∈ p.schema.userTypes) (h : typeFieldMethods p f next u = .ok ms) :
    methodNames ms = u.fields.map fun sub => f.name ++ "_" ++ sub.name ++ "_set" := by
  refine Except.map_eq_of_mapM (fun sub hsub m hm => ?_) h
  simp only [Except.bind_eq_ok_iff] at hm
  obtain ⟨ident, hident, type, -, hm⟩ := hm
  cases hm
  rw [name_change, hread u hu sub hsub ident hident]

theorem names_partMethods (hread : PartsReadable p) (h : partMethods p f next = .ok ms) :
    methodNames ms = (partPaths p f).map (· ++ "_set") ++ (partEndings f).map (f.name ++ ·) := by
  rw [partMethods] at h
  cases hshape : f.model.shape with
  | list place element =>
    simp only [hshape, Except.bind_eq_ok_iff] at h
    obtain ⟨type, -, h⟩ := h
    cases h
    simp only [partPaths, partEndings, hshape]
    rfl
  | set place element =>
    rw [hshape] at h
    cases h
    simp only [partPaths, partEndings, hshape]
    rfl
  | map place key value =>
    simp only [hshape, Except.bind_eq_ok_iff] at h
    obtain ⟨type, -, h⟩ := h
    cases h
    simp only [partPaths, partEndings, hshape]
    rfl
  | udt place typeName =>
    simp only [hshape] at h
    simp only [partPaths, partEndings, hshape]
    cases hu : Schema.userType? p.schema.userTypes typeName with
    | none =>
      rw [hu] at h
      cases h
      rfl
    | some u =>
      rw [hu] at h
      rw [names_typeFieldMethods hread (List.mem_of_find?_eq_some hu) h, List.map_map, List.map_nil,
        List.append_nil]
      rfl
  | scalar | counter | tuple =>
    rw [hshape] at h
    cases h
    simp only [partPaths, partEndings, hshape]
    rfl

/-- The names of the assignments to a field are those of its paths and its endings. -/
theorem names_setMethods (hread : PartsReadable p) (h : setMethods p next f = .ok ms) :
    (methodNames ms).Perm (setterNames p f) := by
  rw [setMethods] at h
  rw [setterNames, setPaths, setEndings]
  cases hcounter : f.model.role.isCounter with
  | true =>
    rw [hcounter, if_pos rfl] at h
    cases h
    exact .refl _
  | false =>
    rw [hcounter, if_neg Bool.false_ne_true] at h
    rw [if_neg Bool.false_ne_true, if_neg Bool.false_ne_true]
    split at h
    · rename_i hwhole
      cases h
      rw [isSetWhole, if_pos hwhole, if_pos hwhole]
      exact .refl _
    · rename_i hparts
      obtain ⟨parts, hms, h⟩ := Except.bind_eq_ok_iff.mp h
      cases h
      rw [isSetWhole, if_neg hparts, if_neg hparts, methodNames_append, names_partMethods hread hms]
      -- setting to nothing comes before the parts, and here after their paths
      simp only [wholeMethods, methodNames_cons, methodNames_nil, name_change, List.map_cons,
        List.cons_append, List.nil_append]
      exact List.perm_middle.symm.cons _

theorem names_flatMapM_setMethods (hread : PartsReadable p) {fs : List PlannedField}
    (h : fs.flatMapM (setMethods p next) = .ok ms) :
    (methodNames ms).Perm (fs.flatMap (setterNames p)) := by
  induction fs generalizing ms with
  | nil =>
    cases h
    exact .refl _
  | cons f fs ih =>
    rw [List.flatMapM_cons] at h
    obtain ⟨own, hown, h⟩ := Except.bind_eq_ok_iff.mp h
    obtain ⟨others, hothers, h⟩ := Except.bind_eq_ok_iff.mp h
    cases h
    rw [methodNames_append, List.flatMap_cons]
    exact (names_setMethods hread hown).append (ih hothers)

/-- All endings of assignments but that of a path. -/
def assignmentEndings : List String :=
  ["_incr", "_decr", "_set_null", "_append_to", "_prepend_to", "_set_at_index", "_add_to",
    "_remove_from", "_put_to", "_remove_by_key"]

theorem setEndings_sublist : (setEndings f).Sublist assignmentEndings := by
  have hparts : ("_set_null" :: partEndings f).Sublist assignmentEndings := by
    cases hshape : f.model.shape <;> simp only [partEndings, hshape] <;> decide
  rw [setEndings]
  split
  · decide
  · refine .trans (.cons_cons _ ?_) hparts
    split
    · exact List.nil_sublist _
    · exact .refl _

/-- **Assignments have names of their own exactly if the paths do** that can be set by name. -/
theorem nodup_setterNames_iff {fs : List PlannedField} (h : (fs.map (·.name)).Nodup) :
    (fs.flatMap (setterNames p)).Nodup ↔ (fs.flatMap (setPaths p)).Nodup := by
  have hsplit : (fs.flatMap (setterNames p)).Perm
      ((fs.flatMap (setPaths p)).map (· ++ "_set")
        ++ fs.flatMap fun f => (setEndings f).map (f.name ++ ·)) := by
    rw [List.map_flatMap]
    exact (List.flatMap_append_perm fs _ _).symm
  have hendings : (fs.flatMap fun f => (setEndings f).map (f.name ++ ·)).Nodup := by
    have hfree : ∀ s ∈ assignmentEndings, ∀ t ∈ assignmentEndings, s = t ∨ EndApart s t := by
      decide
    refine nodup_endings h (fun f _ => setEndings_sublist.nodup (by decide)) ?_
    intro f _ g _ s hs t ht
    exact hfree s (setEndings_sublist.subset hs) t (setEndings_sublist.subset ht)
  have hapart : List.Disjoint ((fs.flatMap (setPaths p)).map (· ++ "_set"))
      (fs.flatMap fun f => (setEndings f).map (f.name ++ ·)) := by
    have hset : ∀ s ∈ assignmentEndings, EndApart s "_set" := by decide
    intro n hpath hend
    obtain ⟨path, -, rfl⟩ := List.mem_map.mp hpath
    obtain ⟨f, -, hend⟩ := List.mem_flatMap.mp hend
    obtain ⟨s, hs, heq⟩ := List.mem_map.mp hend
    exact append_ne_of_endApart (hset s (setEndings_sublist.subset hs)) f.name path heq
  rw [hsplit.nodup_iff, List.nodup_append', and_iff_left ⟨hendings, hapart⟩]
  exact List.nodup_map_iff fun _ _ heq => (String.append_left_inj "_set").mp heq

/-! ## 2. Update chains -/

/-- The methods of an update chain have names of their own exactly if the paths that it can set
do, and its first key column is not named like an assignment. -/
theorem nodup_updateFamily_iff (hread : PartsReadable p)
    {settable tested others : List PlannedField} (hsettable : (settable.map (·.name)).Nodup)
    (htested : (tested.map (·.name)).Nodup) {ss : List State}
    (h : updateFamily p family settable (f :: others) tested = .ok ss) :
    (∀ s ∈ ss, (methodNames s.methods).Nodup) ↔
      (settable.flatMap (setPaths p)).Nodup ∧ f.name ∉ settable.flatMap (setterNames p) := by
  simp only [updateFamily, Except.bind_eq_ok_iff] at h
  obtain ⟨firstMethods, hfirst, moreMethods, hmore, h⟩ := h
  cases h
  have hnames : (methodNames (moreMethods ++ [equate f f.name (p.stateForFirst family others
      (p.lastState family))])).Perm (f.name :: settable.flatMap (setterNames p)) := by
    rw [methodNames_append]
    exact ((names_flatMapM_setMethods hread hmore).append_right _).trans
      (List.perm_append_singleton _ _)
  simp only [List.forall_mem_append, List.forall_mem_cons]
  rw [and_iff_left ⟨nodup_endMethods htested, nodup_conditionalStates htested⟩,
    and_iff_left nodup_keyStates, hnames.nodup_iff, List.nodup_cons,
    (names_flatMapM_setMethods hread hfirst).nodup_iff, ← nodup_setterNames_iff hsettable]
  constructor
  · rintro ⟨hnodup, ⟨hkey, -⟩, -⟩
    exact ⟨hnodup, hkey⟩
  · rintro ⟨hnodup, hkey⟩
    exact ⟨hnodup, ⟨hkey, hnodup⟩, by simp⟩

theorem nodup_updateFamilyIfAny_iff (hread : PartsReadable p)
    {settable tested others : List PlannedField}
    (hsettable : (settable.map (·.name)).Nodup) (htested : (tested.map (·.name)).Nodup)
    {ss : List State} (h : updateFamilyIfAny p family settable (f :: others) tested = .ok ss) :
    (∀ s ∈ ss, (methodNames s.methods).Nodup) ↔
      (settable.flatMap (setPaths p)).Nodup ∧ f.name ∉ settable.flatMap (setterNames p) := by
  rw [updateFamilyIfAny] at h
  split at h
  · rename_i hnone
    cases h
    rw [List.isEmpty_iff.mp hnone]
    simp
  · exact nodup_updateFamily_iff hread hsettable htested h

theorem statics_sublist_settable : p.statics.Sublist p.settable := by
  refine List.monotone_filter_right _ fun f hf => ?_
  cases hrole : f.model.role <;> simp_all [Schema.Field.isKey, Schema.Role.isStatic,
    Schema.Role.isKey, Schema.Role.isPartition, Schema.Role.isClustering,
    Schema.Role.partitionOrder?, Schema.Role.clusteringOrder?, Schema.Role.isComputed]

/-- The methods of update chains have names of their own exactly if all paths that can be set do,
and the first key column is not named like an assignment. -/
theorem nodup_updateStates_iff (hread : PartsReadable p) (hnames : (p.fields.map (·.name)).Nodup)
    {others : List PlannedField} (hkey : p.partition = f :: others) {ss : List State}
    (h : updateStates p = .ok ss) :
    (∀ s ∈ ss, (methodNames s.methods).Nodup) ↔
      (p.settable.flatMap (setPaths p)).Nodup ∧ f.name ∉ p.settable.flatMap (setterNames p) := by
  simp only [updateStates, hkey, List.cons_append, Except.bind_eq_ok_iff] at h
  obtain ⟨whole, hwhole, static, hstatic, h⟩ := h
  cases h
  have hof : ∀ {fs : List PlannedField}, fs.Sublist p.fields → (fs.map (·.name)).Nodup :=
    fun hfs => (hfs.map _).nodup hnames
  have hstatics : p.statics.Sublist p.fields := List.filter_sublist
  have hsettable : p.settable.Sublist p.fields := List.filter_sublist
  rw [List.forall_mem_append,
    nodup_updateFamilyIfAny_iff hread (hof hsettable) (hof (List.filter_sublist.trans hsettable))
      hwhole,
    nodup_updateFamilyIfAny_iff hread (hof hstatics) (hof (List.filter_sublist.trans hstatics))
      hstatic]
  -- what an update of static columns can set is part of what any update can
  refine and_iff_left_of_imp fun ⟨hpaths, hfirst⟩ => ⟨?_, fun hmem => hfirst ?_⟩
  · exact (statics_sublist_settable.flatMap (setPaths p)).nodup hpaths
  · exact (statics_sublist_settable.flatMap (setterNames p)).subset hmem

/-! ## 3. Index chains -/

/-- The endings of the relations that an index can serve. -/
def relationEndings : List String :=
  ["_eq", "_contains", "_contains_key", "_contains_entry", "_starts_with", "_ends_with",
    "_contains_text", "_like", "_gt", "_gte", "_lt", "_lte", "_solr_query"]

theorem names_nativeRelations {kind : IndexKind} (h : nativeRelations p f kind next = .ok ms) :
    (methodNames ms).Sublist (relationEndings.map (f.name ++ ·)) := by
  have hone : ∀ s ∈ relationEndings, [f.name ++ s].Sublist (relationEndings.map (f.name ++ ·)) :=
    fun s hs => List.singleton_sublist.mpr (List.mem_map_of_mem hs)
  have hpart : ∀ s : Shape, (do
      let part ← p.builtInType s
      return [relatePart f "_contains" "CONTAINS" part next]) = .ok ms →
      (methodNames ms).Sublist (relationEndings.map (f.name ++ ·)) := by
    intro s hms
    obtain ⟨part, -, hms⟩ := Except.bind_eq_ok_iff.mp hms
    cases hms
    exact hone "_contains" (by decide)
  rw [nativeRelations.eq_def] at h
  split at h
  · cases h
    exact hone "_eq" (by decide)
  · cases h
    exact hone "_eq" (by decide)
  · exact hpart _ h
  · exact hpart _ h
  · obtain ⟨key, -, h⟩ := Except.bind_eq_ok_iff.mp h
    cases h
    exact hone "_contains_key" (by decide)
  · cases h
    exact hone "_contains_key" (by decide)
  · simp only [Except.bind_eq_ok_iff] at h
    obtain ⟨key, -, value, -, h⟩ := h
    cases h
    exact hone "_contains_entry" (by decide)
  · cases h
    exact List.nil_sublist _

/-- The relations that an analysing index serves beside equality. -/
theorem names_sasiRelations {mode : SasiMode} :
    (methodNames (sasiRelations f mode next)).Sublist (relationEndings.tail.map (f.name ++ ·)) := by
  have hsome : ∀ endings : List String, endings.Sublist relationEndings.tail →
      (endings.map (f.name ++ ·)).Sublist (relationEndings.tail.map (f.name ++ ·)) :=
    fun _ h => h.map _
  cases mode with
  | prefixes =>
    simp only [sasiRelations]
    split
    · exact hsome ["_starts_with"] (by decide)
    · rw [methodNames_ite]
      exact (ite_sublist _).trans (hsome ["_gt", "_gte", "_lt", "_lte"] (by decide))
  | contains =>
    rw [sasiRelations, methodNames_ite]
    exact (ite_sublist _).trans
      (hsome ["_starts_with", "_ends_with", "_contains_text", "_like"] (by decide))
  | sparse =>
    rw [sasiRelations, methodNames_ite]
    exact (ite_sublist _).trans (hsome ["_gt", "_gte", "_lt", "_lte"] (by decide))

/-- The relations that a search index serves beside equality. -/
theorem names_searchRelations {fullText : Bool} :
    (methodNames (searchRelations f fullText next)).Sublist
      (relationEndings.tail.map (f.name ++ ·)) := by
  have hall : (["_starts_with", "_ends_with", "_contains_text", "_solr_query"].map
      (f.name ++ ·)).Sublist (relationEndings.tail.map (f.name ++ ·)) :=
    List.Sublist.map _ (by decide)
  rw [searchRelations, methodNames_append, methodNames_ite, methodNames_ite]
  exact ((ite_sublist _).append (ite_sublist _)).trans hall

/-- The relations that an index serves have some of these endings. -/
theorem names_indexRelations {i : Schema.Index} (h : indexRelations p f next i = .ok ms) :
    (methodNames ms).Sublist (relationEndings.map (f.name ++ ·)) := by
  rw [indexRelations] at h
  cases himplementation : i.implementation with
  | native =>
    rw [himplementation] at h
    exact names_nativeRelations h
  | sasi options =>
    rw [himplementation] at h
    cases h
    exact names_sasiRelations.cons_cons _
  | search options =>
    rw [himplementation] at h
    cases h
    exact names_searchRelations.cons_cons _

theorem mem_indexed : f ∈ p.indexed ↔ f ∈ p.fields ∧ f.model.indexes ≠ [] := by
  simp [Plan.indexed]

/-- Each relation is one of an indexed field. -/
theorem exists_of_mem_allIndexRelations {m : Method} (h : allIndexRelations p next = .ok ms)
    (hm : m ∈ ms) : ∃ f ∈ p.fields, ∃ i ∈ f.model.indexes, ∃ own,
      indexRelations p f next i = .ok own ∧ m ∈ own := by
  obtain ⟨⟨f, i⟩, hpair, own, hown, hmem⟩ := Except.exists_of_mem_flatMapM h m hm
  obtain ⟨g, hg, hpair⟩ := List.mem_flatMap.mp hpair
  obtain ⟨j, hj, heq⟩ := List.mem_map.mp hpair
  cases heq
  exact ⟨f, (mem_indexed.mp hg).1, i, hj, own, hown, hmem⟩

/-- Every index has its relations among all. -/
theorem subset_of_allIndexRelations (h : allIndexRelations p next = .ok ms) (hf : f ∈ p.fields)
    {i : Schema.Index} (hi : i ∈ f.model.indexes) :
    ∃ own, indexRelations p f next i = .ok own ∧ own ⊆ ms :=
  (Except.forall_mem_flatMapM_iff h).mp (fun _ hm => hm) (f, i)
    (List.mem_flatMap.mpr ⟨f, mem_indexed.mpr ⟨hf, List.ne_nil_of_mem hi⟩, List.mem_map_of_mem hi⟩)

/-- Where no field has several indexes, the relations of all indexed fields have names made of
the field and one of these endings. -/
theorem names_allIndexRelations (hsingle : ∀ f ∈ p.fields, f.model.indexes.length ≤ 1)
    (h : allIndexRelations p next = .ok ms) :
    (methodNames ms).Sublist (p.indexed.flatMap fun f => relationEndings.map (f.name ++ ·)) := by
  rw [allIndexRelations] at h
  have hindexed : ∀ f ∈ p.indexed, f.model.indexes.length ≤ 1 :=
    fun f hf => hsingle f (List.mem_filter.mp hf).1
  generalize p.indexed = fs at h hindexed ⊢
  induction fs generalizing ms with
  | nil =>
    cases h
    exact List.nil_sublist _
  | cons f fs ih =>
    rw [List.forall_mem_cons] at hindexed
    obtain ⟨hf, hfs⟩ := hindexed
    rw [List.flatMap_cons] at h ⊢
    cases hindexes : f.model.indexes with
    | nil =>
      rw [hindexes] at h
      exact (ih h hfs).trans (List.sublist_append_right _ _)
    | cons i others =>
      obtain rfl : others = [] := by simpa [hindexes] using hf
      rw [hindexes, List.map_singleton, List.singleton_append, List.flatMapM_cons] at h
      obtain ⟨own, hown, h⟩ := Except.bind_eq_ok_iff.mp h
      obtain ⟨more, hmore, h⟩ := Except.bind_eq_ok_iff.mp h
      cases h
      rw [methodNames_append]
      exact (names_indexRelations hown).append (ih hmore hfs)

theorem nodup_relationNames {fs : List PlannedField} (h : (fs.map (·.name)).Nodup) :
    (fs.flatMap fun f => relationEndings.map (f.name ++ ·)).Nodup := by
  have hfree : ∀ s ∈ relationEndings, ∀ t ∈ relationEndings, s = t ∨ EndApart s t := by decide
  exact nodup_endings h (fun _ _ => by decide) fun _ _ _ _ s hs t ht => hfree s hs t ht

/-- **The methods of index chains have names of their own.** -/
theorem nodup_indexStates (hnames : (p.fields.map (·.name)).Nodup)
    (hsingle : ∀ f ∈ p.fields, f.model.indexes.length ≤ 1) {json : Bool} {ss : List State}
    (h : indexStates p json = .ok ss) : ∀ s ∈ ss, (methodNames s.methods).Nodup := by
  have hindexed : p.indexed.Sublist p.fields := List.filter_sublist
  have hrelations := nodup_relationNames ((hindexed.map _).nodup hnames)
  simp only [indexStates, Except.bind_eq_ok_iff] at h
  obtain ⟨first, hfirst, more, hmore, h⟩ := h
  cases h
  have hlast : ("allow_filtering" :: (p.indexed.flatMap fun f => relationEndings.map (f.name ++ ·))
      ++ readWords).Nodup := by
    have hwords : ∀ s ∈ relationEndings, ∀ w ∈ "allow_filtering" :: readWords,
        ¬s.toList <:+ w.toList := by decide
    have hapart : List.Disjoint ("allow_filtering" :: readWords)
        (p.indexed.flatMap fun f => relationEndings.map (f.name ++ ·)) := by
      intro n hword hn
      obtain ⟨f, -, hn⟩ := List.mem_flatMap.mp hn
      obtain ⟨s, hs, rfl⟩ := List.mem_map.mp hn
      exact append_not_mem (hwords s hs) f.name hword
    rw [List.cons_append, List.nodup_cons, List.mem_append, List.nodup_append']
    rw [List.disjoint_cons_left] at hapart
    exact ⟨not_or.mpr ⟨hapart.1, by decide⟩, hrelations, by decide, fun _ hn hw => hapart.2 hw hn⟩
  simp only [List.forall_mem_cons, List.not_mem_nil, IsEmpty.forall_iff, implies_true, and_true]
  refine ⟨hrelations.sublist (names_allIndexRelations hsingle hfirst), hlast.sublist ?_⟩
  rw [methodNames_append, methodNames_cons]
  exact ((names_allIndexRelations hsingle hmore).cons_cons _).append names_readMethods

end WideColumn.Builder
