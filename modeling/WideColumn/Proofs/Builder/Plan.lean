/-
# Plans and mappings tell the same columns

The plan of an entity is what its builders are made from, and the mapping of the entity is what
its records are read and written by.  Both are made from the fields of the entity in one order, so
they tell the same partition columns and the same clustering columns.
-/
import WideColumn.Application
import WideColumn.Builder.Plan
import WideColumn.Proofs.Except
import WideColumn.Proofs.Schema.Accepted
import WideColumn.Proofs.Source.Name

namespace WideColumn

open WideColumn.Key WideColumn.Builder

/-! ## 1. Fields in order -/

namespace Schema

theorem mem_inOrder {order? : Role → Option Nat} {fields : List Field} {f : Field} :
    f ∈ inOrder order? fields ↔ f ∈ fields ∧ (order? f.role).isSome = true := by
  simp only [inOrder, List.mem_map, List.mem_mergeSort, List.mem_filterMap,
    Option.map_eq_some_iff, Option.isSome_iff_exists]
  constructor
  · rintro ⟨_, ⟨f, hf, n, hn, rfl⟩, rfl⟩
    exact ⟨hf, n, hn⟩
  · rintro ⟨hf, n, hn⟩
    exact ⟨(n, f), ⟨f, hf, n, hn, rfl⟩, rfl⟩

/-- The fields in order are the fields. -/
theorem mem_orderedFields {e : Entity} {f : Field} : f ∈ e.orderedFields ↔ f ∈ e.fields := by
  simp only [Entity.orderedFields, Entity.partitionFields, Entity.clusteringFields,
    List.mem_append, mem_inOrder, List.mem_filter, Field.isKey, Role.isKey, Role.isPartition,
    Role.isClustering]
  cases f.role.partitionOrder?.isSome <;> cases f.role.clusteringOrder?.isSome <;> simp

/-- Fields in order are those that have an order, rearranged. -/
theorem inOrder_perm {order? : Role → Option Nat} {fields : List Field} :
    (inOrder order? fields).Perm (fields.filter fun f => (order? f.role).isSome) := by
  refine ((List.mergeSort_perm _ _).map _).trans (List.Perm.of_eq ?_)
  rw [List.map_filterMap]
  induction fields with
  | nil => rfl
  | cons f fs ih =>
    rw [List.filterMap_cons, List.filter_cons, ih]
    cases order? f.role <;> rfl

/-- A role has no place in both parts of the key. -/
theorem Role.not_isPartition_and_isClustering (r : Role) :
    ¬(r.isPartition = true ∧ r.isClustering = true) := by
  cases r <;> simp [Role.isPartition, Role.isClustering, Role.partitionOrder?,
    Role.clusteringOrder?]

/-- The fields of both parts of the key are the key fields, rearranged. -/
theorem keyFields_perm (e : Entity) :
    (e.partitionFields ++ e.clusteringFields).Perm (e.fields.filter (·.isKey)) := by
  have hsplit := List.filter_append_perm (·.role.isPartition) (e.fields.filter (·.isKey))
  rw [List.filter_filter, List.filter_filter] at hsplit
  refine .trans (.append (inOrder_perm.trans (.of_eq ?_)) (inOrder_perm.trans (.of_eq ?_))) hsplit
  · refine List.filter_congr fun f _ => ?_
    change f.role.isPartition = _
    cases hpart : f.role.isPartition <;> simp [Field.isKey, Role.isKey, hpart]
  · refine List.filter_congr fun f _ => ?_
    change f.role.isClustering = _
    have hrole := f.role.not_isPartition_and_isClustering
    cases hpart : f.role.isPartition <;> simp_all [Field.isKey, Role.isKey]

/-- The fields in order are the fields, rearranged. -/
theorem orderedFields_perm (e : Entity) : e.orderedFields.Perm e.fields :=
  ((keyFields_perm e).append_right _).trans (List.filter_append_perm (·.isKey) e.fields)

/-- The fields of a part of the key are those in its order. -/
theorem filter_orderedFields (e : Entity) :
    e.orderedFields.filter (·.role.isPartition) = e.partitionFields
      ∧ e.orderedFields.filter (·.role.isClustering) = e.clusteringFields := by
  have hpart : ∀ f ∈ e.partitionFields,
      f.role.isPartition = true ∧ f.role.isClustering = false := by
    intro f hf
    have hrole : f.role.isPartition = true := (mem_inOrder.mp hf).2
    exact ⟨hrole, by simpa [hrole] using f.role.not_isPartition_and_isClustering⟩
  have hclust : ∀ f ∈ e.clusteringFields,
      f.role.isPartition = false ∧ f.role.isClustering = true := by
    intro f hf
    have hrole : f.role.isClustering = true := (mem_inOrder.mp hf).2
    exact ⟨by simpa [hrole] using f.role.not_isPartition_and_isClustering, hrole⟩
  have hothers : ∀ f ∈ e.fields.filter (!·.isKey),
      f.role.isPartition = false ∧ f.role.isClustering = false := by
    intro f hf
    simpa [Field.isKey, Role.isKey] using (List.mem_filter.mp hf).2
  refine ⟨?_, ?_⟩
  · rw [Entity.orderedFields, List.filter_append, List.filter_append,
      List.filter_eq_self.mpr fun f hf => (hpart f hf).1,
      List.filter_eq_nil_iff.mpr fun f hf => by simp [hclust f hf],
      List.filter_eq_nil_iff.mpr fun f hf => by simp [hothers f hf], List.append_nil,
      List.append_nil]
  · rw [Entity.orderedFields, List.filter_append, List.filter_append,
      List.filter_eq_nil_iff.mpr fun f hf => by simp [hpart f hf],
      List.filter_eq_self.mpr fun f hf => (hclust f hf).2,
      List.filter_eq_nil_iff.mpr fun f hf => by simp [hothers f hf], List.append_nil,
      List.nil_append]

end Schema

/-! ## 2. Plans -/

namespace Builder

variable {schema : Schema} {profile : Profile} {emitDdl : Bool} {e : Schema.Entity} {p : Plan}

/-- What a planned field has of the field it is made from. -/
theorem of_planField {f : Schema.Field} {pf : PlannedField}
    (h : planField schema e f = .ok pf) : pf.model = f ∧ name f.name = .ok pf.name := by
  cases hcodec : schema.codec? e f with
  | none => rw [planField, hcodec] at h; cases h
  | some strategy =>
    simp only [planField, hcodec, Except.bind_eq_ok_iff] at h
    obtain ⟨_, -, ident, hident, sourceType, -, codecType, -, h⟩ := h
    cases h
    exact ⟨rfl, hident⟩

/-- A planned field has the types of its strategy, which is the built-in one if it says so. -/
theorem strategy_of_planField {f : Schema.Field} {pf : PlannedField}
    (h : planField schema e f = .ok pf) :
    ∃ st, schema.codec? e f = some st ∧ type st.sourceType = .ok pf.type
      ∧ type st.codecType = .ok pf.codec ∧ (pf.isNative = true → ∃ t, st = .native t) := by
  cases hcodec : schema.codec? e f with
  | none => rw [planField, hcodec] at h; cases h
  | some strategy =>
    simp only [planField, hcodec, Except.bind_eq_ok_iff] at h
    obtain ⟨_, hst, ident, -, sourceType, hsource, codecType, htype, h⟩ := h
    cases hst
    cases h
    refine ⟨strategy, rfl, hsource, htype, fun hnative => ?_⟩
    cases strategy with
    | native t => exact ⟨t, rfl⟩
    | explicit | enumerated | json => cases hnative

/-- Every field of a plan was made from a field of the entity. -/
theorem planField_of_plan (h : plan schema profile emitDdl e = .ok p) :
    ∀ pf ∈ p.fields, pf.model ∈ e.fields ∧ planField schema e pf.model = .ok pf := by
  simp only [plan, Except.bind_eq_ok_iff] at h
  obtain ⟨fields, hfields, ident, -, h⟩ := h
  cases h
  intro pf hpf
  obtain ⟨f, hf, hmade⟩ := Except.exists_of_mem_mapM hfields pf hpf
  rw [(of_planField hmade).1]
  exact ⟨Schema.mem_orderedFields.mp hf, hmade⟩

/-- The fields of a plan are those of the entity, in order. -/
theorem models_of_plan (h : plan schema profile emitDdl e = .ok p) :
    p.fields.map (·.model) = e.orderedFields := by
  simp only [plan, Except.bind_eq_ok_iff] at h
  obtain ⟨fields, hfields, ident, -, h⟩ := h
  cases h
  simpa using Except.map_eq_of_mapM (h := id) (fun _ _ _ hf => (of_planField hf).1) hfields

theorem identifier?_of_name {n ident : String} (h : name n = .ok ident) :
    Source.identifier? n = some ident := by
  rw [name] at h
  split at h
  · rename_i w hw
    cases h
    exact hw
  · cases h

theorem eq_of_name {n ident : String} (h : nameFault? n = none) (hname : name n = .ok ident) :
    ident = n := by
  have hread := identifier?_of_name hname
  rw [Source.identifier?_of_nameFault? h, Option.ite_none_right_eq_some] at hread
  exact (Option.some_inj.mp hread.2).symm

/-- In source, the fields of an entity go by their own names. -/
theorem names_of_plan (hnames : ∀ f ∈ e.fields, nameFault? f.name = none)
    (h : plan schema profile emitDdl e = .ok p) :
    p.fields.map (·.name) = e.orderedFields.map (·.name) := by
  simp only [plan, Except.bind_eq_ok_iff] at h
  obtain ⟨fields, hfields, ident, -, h⟩ := h
  cases h
  refine Except.map_eq_of_mapM (fun f hf pf hpf => ?_) hfields
  exact eq_of_name (hnames f (Schema.mem_orderedFields.mp hf)) (of_planField hpf).2

/-- The partition fields of a plan are those of the entity, in key order. -/
theorem partition_of_plan (h : plan schema profile emitDdl e = .ok p) :
    p.partition.map (·.model) = e.partitionFields := by
  rw [Plan.partition, ← (Schema.filter_orderedFields e).1, ← models_of_plan h, List.filter_map]
  rfl

/-- The clustering fields of a plan are those of the entity, in key order. -/
theorem clustering_of_plan (h : plan schema profile emitDdl e = .ok p) :
    p.clustering.map (·.model) = e.clusteringFields := by
  rw [Plan.clustering, ← (Schema.filter_orderedFields e).2, ← models_of_plan h, List.filter_map]
  rfl

/-- The name of an entity is read as source. -/
theorem name_of_plan (h : plan schema profile emitDdl e = .ok p) : name e.name = .ok p.name := by
  simp only [plan, Except.bind_eq_ok_iff] at h
  obtain ⟨fields, -, ident, hident, h⟩ := h
  cases h
  exact hident

theorem schema_of_plan (h : plan schema profile emitDdl e = .ok p) : p.schema = schema := by
  simp only [plan, Except.bind_eq_ok_iff] at h
  obtain ⟨fields, -, ident, -, h⟩ := h
  cases h
  rfl

theorem entity_of_plan (h : plan schema profile emitDdl e = .ok p) : p.entity = e := by
  simp only [plan, Except.bind_eq_ok_iff] at h
  obtain ⟨fields, -, ident, -, h⟩ := h
  cases h
  rfl

theorem profile_of_plan (h : plan schema profile emitDdl e = .ok p) : p.profile = profile := by
  simp only [plan, Except.bind_eq_ok_iff] at h
  obtain ⟨fields, -, ident, -, h⟩ := h
  cases h
  rfl

/-- The fields of a plan that play a part have the columns of those of the entity that do. -/
theorem columns_of_plan (h : plan schema profile emitDdl e = .ok p) (part : Schema.Role → Bool) :
    (p.fields.filter (part ·.model.role)).map (·.column) =
      (e.orderedFields.filter (part ·.role)).map (·.column) := by
  rw [← models_of_plan h, List.filter_map, List.map_map]
  rfl

end Builder

/-! ## 3. Mappings -/

namespace Schema

variable {s : Schema} {app : Application} {e : Entity} {m : Mapping}

theorem about_of_column? {f : Field} {c : Column} (h : s.column? app e f = some c) :
    c.about = ⟨f.column, f.role.columnKind, s.columnType e f, e.projection f⟩ := by
  obtain ⟨typed, -, rfl⟩ := Option.map_eq_some_iff.mp h
  rfl

/-- The columns of a mapping are those of the entity's fields, in order. -/
theorem about_of_mapping? (he : s.entity? e.name = some e)
    (h : s.mapping? app e.name = some m) :
    m.columns.map (·.about) = e.orderedFields.map
      fun f => ⟨f.column, f.role.columnKind, s.columnType e f, e.projection f⟩ := by
  rw [mapping?, he, Option.bind_some] at h
  obtain ⟨columns, hcolumns, rfl⟩ := Option.map_eq_some_iff.mp h
  exact Option.map_eq_of_mapM (fun _ _ => about_of_column?) hcolumns

section
variable (habout : m.columns.map (·.about) = e.orderedFields.map
  fun f => ⟨f.column, f.role.columnKind, s.columnType e f, e.projection f⟩)
include habout

/-- The partition columns of such a mapping are those of the partition fields, in key order. -/
theorem partitionColumns_of_about : m.partitionColumns = e.partitionFields.map (·.column) := by
  have hall : m.partitionColumns = (m.columns.map (·.about)).filterMap
      fun c => if c.kind = .partition then some c.name else none := by
    rw [List.filterMap_map]; rfl
  rw [hall, habout, ← (filter_orderedFields e).1, List.filterMap_map, ← List.filterMap_eq_map,
    List.filterMap_filter]
  congr 1
  funext f
  cases hrole : f.role <;> simp [hrole, Role.columnKind, Role.isPartition, Role.partitionOrder?]

/-- The clustering columns are those of the clustering fields, in key order, with their
directions. -/
theorem clusteringColumns_of_about :
    m.clusteringColumns = e.clusteringFields.map fun f => ⟨f.column, !f.role.isDescending⟩ := by
  have hall : m.clusteringColumns = (m.columns.map (·.about)).filterMap fun c =>
      if c.kind.isKey && c.kind ≠ .partition then some ⟨c.name, c.kind = .clustering true⟩
      else none := by
    rw [Mapping.clusteringColumns, List.filterMap_map]
    congr 1
    funext c
    cases hkind : c.about.kind <;> simp [hkind, ColumnKind.isKey]
  rw [hall, habout, ← (filter_orderedFields e).2, List.filterMap_map, ← List.filterMap_eq_map,
    List.filterMap_filter]
  congr 1
  funext f
  cases hrole : f.role with
  | clustering order ascending =>
    cases ascending <;> simp [hrole, Role.columnKind, Role.isClustering, Role.clusteringOrder?,
      Role.isDescending, ColumnKind.isKey]
  | _ => simp [hrole, Role.columnKind, Role.isClustering, Role.clusteringOrder?, ColumnKind.isKey]

end

end Schema

/-! ## 4. Both -/

variable {s : Schema} {app : Application} {e : Schema.Entity} {m : Mapping} {profile : Profile}
  {emitDdl : Bool} {p : Plan}

/-- **Plan and mapping tell the same partition columns.** -/
theorem partitionColumns_eq (he : s.entity? e.name = some e)
    (hmapping : s.mapping? app e.name = some m) (hplan : plan s profile emitDdl e = .ok p) :
    m.partitionColumns = p.partition.map (·.column) := by
  rw [Schema.partitionColumns_of_about (Schema.about_of_mapping? he hmapping),
    ← partition_of_plan hplan, List.map_map]
  rfl

/-- **Plan and mapping tell the same clustering columns.** -/
theorem clusteringColumns_eq (he : s.entity? e.name = some e)
    (hmapping : s.mapping? app e.name = some m) (hplan : plan s profile emitDdl e = .ok p) :
    m.clusteringColumns.map (·.name) = p.clustering.map (·.column) := by
  rw [Schema.clusteringColumns_of_about (Schema.about_of_mapping? he hmapping),
    ← clustering_of_plan hplan, List.map_map, List.map_map]
  rfl

/-- The plan of an entity of an accepted batch has a partition column. -/
theorem partition_ne_nil {d : Declaration} {registry : Schema.Registry}
    {defaults : Schema.Defaults} (hload : Schema.load d registry defaults = .ok s)
    (he : e ∈ s.entities) (hplan : plan s profile emitDdl e = .ok p) : p.partition ≠ [] := by
  obtain ⟨f, hf, hpart⟩ := Schema.exists_partition_of_load hload he
  intro hempty
  have hcolumns := columns_of_plan hplan (·.isPartition)
  rw [Plan.partition] at hempty
  rw [hempty, List.map_nil, eq_comm, List.map_eq_nil_iff, List.filter_eq_nil_iff] at hcolumns
  exact hcolumns f (Schema.mem_orderedFields.mpr hf) hpart

end WideColumn
