/-
# One order of the key

The fields of an entity may be declared in any order: what counts is the place that each key field
claims.  A batch is accepted only if the places in each part of the key count up from zero, so
sorting by places puts every key field at its own (`keyInOrder_of_load`).

Whatever else tells of the key is read off the fields in that order.  So a mapping that tells of
the fields of an entity agrees with the statement that creates it (`createTable_eq`,
`createView_eq`): in the columns of the key and in their directions, and in the columns that are
stored, which are also those that are selected as they are and, where nothing counts, inserted.
-/
import WideColumn.Proofs.Builder.Plan
import WideColumn.Proofs.Mapping.RoundTrip
import WideColumn.Proofs.Schema.View
import WideColumn.Schema.Ddl

namespace WideColumn

open WideColumn.Key

/-! ## 1. Places in the key -/

namespace Schema

variable {d : Declaration} {registry : Registry} {defaults : Defaults} {s : Schema}
  {e base : Entity} {m : Mapping}

/-- Contiguous orders are the numbers from zero on, rearranged. -/
theorem perm_of_isContiguous {orders : List Nat} (h : isContiguous orders = true) :
    orders.Perm (List.range orders.length) := by
  rw [isContiguous, beq_iff_eq] at h
  rw [← h]
  exact (List.mergeSort_perm orders _).symm

section
variable {order? : Role → Option Nat} {fields : List Field}

/-- The fields that have an order, each with its own, have the orders of the fields. -/
theorem orders_filterMap :
    (fields.filterMap fun f => (order? f.role).map fun n => (n, f)).map (·.1) =
      fields.filterMap (order? ·.role) := by
  rw [List.map_filterMap]
  congr 1
  funext f
  cases order? f.role <;> rfl

theorem length_inOrder :
    (inOrder order? fields).length = (fields.filterMap (order? ·.role)).length := by
  rw [← orders_filterMap, inOrder, List.length_map, List.length_map, List.length_mergeSort]

/-- **Fields that are sorted by contiguous orders stand each at its own.** -/
theorem orders_inOrder (h : isContiguous (fields.filterMap (order? ·.role)) = true) :
    (inOrder order? fields).map (order? ·.role) =
      (List.range (inOrder order? fields).length).map some := by
  let sorted := (fields.filterMap fun f => (order? f.role).map fun n => (n, f)).mergeSort
    fun a b => a.1 ≤ b.1
  have hown : ∀ pair ∈ sorted, order? pair.2.role = some pair.1 := by
    intro pair hpair
    obtain ⟨f, -, hf⟩ := List.mem_filterMap.mp (List.mem_mergeSort.mp hpair)
    obtain ⟨n, hn, rfl⟩ := Option.map_eq_some_iff.mp hf
    exact hn
  have hsorted : sorted.map (·.1) = (fields.filterMap (order? ·.role)).mergeSort (· ≤ ·) := by
    rw [← orders_filterMap]
    exact List.map_mergeSort fun _ _ _ _ => rfl
  rw [isContiguous, beq_iff_eq] at h
  calc (inOrder order? fields).map (order? ·.role)
      = (sorted.map (·.1)).map some := by
        rw [inOrder, List.map_map, List.map_map]
        exact List.map_congr_left hown
    _ = (List.range (inOrder order? fields).length).map some := by rw [hsorted, h, length_inOrder]

end

/-- **The key of an entity is in order**: there is a partition key, the places in each part of the
key are those from zero on, and the fields in order are the fields, first those of the partition
key and then those of the clustering key, each at its own place. -/
structure Entity.KeyInOrder (e : Entity) : Prop where
  partitioned : e.partitionFields ≠ []
  partition : (e.fields.filterMap (·.role.partitionOrder?)).Perm
    (List.range e.partitionFields.length)
  clustering : (e.fields.filterMap (·.role.clusteringOrder?)).Perm
    (List.range e.clusteringFields.length)
  partitionPlaces : e.partitionFields.map (·.role.partitionOrder?) =
    (List.range e.partitionFields.length).map some
  clusteringPlaces : e.clusteringFields.map (·.role.clusteringOrder?) =
    (List.range e.clusteringFields.length).map some
  fields : e.orderedFields.Perm e.fields
  keyFirst : e.orderedFields =
    e.partitionFields ++ e.clusteringFields ++ e.fields.filter (!·.isKey)

/-- The orders of an accepted key are contiguous. -/
theorem isContiguous_of_load (h : load d registry defaults = .ok s) (he : e ∈ s.entities) :
    isContiguous (e.fields.filterMap (·.role.partitionOrder?)) = true
      ∧ isContiguous (e.fields.filterMap (·.role.clusteringOrder?)) = true := by
  have hkey := (accepted_of_entity h he).key
  simp only [keyFindings, List.append_eq_nil_iff, List.map_eq_nil_iff, orderFaults,
    ite_eq_left_iff, imp_false, not_not, List.cons_ne_nil] at hkey
  exact ⟨hkey.1.1.2, hkey.1.2⟩

/-- **The key of every accepted entity is in order.** -/
theorem keyInOrder_of_load (h : load d registry defaults = .ok s) (he : e ∈ s.entities) :
    e.KeyInOrder := by
  obtain ⟨hpartition, hclustering⟩ := isContiguous_of_load h he
  constructor
  · obtain ⟨f, hf, hrole⟩ := exists_partition_of_load h he
    exact List.ne_nil_of_mem (mem_inOrder.mpr ⟨hf, hrole⟩)
  · rw [Entity.partitionFields, length_inOrder]
    exact perm_of_isContiguous hpartition
  · rw [Entity.clusteringFields, length_inOrder]
    exact perm_of_isContiguous hclustering
  · exact orders_inOrder hpartition
  · exact orders_inOrder hclustering
  · exact orderedFields_perm e
  · rfl

end Schema

/-! ## 2. What a mapping tells of its table -/

/-- Whether all rows of a partition share the column. -/
def ColumnKind.isStatic : ColumnKind → Bool
  | .static | .staticCounter => true
  | _ => false

/-- A stored column as a statement defines it. -/
def ColumnMeta.definition (c : ColumnMeta) : String :=
  c.name ++ " " ++ c.cqlType ++ if c.kind.isStatic then " static" else ""

namespace Mapping

/-- What is told of the stored columns. -/
def stored (m : Mapping) : List ColumnMeta :=
  (m.columns.map (·.about)).filter (·.kind != .computed)

/-- The columns of the key, in its order. -/
def keyColumns (m : Mapping) : List String :=
  m.partitionColumns ++ m.clusteringColumns.map (·.name)

/-- The primary key in a statement. -/
def keyText (m : Mapping) : String :=
  let partition :=
    match m.partitionColumns with
    | [single] => single
    | several => "(" ++ Schema.commas several ++ ")"
  Schema.commas (partition :: m.clusteringColumns.map (·.name))

/-- The clause that fixes the directions of the clustering columns, in a statement. -/
def orderText (m : Mapping) : String :=
  match m.clusteringColumns with
  | [] => ""
  | columns =>
    " WITH CLUSTERING ORDER BY (" ++ Schema.commas (columns.map (·.orderItem .ascending)) ++ ")"

/-- The statement that creates a table with these columns. -/
def tableText (m : Mapping) (table : String) : String :=
  "CREATE TABLE IF NOT EXISTS " ++ table ++ " ("
    ++ Schema.commas (m.stored.map (·.definition)) ++ ", PRIMARY KEY (" ++ m.keyText ++ "))"
    ++ m.orderText

/-- The statement that creates a view with these columns, of a base. -/
def viewText (m : Mapping) (view base : String) : String :=
  "CREATE MATERIALIZED VIEW IF NOT EXISTS " ++ view ++ " AS SELECT "
    ++ Schema.commas (m.stored.map (·.name)) ++ " FROM " ++ base ++ " WHERE "
    ++ " AND ".intercalate (m.keyColumns.map (· ++ " IS NOT NULL"))
    ++ " PRIMARY KEY (" ++ m.keyText ++ ")" ++ m.orderText

end Mapping

/-! ## 3. Mappings of entities -/

namespace Schema

variable {d : Declaration} {registry : Registry} {defaults : Defaults} {s : Schema}
  {e base : Entity} {m : Mapping}

/-- The item of a clustering field in the other direction. -/
def reversedItem (f : Field) : String :=
  f.column ++ if f.role.isDescending then " ASC" else " DESC"

/-- Stored fields of an accepted batch are selected by their columns. -/
theorem projection_of_stored (h : load d registry defaults = .ok s) (he : e ∈ s.entities) :
    ∀ f ∈ storedFields e, e.projection f = f.column := by
  intro f hf
  obtain ⟨hordered, hstored⟩ := List.mem_filter.mp hf
  have hcomputed := isComputed_of_load h he f (mem_orderedFields.mp hordered)
  have hnone : f.computed = none := by simpa [hcomputed] using hstored
  rw [Entity.projection, hnone]

theorem isStatic_columnKind (r : Role) : r.columnKind.isStatic = r.isStatic := by
  cases r <;> rfl

theorem isWritable_columnKind (r : Role) :
    r.columnKind.isWritable = (!r.isComputed && !r.isCounter) := by
  cases r <;> rfl

theorem ne_computed_columnKind (r : Role) : (r.columnKind != .computed) = !r.isComputed := by
  cases r <;> rfl

section
variable (habout : m.columns.map (·.about) = e.orderedFields.map
  fun f => ⟨f.column, f.role.columnKind, s.columnType e f, e.projection f⟩)
include habout

/-- The stored columns are those of the stored fields. -/
theorem stored_of_about : m.stored = (storedFields e).map
    fun f => ⟨f.column, f.role.columnKind, s.columnType e f, e.projection f⟩ := by
  rw [Mapping.stored, habout, List.filter_map, storedFields]
  congr 2
  funext f
  exact ne_computed_columnKind f.role

theorem names_of_stored : m.stored.map (·.name) = (storedFields e).map (·.column) := by
  rw [stored_of_about habout, List.map_map]
  rfl

theorem definitions_of_stored :
    m.stored.map (·.definition) = (storedFields e).map (columnDefinition s e) := by
  rw [stored_of_about habout, List.map_map]
  refine List.map_congr_left fun f _ => ?_
  simp [ColumnMeta.definition, columnDefinition, isStatic_columnKind]

/-- What SELECT projects, without calls, is the columns that are stored. -/
theorem expressions_of_stored (h : load d registry defaults = .ok s) (he : e ∈ s.entities) :
    m.stored.map (·.expression) = m.stored.map (·.name) := by
  rw [names_of_stored habout, stored_of_about habout, List.map_map]
  exact List.map_congr_left (projection_of_stored h he)

/-- The orders of the mapping are the one that is fixed and the one against it. -/
theorem orderItems_of_about :
    m.clusteringColumns.map (·.orderItem .ascending) = e.clusteringFields.map orderItem
      ∧ m.clusteringColumns.map (·.orderItem .descending) = e.clusteringFields.map reversedItem := by
  rw [clusteringColumns_of_about habout, List.map_map, List.map_map]
  constructor <;> refine List.map_congr_left fun f _ => ?_ <;>
    cases hdown : f.role.isDescending <;>
    simp [ClusteringColumn.orderItem, ClusteringColumn.growsIn, orderItem, reversedItem, hdown]

theorem keyColumns_of_about :
    m.keyColumns = (e.partitionFields ++ e.clusteringFields).map (·.column) := by
  rw [Mapping.keyColumns, partitionColumns_of_about habout, clusteringColumns_of_about habout,
    List.map_map, List.map_append]
  rfl

theorem keyText_of_about : m.keyText = primaryKey e := by
  rw [Mapping.keyText, primaryKey, partitionColumns_of_about habout,
    clusteringColumns_of_about habout, List.map_map]
  rfl

theorem orderText_of_about : m.orderText = clusteringOrder e := by
  have hitems := (orderItems_of_about habout).1
  rw [Mapping.orderText, clusteringOrder]
  rw [clusteringColumns_of_about habout] at hitems ⊢
  cases hfields : e.clusteringFields with
  | nil => rfl
  | cons f fs =>
    rw [hfields] at hitems
    exact congrArg (" WITH CLUSTERING ORDER BY (" ++ commas · ++ ")") hitems

/-- **A table is created with the columns that its mapping tells of**, the key in the order of its
columns and directions. -/
theorem createTable_eq : createTable s e = m.tableText e.qualifiedTable := by
  unfold createTable Mapping.tableText
  rw [definitions_of_stored habout, keyText_of_about habout, orderText_of_about habout]

/-- **A view is created with the columns that its mapping tells of.** -/
theorem createView_eq (base : Entity) :
    createView e base = m.viewText e.qualifiedTable base.qualifiedTable := by
  have hkeys : m.keyColumns.map (· ++ " IS NOT NULL") =
      (e.partitionFields ++ e.clusteringFields).map fun f => f.column ++ " IS NOT NULL" := by
    rw [keyColumns_of_about habout, List.map_map]
    rfl
  unfold createView Mapping.viewText
  rw [names_of_stored habout, hkeys, keyText_of_about habout, orderText_of_about habout]

/-- **An insert writes the stored columns**, where nothing counts. -/
theorem assignments_of_insert (hcounters : e.hasCounters = false) {r : m.Record}
    {pairs : List (String × Value)} (h : r.encodeColumns m.columns = .ok pairs) :
    (m.insert r).assignments.map (·.text) = m.stored.map (·.name) := by
  have hkinds : ∀ c ∈ m.columns.map (·.about),
      c.kind.isWritable = (c.kind != .computed) := by
    rw [habout, List.forall_mem_map]
    intro f hf
    have hcounter : f.role.isCounter = false := by
      simpa using List.any_eq_false.mp hcounters f (mem_orderedFields.mp hf)
    rw [isWritable_columnKind, ne_computed_columnKind, hcounter, Bool.not_false, Bool.and_true]
  calc (m.insert r).assignments.map (·.text)
      = pairs.map (·.1) := by
        rw [Mapping.insert, h]
        simp [Query.inserting]
    _ = ((m.columns.map (·.about)).filter (·.kind.isWritable)).map (·.name) := by
        rw [Record.names_of_encodeColumns h, List.filter_map, List.map_map]
        rfl
    _ = m.stored.map (·.name) := by
        rw [Mapping.stored, List.filter_congr hkinds]

end

end Schema

end WideColumn
