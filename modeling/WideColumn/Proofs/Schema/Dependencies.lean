/-
# In which order things are created

The statements of a schema are a list of CREATIONS: its user types, then each table with its
indexes, then each view with its own.  A creation may NEED another one: a user type and an entity
need the user types that their fields name, a view needs its base, an index needs its entity.

Whatever needs a table is created after it, in every accepted batch, and so is every entity after
the types it needs.  User types alone are not put in order: they are created as they were
declared, so the whole list has every creation after those it needs exactly if no user type was
declared before one that it names (`creations_ordered_iff`).  `part_created_late` is an accepted
batch where one was.
-/
import WideColumn.Proofs.Schema.View
import WideColumn.Schema.Ddl

namespace WideColumn.Schema

variable {d : Declaration} {registry : Registry} {defaults : Defaults} {s : Schema}
  {e e' b : Entity}

/-! ## 1. Creations -/

/-- What a statement of a schema creates. -/
inductive Creation where
  | userType (u : UserType)
  /-- A table, or a view. -/
  | entity (e : Entity)
  | index (e : Entity) (f : Field) (i : Index)

/-- The user types that the fields of a user type name. -/
def UserType.named (u : UserType) : List String := u.fields.flatMap (·.shape.udtNames)

/-- The user types that the fields of an entity name. -/
def Entity.named (e : Entity) : List String := e.fields.flatMap (·.shape.udtNames)

/-- Which other creation a creation cannot do without. -/
inductive Needs (s : Schema) : Creation → Creation → Prop
  | part {u w : UserType} (h : w.typeName ∈ u.named) : Needs s (.userType u) (.userType w)
  | type {e : Entity} {u : UserType} (h : u.typeName ∈ e.named) :
      Needs s (.entity e) (.userType u)
  | base {v b : Entity} (h : v.viewOf.bind s.entity? = some b) : Needs s (.entity v) (.entity b)
  | indexed {e : Entity} {f : Field} {i : Index} : Needs s (.index e f i) (.entity e)

/-- An entity and its indexes. -/
def Entity.creations (e : Entity) : List Creation :=
  .entity e :: e.indexedFields.flatMap fun f => f.indexes.map (.index e f)

/-- All that the statements of a schema create, in their order. -/
def creations (s : Schema) : List Creation :=
  s.userTypes.map .userType ++ (s.entities.filter (!·.isView)).flatMap Entity.creations
    ++ (s.entities.filter (·.isView)).flatMap Entity.creations

/-- The statement of a creation. -/
def Creation.statement (s : Schema) : Creation → String
  | userType u => createType u
  | entity e =>
    match e.viewOf.bind s.entity? with
    | some base => createView e base
    | none => createTable s e
  | index e f i => createIndex e f i

theorem entityStatements_eq (s : Schema) (e : Entity) :
    s.entityStatements e = e.creations.map (Creation.statement s) := by
  simp only [entityStatements, createIndexes, Entity.creations, List.map_cons, List.map_flatMap,
    List.map_map]
  rfl

/-- The statements of a schema are those of its creations. -/
theorem statements_eq (s : Schema) : s.statements = s.creations.map (Creation.statement s) := by
  have hentity : s.entityStatements = fun e => e.creations.map (Creation.statement s) :=
    funext (entityStatements_eq s)
  simp only [statements, creations, List.map_append, List.map_map, List.map_flatMap, hentity]
  rfl

/-! ## 2. What stands in which part of the list -/

/-- What a schema creates, by entities rather than by tables and views. -/
theorem creations_perm (s : Schema) :
    s.creations.Perm (s.userTypes.map .userType ++ s.entities.flatMap Entity.creations) := by
  rw [creations, List.append_assoc, ← List.flatMap_append]
  refine List.Perm.append_left _ (List.Perm.flatMap_right _ ?_)
  exact List.perm_append_comm.trans (List.filter_append_perm _ _)

theorem userType_mem_creations_iff {u : UserType} :
    .userType u ∈ s.creations ↔ u ∈ s.userTypes := by
  rw [(creations_perm s).mem_iff]
  simp [Entity.creations]

theorem entity_mem_creations_iff : .entity e ∈ s.creations ↔ e ∈ s.entities := by
  rw [(creations_perm s).mem_iff]
  simp [Entity.creations]

theorem index_mem_creations_iff {f : Field} {i : Index} :
    .index e f i ∈ s.creations ↔ e ∈ s.entities ∧ f ∈ e.fields ∧ i ∈ f.indexes := by
  have hsome : f.indexes = [] → i ∉ f.indexes := fun hnone => by simp [hnone]
  rw [(creations_perm s).mem_iff]
  simp only [Entity.creations, Entity.indexedFields, List.mem_append, List.mem_map,
    List.mem_flatMap, List.mem_cons, List.mem_filter, reduceCtorEq, and_false, exists_false, false_or,
    Creation.index.injEq]
  constructor
  · rintro ⟨e, he, f, ⟨hf, -⟩, i, hi, rfl, rfl, rfl⟩
    exact ⟨he, hf, hi⟩
  · rintro ⟨he, hf, hi⟩
    exact ⟨e, he, f, ⟨hf, by simpa using fun hnone => hsome hnone hi⟩, i, hi, rfl, rfl, rfl⟩

theorem mem_entityCreations {c : Creation} (h : c ∈ e.creations) :
    c = .entity e ∨ ∃ f i, c = .index e f i := by
  rcases List.mem_cons.mp h with rfl | h
  · exact Or.inl rfl
  · obtain ⟨f, -, h⟩ := List.mem_flatMap.mp h
    obtain ⟨i, -, rfl⟩ := List.mem_map.mp h
    exact Or.inr ⟨f, i, rfl⟩

/-- Nothing that an entity brings needs what comes later with the same entity. -/
theorem pairwise_entityCreations (s : Schema) (e : Entity) :
    e.creations.Pairwise fun a c => ¬Needs s a c := by
  refine List.pairwise_cons.mpr ⟨?_, List.pairwise_of_forall_mem_list ?_⟩
  · intro c hc hneeds
    obtain ⟨f, -, hc⟩ := List.mem_flatMap.mp hc
    obtain ⟨i, -, rfl⟩ := List.mem_map.mp hc
    cases hneeds
  · intro a ha c hc hneeds
    obtain ⟨f, -, hc⟩ := List.mem_flatMap.mp hc
    obtain ⟨i, -, rfl⟩ := List.mem_map.mp hc
    cases hneeds

/-- What one entity brings needs nothing of another one, unless that is its base. -/
theorem not_needs_of_ne {a c : Creation} (hne : e ≠ e') (hbase : ¬e.viewOf.bind s.entity? = some e')
    (ha : a ∈ e.creations) (hc : c ∈ e'.creations) : ¬Needs s a c := by
  intro hneeds
  rcases mem_entityCreations ha with rfl | ⟨f, i, rfl⟩ <;>
    rcases mem_entityCreations hc with rfl | ⟨f', i', rfl⟩
  · cases hneeds with
    | base h => exact hbase h
  · cases hneeds
  · cases hneeds
    exact hne rfl
  · cases hneeds

/-- Entities of which none is the base of another need nothing that comes later with them. -/
theorem pairwise_flatMap_creations {es : List Entity} (hnodup : es.Nodup)
    (hbase : ∀ e ∈ es, ∀ e' ∈ es, ¬e.viewOf.bind s.entity? = some e') :
    (es.flatMap Entity.creations).Pairwise fun a c => ¬Needs s a c := by
  refine List.pairwise_flatMap.mpr ⟨?_, ?_⟩
  · intro e he
    exact pairwise_entityCreations s e
  · refine List.Pairwise.imp_of_mem ?_ hnodup
    intro e e' he he' hne a ha c hc
    exact not_needs_of_ne hne (hbase e he e' he') ha hc

/-! ## 3. Accepted batches -/

/-- An accepted batch has no entity twice. -/
theorem nodup_entities_of_load (h : load d registry defaults = .ok s) : s.entities.Nodup :=
  (List.nodup_append.mp (nodup_allNames_of_load h)).1.of_map

/-- The base of a view of an accepted batch is a table. -/
theorem isView_base_of_load (h : load d registry defaults = .ok s) (he : e ∈ s.entities)
    (hbase : e.viewOf.bind s.entity? = some b) : b.isView = false := by
  obtain ⟨name, hname, hb⟩ := Option.bind_eq_some_iff.mp hbase
  obtain ⟨b', -, hb', hfound⟩ := base_of_load h he hname
  obtain rfl : b' = b := Option.some.inj (hb'.symm.trans hb)
  simp only [viewFindings, hname, baseFaults, List.append_eq_nil_iff, List.map_eq_nil_iff,
    ite_eq_right_iff, reduceCtorEq, imp_false] at hfound
  simpa using hfound.1.1.1.1

/-- **When every creation comes after those it needs.**  In an accepted batch all that can come too
late is a user type: one that was declared after another that names it. -/
theorem creations_ordered_iff (h : load d registry defaults = .ok s) :
    s.statements = s.creations.map (Creation.statement s) ∧
      ((s.creations.Pairwise fun a c => ¬Needs s a c) ↔
        s.userTypes.Pairwise fun u w => w.typeName ∉ u.named) := by
  refine ⟨statements_eq s, ?_⟩
  have hnodup := nodup_entities_of_load h
  have hbase : ∀ e ∈ s.entities, ∀ e', e.viewOf.bind s.entity? = some e' → e'.isView = false :=
    fun e he e' => isView_base_of_load h he
  have htypes : ((s.userTypes.map Creation.userType).Pairwise fun a c => ¬Needs s a c) ↔
      s.userTypes.Pairwise fun u w => w.typeName ∉ u.named := by
    rw [List.pairwise_map]
    refine List.Pairwise.iff ?_
    intro u w
    refine not_congr ⟨?_, .part⟩
    intro hneeds
    cases hneeds with
    | part h => exact h
  rw [creations, List.append_assoc, List.pairwise_append, List.pairwise_append, htypes]
  refine ⟨And.left, fun hordered => ⟨hordered, ⟨?_, ?_, ?_⟩, ?_⟩⟩
  · -- tables are no views, so none has a base
    refine pairwise_flatMap_creations (hnodup.filter _) ?_
    intro e he e' _ hb
    have htable : e.viewOf = none := by simpa [Entity.isView] using (List.mem_filter.mp he).2
    simp [htable] at hb
  · -- views are the base of nothing
    refine pairwise_flatMap_creations (hnodup.filter _) ?_
    intro e he e' he' hb
    have hview := (List.mem_filter.mp he').2
    rw [hbase e (List.mem_filter.mp he).1 e' hb] at hview
    cases hview
  · intro a ha c hc
    obtain ⟨e, he, ha⟩ := List.mem_flatMap.mp ha
    obtain ⟨e', he', hc⟩ := List.mem_flatMap.mp hc
    have htable : e.viewOf = none := by simpa [Entity.isView] using (List.mem_filter.mp he).2
    refine not_needs_of_ne ?_ (by simp [htable]) ha hc
    rintro rfl
    simpa [Entity.isView, htable] using (List.mem_filter.mp he').2
  · -- a user type needs no entity
    intro a ha c hc hneeds
    obtain ⟨u, -, rfl⟩ := List.mem_map.mp ha
    cases hneeds with
    | part h =>
      rcases List.mem_append.mp hc with hc | hc <;> obtain ⟨e, -, hc⟩ := List.mem_flatMap.mp hc <;>
        rcases mem_entityCreations hc with heq | ⟨f, i, heq⟩ <;> cases heq

/-- Two user types, the second a part of the first. -/
def outerBeforeInner : Declaration where
  userTypes := [
    (Declaration.UserType.mk "Outer" none none []).addField "part" "frozen<inner>",
    (Declaration.UserType.mk "Inner" none none []).addField "n" "int"]

theorem creations_ordered_iff_outer :
    ∃ s, load outerBeforeInner {} {} = .ok s
      ∧ s.statements = s.creations.map (Creation.statement s)
      ∧ ((s.creations.Pairwise fun a c => ¬Needs s a c) ↔
        s.userTypes.Pairwise fun u w => w.typeName ∉ u.named) := by
  have hready : (load outerBeforeInner {} {}).toOption.isSome = true := by decide +kernel
  obtain ⟨s, hs⟩ := Option.isSome_iff_exists.mp hready
  have hload := Except.toOption_eq_some_iff.mp hs
  exact ⟨s, hload, creations_ordered_iff hload⟩

/-- **A user type may be created before one that it needs.**  The two types are accepted as they
were declared, and created so. -/
theorem part_created_late :
    ∃ s u w, load outerBeforeInner {} {} = .ok s ∧ s.creations = [.userType u, .userType w]
      ∧ Needs s (.userType u) (.userType w)
      ∧ s.statements = ["CREATE TYPE IF NOT EXISTS outer (part frozen<inner>)",
        "CREATE TYPE IF NOT EXISTS inner (n int)"] := by
  have hready : ((load outerBeforeInner {} {}).toOption.bind fun s => s.userTypes[0]?.bind fun u =>
      s.userTypes[1]?.map fun w => (s.userTypes.length, s.entities.length,
        decide (w.typeName ∈ u.named), s.statements)) =
      some (2, 0, true, ["CREATE TYPE IF NOT EXISTS outer (part frozen<inner>)",
        "CREATE TYPE IF NOT EXISTS inner (n int)"]) := by decide +kernel
  simp only [Option.bind_eq_some_iff, Option.map_eq_some_iff, Except.toOption_eq_some_iff,
    Prod.mk.injEq, decide_eq_true_eq] at hready
  obtain ⟨s, hload, u, hu, w, hw, htypes, hentities, hnamed, hstatements⟩ := hready
  have hpair : s.userTypes = [u, w] := by
    obtain ⟨x, y, hxy⟩ := List.length_eq_two.mp htypes
    simp_all
  refine ⟨s, u, w, hload, ?_, .part hnamed, hstatements⟩
  simp [creations, hpair, List.length_eq_zero_iff.mp hentities]

end WideColumn.Schema
