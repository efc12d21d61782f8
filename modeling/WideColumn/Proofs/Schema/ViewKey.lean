/-
# How the key of a view stands to the key of its base

A view holds the rows of its base under another key.  For this to be sound its key has to tell
apart all that the key of the base tells apart, so it has all of that, and the store allows for one
further column.  The rules ask for it in parts: what the base may be, what the view lacks, which of
its key columns are new, and what each field is matched with.  `Entity.KeyedOver` says what an
accepted view comes to, and `view_keyedOver` that it does.

The rules look fields up by name.  They speak of the fields meant only since no two fields of an
entity share a name, in the view and in the base alike.
-/
import WideColumn.Proofs.Schema.Dependencies

namespace WideColumn.Schema

variable {d : Declaration} {registry : Registry} {defaults : Defaults} {s : Schema}
  {e v b : Entity} {f g : Field} {name : String}

/-! ## 1. Keyed over a base -/

/-- **One field matches another**: they have one name, one column and one declared type. -/
structure Field.Matches (g f : Field) : Prop where
  name : g.name = f.name
  column : g.column = f.column
  type : g.shape.sameType f.shape = true

/-- **A view adds a field to the key** if the base has no key field of that name. -/
def AddsToKey (b : Entity) (f : Field) : Prop :=
  f.isKey = true ∧ ∀ g ∈ b.fields, g.name = f.name → g.isKey = false

/-- **A view that is keyed over its base.**  The base is a table without counters.  The view keeps
the key of the base and adds at most one field to it, one that the base has outside its key; it
has neither indexes nor static fields, and leaves out no collection or user type of the base. -/
structure Entity.KeyedOver (v b : Entity) : Prop where
  table : b.isView = false
  uncounted : b.hasCounters = false
  kept : ∀ g ∈ b.fields, g.isKey = true → ∃ f ∈ v.fields, f.isKey = true ∧ g.Matches f
  added : ∀ f ∈ v.fields, AddsToKey b f → ∃ g ∈ b.fields, g.isKey = false ∧ g.Matches f
  once : ∀ f ∈ v.fields, ∀ f' ∈ v.fields, AddsToKey b f → AddsToKey b f' → f = f'
  unindexed : ∀ f ∈ v.fields, f.indexes = []
  unshared : ∀ f ∈ v.fields, f.role.isStatic = false
  composites : ∀ g ∈ b.fields, g.shape.isCollection = true ∨ g.shape.isUdt = true →
    ∃ f ∈ v.fields, f.name = g.name

/-! ## 2. Fields by name -/

theorem field?_of_mem (h : (e.fields.map (·.name)).Nodup) (hf : f ∈ e.fields) :
    e.field? f.name = some f :=
  find?_of_nodup h hf

theorem mem_of_field? (h : e.field? name = some f) : f ∈ e.fields ∧ f.name = name :=
  ⟨List.mem_of_find?_eq_some h, by simpa using List.find?_some h⟩

/-- An entity has a key field of a name exactly if its field of the name is one. -/
theorem hasKey_iff (h : (e.fields.map (·.name)).Nodup) :
    hasKey e name = true ↔ ∃ f ∈ e.fields, f.name = name ∧ f.isKey = true := by
  rw [hasKey, Option.any_eq_true]
  constructor
  · rintro ⟨f, hf, hkey⟩
    obtain ⟨hmem, hname⟩ := mem_of_field? hf
    exact ⟨f, hmem, hname, hkey⟩
  · rintro ⟨f, hf, rfl, hkey⟩
    exact ⟨f, field?_of_mem h hf, hkey⟩

theorem addsToKey_iff (h : (b.fields.map (·.name)).Nodup) :
    AddsToKey b f ↔ (f.isKey && !hasKey b f.name) = true := by
  rw [AddsToKey, Bool.and_eq_true, Bool.not_eq_true', ← Bool.not_eq_true, hasKey_iff h]
  simp

/-! ## 3. What the rules for views ask for -/

section
variable (hview : v.viewOf = some name) (h : viewFindings v (some b) = [])

include hview h

theorem baseFaults_of_viewFindings : baseFaults b name = [] := by
  simp only [viewFindings, hview, List.append_eq_nil_iff, List.map_eq_nil_iff] at h
  exact h.1.1.1

theorem missingFaults_of_viewFindings : missingFaults v b = [] := by
  simp only [viewFindings, hview, List.append_eq_nil_iff, List.map_eq_nil_iff] at h
  exact h.1.1.2

theorem extraKeyFaults_of_viewFindings : extraKeyFaults v b = [] := by
  simp only [viewFindings, hview, List.append_eq_nil_iff, List.map_eq_nil_iff] at h
  exact h.1.2

theorem viewFieldFaults_of_viewFindings (hf : f ∈ v.fields) : viewFieldFaults b f = [] := by
  simp only [viewFindings, hview, List.append_eq_nil_iff, List.flatMap_eq_nil_iff,
    List.map_eq_nil_iff] at h
  exact h.2 f hf

/-- A stored field of a view is matched by a field of the base. -/
theorem exists_matches (hf : f ∈ v.fields) (hstored : f.role.isComputed = false) :
    ∃ g ∈ b.fields, g.Matches f := by
  obtain ⟨g, hg, hname, hcolumn, htext⟩ := matched_of_viewFindings hview h hf hstored
  exact ⟨g, hg, hname, hcolumn, by rw [Shape.sameType, htext, BEq.rfl]⟩

end

/-- **A view that keeps the rules over a base is keyed over it**, if each has its fields by name. -/
theorem keyedOver_of_viewFindings (hview : v.viewOf = some name)
    (hfound : viewFindings v (some b) = []) (hv : (v.fields.map (·.name)).Nodup)
    (hb : (b.fields.map (·.name)).Nodup) : v.KeyedOver b := by
  have hbase := baseFaults_of_viewFindings hview hfound
  have hmissing := missingFaults_of_viewFindings hview hfound
  have hextra := extraKeyFaults_of_viewFindings hview hfound
  simp only [baseFaults, List.append_eq_nil_iff, ite_eq_right_iff, reduceCtorEq, imp_false,
    Bool.not_eq_true] at hbase
  simp only [missingFaults, List.append_eq_nil_iff, List.map_eq_nil_iff, List.filter_eq_nil_iff,
    Bool.and_eq_true, Bool.not_eq_true', not_and, Bool.not_eq_false] at hmissing
  obtain ⟨hkeys, hcomposites⟩ := hmissing
  refine ⟨hbase.1, hbase.2, ?kept, ?added, ?once, ?unindexed, ?unshared, ?composites⟩
  case kept =>
    intro g hg hkey
    obtain ⟨f, hf, hname, hfkey⟩ := (hasKey_iff hv).mp (hkeys g hg hkey)
    obtain ⟨g', hg', hmatch⟩ := exists_matches hview hfound hf (isComputed_of_isKey hfkey)
    -- the field that matches is the one of that name
    obtain rfl : g' = g := List.inj_on_of_nodup_map hb hg' hg (hmatch.name.trans hname)
    exact ⟨f, hf, hfkey, hmatch⟩
  case added =>
    intro f hf hadds
    obtain ⟨g, hg, hmatch⟩ := exists_matches hview hfound hf (isComputed_of_isKey hadds.1)
    exact ⟨g, hg, hadds.2 g hg hmatch.name, hmatch⟩
  case once =>
    intro f hf f' hf' hadds hadds'
    simp only [extraKeyFaults, ite_eq_right_iff, reduceCtorEq, imp_false, Nat.not_lt] at hextra
    have hmem : f ∈ v.fields.filter fun f => f.isKey && !hasKey b f.name :=
      List.mem_filter.mpr ⟨hf, (addsToKey_iff hb).mp hadds⟩
    have hmem' : f' ∈ v.fields.filter fun f => f.isKey && !hasKey b f.name :=
      List.mem_filter.mpr ⟨hf', (addsToKey_iff hb).mp hadds'⟩
    obtain ⟨x, hx⟩ := List.length_eq_one_iff.mp
      (Nat.le_antisymm hextra (List.length_pos_of_mem hmem))
    rw [hx, List.mem_singleton] at hmem hmem'
    exact hmem.trans hmem'.symm
  case unindexed =>
    intro f hf
    have hfaults := viewFieldFaults_of_viewFindings hview hfound hf
    simp only [viewFieldFaults, List.append_eq_nil_iff] at hfaults
    simpa using hfaults.1.1
  case unshared =>
    intro f hf
    have hfaults := viewFieldFaults_of_viewFindings hview hfound hf
    simp only [viewFieldFaults, List.append_eq_nil_iff] at hfaults
    simpa using hfaults.1.2
  case composites =>
    intro g hg hcomposite
    obtain ⟨f, hf⟩ := Option.ne_none_iff_exists'.mp
      (by simpa using hcomposites g hg (by simpa using hcomposite))
    exact ⟨f, mem_of_field? hf⟩

/-! ## 4. Views of an accepted batch -/

/-- A field that counts is in the key, or is computed, or has the role of a counter. -/
theorem declaredRole_of_counter (df : Declaration.Field) :
    (declaredRole df true).isKey = true ∨ (declaredRole df true).isComputed = true
      ∨ (declaredRole df true).isCounter = true := by
  rw [declaredRole.eq_def]
  cases df.partition with
  | some order => exact Or.inl rfl
  | none =>
    cases df.clustering with
    | some c => exact Or.inl rfl
    | none =>
      cases df.computed with
      | some c => exact Or.inr (Or.inl rfl)
      | none => cases df.isStatic <;> exact Or.inr (Or.inr rfl)

/-- **In an entity without counter columns nothing that is stored counts.** -/
theorem isCounter_shape_of_load (h : load d registry defaults = .ok s) (he : e ∈ s.entities)
    (hcounters : e.hasCounters = false) (hf : f ∈ e.fields) (hstored : f.role.isComputed = false) :
    f.shape.isCounter = false := by
  obtain ⟨de, -, -, hdeclared⟩ := declared_of_load h he
  obtain ⟨df, -, hkeeps⟩ := hdeclared f hf
  by_contra hcounts
  rw [Bool.not_eq_false] at hcounts
  have hrole : f.role = declaredRole df true := hcounts ▸ hkeeps.role
  rcases declaredRole_of_counter df with hkey | hcomputed | hcounter
  · have hfaults := (accepted_of_entity h he).counterKeys f hf
    simp [counterKeyFaults, hcounts, Field.isKey, hrole, hkey] at hfaults
  · rw [hrole, hcomputed] at hstored
    cases hstored
  · rw [Entity.hasCounters, List.any_eq_false] at hcounters
    exact hcounters f hf (hrole ▸ hcounter)

/-- A view without indexes is created by one statement. -/
theorem entityStatements_view (hunindexed : ∀ f ∈ v.fields, f.indexes = [])
    (hbase : v.viewOf.bind s.entity? = some b) : s.entityStatements v = [createView v b] := by
  have hnone : v.indexedFields = [] := by
    refine List.filter_eq_nil_iff.mpr ?_
    intro f hf
    simp [hunindexed f hf]
  rw [entityStatements_eq, Entity.creations, hnone]
  simp [Creation.statement, hbase]

/-- **The key of a view is that of its base and at most one column more.**  In an accepted batch the
base of a view is an entity of the batch, made of a declared one; none of its stored columns counts;
the view is created over it and over nothing else; and the view is keyed over it. -/
theorem view_keyedOver (h : load d registry defaults = .ok s) (hv : v ∈ s.entities)
    (hview : v.viewOf = some name) :
    ∃ b ∈ s.entities, s.entity? name = some b
      ∧ (∃ db ∈ d.entities, db.name = name ∧ Entity.ofDeclaration defaults s.userTypes db = .ok b)
      ∧ (∀ g ∈ b.fields, g.role.isComputed = false → g.shape.isCounter = false)
      ∧ s.entityStatements v = [createView v b]
      ∧ v.KeyedOver b := by
  obtain ⟨b, hb, hbase, hfound⟩ := base_of_load h hv hview
  have hkeyed : v.KeyedOver b := keyedOver_of_viewFindings hview hfound (nodup_names_of_load h hv)
    (nodup_names_of_load h hb)
  obtain ⟨db, hdb, hmake⟩ := exists_of_mem_collect b (by rwa [(loaded_of_load h).entities])
  have hname : db.name = name := by
    have hnames : b.name = name := by simpa using List.find?_some hbase
    obtain ⟨fields, -, rfl⟩ := Entity.eq_of_ofDeclaration hmake
    exact hnames
  refine ⟨b, hb, hbase, ⟨db, hdb, hname, hmake⟩, ?_, ?_, hkeyed⟩
  · intro g hg hstored
    exact isCounter_shape_of_load h hb hkeyed.uncounted hg hstored
  · exact entityStatements_view hkeyed.unindexed (by rw [hview, Option.bind_some, hbase])

/-- Calls with notes, and a view that finds them by the one who was called. -/
def callsByCallee : Declaration where
  userTypes := [{ name := "Line", fields := [⟨"number", "text", none⟩] }]
  entities := [
    { name := "Call"
      fields := [
        (Declaration.Field.typed "id" "timeuuid").inPartition 0,
        .typed "callee" "uuid",
        .typed "line" "frozen<Line>",
        .typed "notes" "list<text>",
        .typed "seconds" "int"] },
    { name := "CallByCallee"
      viewOf := some "Call"
      fields := [
        (Declaration.Field.typed "callee" "uuid").inPartition 0,
        (Declaration.Field.typed "id" "timeuuid").inClustering 0 false,
        .typed "line" "frozen<Line>",
        .typed "notes" "list<text>"] }]

theorem view_keyedOver_calls :
    ∃ s v b, load callsByCallee {} {} = .ok s ∧ v ∈ s.entities ∧ v.viewOf = some "Call"
      ∧ b ∈ s.entities ∧ s.entity? "Call" = some b
      ∧ (∃ db ∈ callsByCallee.entities, db.name = "Call"
        ∧ Entity.ofDeclaration {} s.userTypes db = .ok b)
      ∧ (∀ g ∈ b.fields, g.role.isComputed = false → g.shape.isCounter = false)
      ∧ s.entityStatements v = [createView v b]
      ∧ v.KeyedOver b := by
  have hready : ((load callsByCallee {} {}).toOption.bind fun s => s.entities[1]?.map fun v =>
      v.viewOf) = some (some "Call") := by decide +kernel
  simp only [Option.bind_eq_some_iff, Option.map_eq_some_iff, Except.toOption_eq_some_iff] at hready
  obtain ⟨s, hload, v, hv, hview⟩ := hready
  have hmem := List.mem_of_getElem? hv
  obtain ⟨b, hb, hbase, hrest⟩ := view_keyedOver hload hmem hview
  exact ⟨s, v, b, hload, hmem, hview, hb, hbase, hrest⟩

end WideColumn.Schema
