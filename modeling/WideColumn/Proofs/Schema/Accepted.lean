/-
# Accepted batches

A batch is accepted if nothing was found on it, and nothing is found on a batch exactly if it keeps
the rules (`findings_eq_nil_iff`).  One step stands between the two: views whose base could not be
made are not examined.  An item is never refused without a finding, so in an accepted batch
everything was made and everything was examined, and it keeps the rules (`accepted_of_load`).
Nothing is in a schema that was not declared (`declared_of_load`).
-/
import Mathlib.Data.List.Nodup
import WideColumn.Proofs.Except
import WideColumn.Schema

namespace WideColumn.Schema

/-! ## 1. What is made -/

section
variable {α β : Type} {name : α → String} {make : α → Checked β}

/-- Where every refusal has a finding and none was found, every item was made. -/
theorem made_of_collect (hspeaks : ∀ a, make a ≠ .error []) {as : List α}
    (h : (collect name make as).1 = []) : ∀ a ∈ as, ∃ b, make a = .ok b := by
  induction as with
  | nil => intro a ha; cases ha
  | cons a as ih =>
    rw [collect] at h
    cases hmake : make a with
    | ok b =>
      simp only [hmake] at h
      intro a' ha'
      rcases List.mem_cons.mp ha' with rfl | ha'
      · exact ⟨b, hmake⟩
      · exact ih h a' ha'
    | error fs =>
      simp only [hmake, List.append_eq_nil_iff, List.map_eq_nil_iff] at h
      exact absurd (h.1 ▸ hmake) (hspeaks a)

/-- Where every refusal has a finding and none was found, each item was made in its place. -/
theorem forall₂_of_collect (hspeaks : ∀ a, make a ≠ .error []) {as : List α}
    (h : (collect name make as).1 = []) :
    List.Forall₂ (fun a b => make a = .ok b) as (collect name make as).2 := by
  induction as with
  | nil => exact .nil
  | cons a as ih =>
    rw [collect] at h ⊢
    cases hmake : make a with
    | ok b =>
      simp only [hmake] at h ⊢
      exact .cons hmake (ih h)
    | error fs =>
      simp only [hmake, List.append_eq_nil_iff, List.map_eq_nil_iff] at h
      exact absurd (h.1 ▸ hmake) (hspeaks a)

/-- What was made was made of one of the items. -/
theorem exists_of_mem_collect {as : List α} :
    ∀ b ∈ (collect name make as).2, ∃ a ∈ as, make a = .ok b := by
  induction as with
  | nil => intro b hb; cases hb
  | cons a as ih =>
    intro b hb
    rw [collect] at hb
    cases hmake : make a with
    | ok b' =>
      simp only [hmake, List.mem_cons] at hb
      rcases hb with rfl | hb
      · exact ⟨a, List.mem_cons_self, hmake⟩
      · obtain ⟨a', ha', hb⟩ := ih b hb
        exact ⟨a', List.mem_cons_of_mem _ ha', hb⟩
    | error fs =>
      simp only [hmake] at hb
      obtain ⟨a', ha', hb⟩ := ih b hb
      exact ⟨a', List.mem_cons_of_mem _ ha', hb⟩

theorem exists_of_mem_collectAll {as : List α} {bs : List β}
    (h : collectAll name make as = .ok bs) : ∀ b ∈ bs, ∃ a ∈ as, make a = .ok b := by
  rw [collectAll] at h
  split at h
  · rename_i made hcollect
    cases h
    intro b hb
    exact exists_of_mem_collect b (by rwa [hcollect])
  · cases h

theorem forall₂_of_collectAll (hspeaks : ∀ a, make a ≠ .error []) {as : List α} {bs : List β}
    (h : collectAll name make as = .ok bs) : List.Forall₂ (fun a b => make a = .ok b) as bs := by
  rw [collectAll] at h
  split at h
  · rename_i made hcollect
    cases h
    have hall := forall₂_of_collect hspeaks (congrArg Prod.fst hcollect)
    rwa [hcollect] at hall
  · cases h

theorem collectAll_ne_error_nil (as : List α) : collectAll name make as ≠ .error [] := by
  rw [collectAll]
  split
  · intro h; cases h
  · rename_i hsome hfound
    intro h
    cases h
    exact hsome rfl

/-- Nor is what is made of all items. -/
theorem bind_collectAll_ne_error_nil {γ : Type} (as : List α) (whole : List β → γ) :
    (collectAll name make as >>= fun bs => .ok (whole bs)) ≠ .error [] := by
  intro h
  cases hall : collectAll name make as with
  | ok bs => rw [hall] at h; cases h
  | error found =>
    rw [hall] at h
    obtain rfl : found = [] := by injection h
    exact collectAll_ne_error_nil as hall

end

theorem TypeField.ofDeclaration_ne_error_nil (names : TypeNames) (naming : Naming)
    (f : Declaration.TypeField) : TypeField.ofDeclaration names naming f ≠ .error [] := by
  rw [TypeField.ofDeclaration]
  split <;> exact nofun

theorem Field.ofDeclaration_ne_error_nil (names : TypeNames) (naming : Naming)
    (f : Declaration.Field) : Field.ofDeclaration names naming f ≠ .error [] := by
  rw [Field.ofDeclaration]
  split
  · simp
  · simp only
    split
    · exact nofun
    · rename_i hfaults
      simpa using hfaults

theorem plainShape_ne_error_nil (names : TypeNames) (type : String) :
    plainShape names type ≠ .error [] := by
  rw [plainShape]
  split <;> exact nofun

/-- A user type is never refused without a finding. -/
theorem UserType.ofDeclaration_ne_error_nil (defaults : Defaults)
    (declared : List Declaration.UserType) (u : Declaration.UserType) :
    UserType.ofDeclaration defaults declared u ≠ .error [] :=
  bind_collectAll_ne_error_nil _ _

/-- An entity is never refused without a finding. -/
theorem Entity.ofDeclaration_ne_error_nil (defaults : Defaults) (types : List UserType)
    (e : Declaration.Entity) : Entity.ofDeclaration defaults types e ≠ .error [] :=
  bind_collectAll_ne_error_nil _ _

/-- Where every entity was made, all of them are examined. -/
theorem examined_of_made {defaults : Defaults} {types : List UserType}
    {declared : List Declaration.Entity} (entities : List Entity)
    (h : ∀ e ∈ declared, ∃ b, Entity.ofDeclaration defaults types e = .ok b) :
    examined declared entities defaults types = entities := by
  have hunmade : declared.filter (fun e =>
      (Entity.ofDeclaration defaults types e).toOption.isNone) = [] := by
    refine List.filter_eq_nil_iff.mpr ?_
    intro e he
    obtain ⟨b, hb⟩ := h e he
    simp [hb, Except.toOption]
  rw [examined, hunmade]
  simp

/-! ## 2. What is accepted -/

variable {d : Declaration} {registry : Registry} {defaults : Defaults} {s : Schema} {e : Entity}

/-- **What acceptance comes from**: every user type and every entity was made, nothing was found on
those that were examined, and each field has a strategy. -/
structure Loaded (d : Declaration) (registry : Registry) (defaults : Defaults) (s : Schema) :
    Prop where
  types : collect (·.name) (UserType.ofDeclaration defaults d.userTypes) d.userTypes
    = ([], s.userTypes)
  entities : collect (·.name) (Entity.ofDeclaration defaults s.userTypes) d.entities
    = ([], s.entities)
  found : findings (examined d.entities s.entities defaults s.userTypes) s.userTypes s.functions
    registry = []
  codecs : resolveAll registry s.userTypes s.entities = .ok s.codecs

theorem loaded_of_load (h : load d registry defaults = .ok s) : Loaded d registry defaults s := by
  rw [load] at h
  simp only at h
  split at h
  · rename_i hempty
    simp only [List.isEmpty_iff, List.append_eq_nil_iff] at hempty
    obtain ⟨⟨⟨htypes, hentities⟩, -⟩, hfound⟩ := hempty
    split at h
    · rename_i hcodecs
      cases h
      exact ⟨Prod.ext htypes rfl, Prod.ext hentities rfl, hfound, hcodecs⟩
    · cases h
  · cases h

/-- **Nothing is found on the schema of an accepted batch.** -/
theorem findings_of_load (h : load d registry defaults = .ok s) :
    findings s.entities s.userTypes s.functions registry = [] := by
  have hloaded := loaded_of_load h
  have hmade := made_of_collect (Entity.ofDeclaration_ne_error_nil _ _)
    (congrArg Prod.fst hloaded.entities)
  rw [← examined_of_made s.entities hmade]
  exact hloaded.found

theorem onFields_eq_nil_iff {faults : Field → List Violation} {fields : List Field} :
    onFields faults fields = [] ↔ ∀ f ∈ fields, faults f = [] := by
  simp only [onFields, List.flatMap_eq_nil_iff, List.map_eq_nil_iff]

/-- **The rules for a field on its own.** -/
structure Field.Accepted (f : Field) : Prop where
  name : fieldNameFaults f.name = []
  column : columnNameFaults f.column = []
  nesting : nestingFaults f.shape = []
  keyShape : f.isKey = true → keyShapeFaults f.shape = []
  indexes : indexFaults f = []

theorem fieldFaults_eq_nil_iff {f : Field} : fieldFaults f = [] ↔ f.Accepted := by
  simp only [fieldFaults, List.append_eq_nil_iff, ite_eq_right_iff]
  constructor
  · rintro ⟨⟨⟨⟨hname, hcolumn⟩, hnesting⟩, hkey⟩, hindexes⟩
    exact ⟨hname, hcolumn, hnesting, hkey, hindexes⟩
  · rintro ⟨hname, hcolumn, hnesting, hkey, hindexes⟩
    exact ⟨⟨⟨⟨hname, hcolumn⟩, hnesting⟩, hkey⟩, hindexes⟩

/-- **The rules for an entity.** -/
structure Entity.Accepted (types : List UserType) (registry : Registry) (e : Entity) : Prop where
  name : typeNameFaults e.name = []
  table : tableNameFaults e.table = []
  key : keyFindings e = []
  duplicates : duplicateFaults [] [] e.fields = []
  fields : ∀ f ∈ e.fields, f.Accepted
  counterKeys : ∀ f ∈ e.fields, counterKeyFaults f = []
  counterCompany : counterCompanyFaults e = []
  computed : ∀ f ∈ e.fields, computedFaults e f = []
  codecs : ∀ f ∈ e.fields, codecFaults types registry f = []

theorem entityFindings_eq_nil_iff {types : List UserType} :
    entityFindings types registry e = [] ↔ e.Accepted types registry := by
  simp only [entityFindings, List.append_eq_nil_iff, List.map_eq_nil_iff, onFields_eq_nil_iff,
    fieldFaults_eq_nil_iff]
  constructor
  · rintro ⟨⟨⟨⟨⟨⟨⟨⟨hname, htable⟩, hkey⟩, hduplicates⟩, hfields⟩, hkeys⟩, hcompany⟩, hcomputed⟩,
      hcodecs⟩
    exact ⟨hname, htable, hkey, hduplicates, hfields, hkeys, hcompany, hcomputed, hcodecs⟩
  · rintro ⟨hname, htable, hkey, hduplicates, hfields, hkeys, hcompany, hcomputed, hcodecs⟩
    exact ⟨⟨⟨⟨⟨⟨⟨⟨hname, htable⟩, hkey⟩, hduplicates⟩, hfields⟩, hkeys⟩, hcompany⟩, hcomputed⟩,
      hcodecs⟩

/-- **The rules for a user type.** -/
structure UserType.Accepted (types : List UserType) (u : UserType) : Prop where
  name : typeNameFaults u.name = []
  fieldNames : ∀ f ∈ u.fields, fieldNameFaults f.name = []
  nesting : ∀ f ∈ u.fields, typeFieldFaults f.shape = []
  fieldTypes : ∀ f ∈ u.fields, typeFieldTypeFaults types f.shape = []
  apart : containsItself types u = false

theorem userTypeFindings_eq_nil_iff {types : List UserType} {u : UserType} :
    userTypeFindings types u = [] ↔ u.Accepted types := by
  simp only [userTypeFindings, List.append_eq_nil_iff, List.map_eq_nil_iff,
    List.flatMap_eq_nil_iff, ite_eq_right_iff, List.cons_ne_nil, imp_false, Bool.not_eq_true]
  constructor
  · rintro ⟨⟨hname, hfields⟩, hapart⟩
    exact ⟨hname, fun f hf => (hfields f hf).1.1, fun f hf => (hfields f hf).1.2,
      fun f hf => (hfields f hf).2, hapart⟩
  · rintro ⟨hname, hnames, hnesting, htypes, hapart⟩
    exact ⟨⟨hname, fun f hf => ⟨⟨hnames f hf, hnesting f hf⟩, htypes f hf⟩⟩, hapart⟩

/-- **The rules for a whole batch.** -/
structure Accepted (entities : List Entity) (types : List UserType) (functions : List Function)
    (registry : Registry) : Prop where
  ofUserTypes : ∀ u ∈ types, u.Accepted types
  ofEntities : ∀ e ∈ entities, e.Accepted types registry
  ofViews : ∀ v ∈ entities, v.isView = true →
    viewFindings v (v.viewOf.bind (lastEntity? entities)) = []
  names : sharedNames (entities.map (·.name) ++ types.map (·.name)) = []
  tables : sharedTables [] entities = []
  ofFunctions : functionFindings types [] functions = []

/-- **Nothing is found on a batch exactly if it keeps the rules.** -/
theorem findings_eq_nil_iff {entities : List Entity} {types : List UserType}
    {functions : List Function} :
    findings entities types functions registry = [] ↔
      Accepted entities types functions registry := by
  simp only [findings, viewAndEntityFindings, List.append_eq_nil_iff, List.flatMap_eq_nil_iff,
    List.map_eq_nil_iff, List.mem_filter, Bool.not_eq_true', userTypeFindings_eq_nil_iff,
    entityFindings_eq_nil_iff]
  constructor
  · rintro ⟨⟨⟨⟨⟨htypes, htables⟩, hviews⟩, hnames⟩, hshared⟩, hfunctions⟩
    refine ⟨htypes, fun e he => ?_, fun v hv hview => (hviews v ⟨hv, hview⟩).2, hnames, hshared,
      hfunctions⟩
    cases hview : e.isView with
    | false => exact htables e ⟨he, hview⟩
    | true => exact (hviews e ⟨he, hview⟩).1
  · rintro ⟨htypes, hentities, hviews, hnames, hshared, hfunctions⟩
    exact ⟨⟨⟨⟨⟨htypes, fun e he => hentities e he.1⟩,
      fun v hv => ⟨hentities v hv.1, hviews v hv.1 hv.2⟩⟩, hnames⟩, hshared⟩, hfunctions⟩

/-- **An accepted batch keeps the rules.** -/
theorem accepted_of_load (h : load d registry defaults = .ok s) :
    Accepted s.entities s.userTypes s.functions registry :=
  findings_eq_nil_iff.mp (findings_of_load h)

/-- Every entity of an accepted batch keeps the rules for entities. -/
theorem accepted_of_entity (h : load d registry defaults = .ok s) (he : e ∈ s.entities) :
    e.Accepted s.userTypes registry :=
  (accepted_of_load h).ofEntities e he

/-- A row without shared names has no name twice. -/
theorem nodup_of_sharedNames {names : List String} (h : sharedNames names = []) :
    names.Nodup := by
  refine List.nodup_iff_count.mpr ?_
  intro n
  by_cases hn : n ∈ names
  · have hcount : ¬1 < names.count n := by
      intro hmore
      have hmem : n ∈ sharedNames names :=
        List.mem_mergeSort.mpr
          (List.mem_filter.mpr ⟨List.mem_eraseDups.mpr hn, decide_eq_true hmore⟩)
      rw [h] at hmem
      cases hmem
    omega
  · rw [List.count_eq_zero_of_not_mem hn]
    exact Nat.zero_le 1

/-- **The entities and user types of an accepted batch have names of their own.** -/
theorem nodup_allNames_of_load (h : load d registry defaults = .ok s) :
    (s.entities.map (·.name) ++ s.userTypes.map (·.name)).Nodup :=
  nodup_of_sharedNames (accepted_of_load h).names

/-- Where no two items share a name, each is the one of its name. -/
theorem find?_of_nodup {α : Type} {name : α → String} {as : List α} (h : (as.map name).Nodup)
    {a : α} (ha : a ∈ as) : as.find? (name · == name a) = some a := by
  obtain ⟨a', hfind⟩ : ∃ a', as.find? (name · == name a) = some a' :=
    Option.isSome_iff_exists.mp (List.find?_isSome.mpr ⟨a, ha, BEq.rfl⟩)
  have hname : name a' = name a := by simpa using List.find?_some hfind
  rw [hfind, List.inj_on_of_nodup_map h (List.mem_of_find?_eq_some hfind) ha hname]

/-- **An entity of an accepted batch is the one of its name.** -/
theorem entity?_of_load (h : load d registry defaults = .ok s) (he : e ∈ s.entities) :
    s.entity? e.name = some e :=
  find?_of_nodup (List.nodup_append.mp (nodup_allNames_of_load h)).1 he

/-- **An entity of an accepted batch has a partition key.** -/
theorem exists_partition_of_load (h : load d registry defaults = .ok s) (he : e ∈ s.entities) :
    ∃ f ∈ e.fields, f.role.isPartition = true := by
  have hkey := (accepted_of_entity h he).key
  simp only [keyFindings, List.append_eq_nil_iff, List.map_eq_nil_iff] at hkey
  obtain ⟨⟨⟨hmissing, -⟩, -⟩, -⟩ := hkey
  by_contra hnone
  have hempty : e.fields.filterMap (·.role.partitionOrder?) = [] := by
    refine List.filterMap_eq_nil_iff.mpr ?_
    intro f hf
    by_contra hsome
    exact hnone ⟨f, hf, by simpa [Role.isPartition, Option.isSome_iff_ne_none] using hsome⟩
  rw [hempty] at hmissing
  cases hmissing

/-! ## 3. What is accepted of names and indexes -/

/-- **A field of an accepted batch has at most one index.** -/
theorem length_indexes_of_load (h : load d registry defaults = .ok s) (he : e ∈ s.entities) :
    ∀ f ∈ e.fields, f.indexes.length ≤ 1 := by
  intro f hf
  have hindexes := ((accepted_of_entity h he).fields f hf).indexes
  by_contra hmany
  have hsome : f.indexes ≠ [] := by
    intro hnone
    simp [hnone] at hmany
  simp [indexFaults, hsome, Nat.not_le.mp hmany] at hindexes

/-- The members of a row of at most one are the same. -/
theorem eq_of_length_le_one {α : Type} {as : List α} (h : as.length ≤ 1) {a b : α} (ha : a ∈ as)
    (hb : b ∈ as) : a = b := by
  obtain ⟨c, rfl⟩ := List.length_eq_one_iff.mp (Nat.le_antisymm h (List.length_pos_of_mem ha))
  exact (List.mem_singleton.mp ha).trans (List.mem_singleton.mp hb).symm

/-- An index of an accepted batch fits the shape, and its implementation serves it. -/
theorem faults_of_index (h : load d registry defaults = .ok s) (he : e ∈ s.entities) {f : Field}
    (hf : f ∈ e.fields) {i : Index} (hi : i ∈ f.indexes) :
    kindFaults i.kind f.shape = [] ∧ implementationFaults i f.shape = [] := by
  have hindexes := ((accepted_of_entity h he).fields f hf).indexes
  have hsome : f.indexes ≠ [] := List.ne_nil_of_mem hi
  simp only [indexFaults, List.isEmpty_iff, hsome, if_false, List.append_eq_nil_iff,
    List.flatMap_eq_nil_iff] at hindexes
  exact hindexes.2 i hi

theorem nameFault?_of_typeNameFaults {name : String} (h : typeNameFaults name = []) :
    nameFault? name = none := by
  rw [typeNameFaults, List.append_eq_nil_iff] at h
  simpa [nameFaults] using h.1

/-- An accepted name of a field is an identifier in snake case. -/
theorem nameFault?_of_fieldNameFaults {name : String} (h : fieldNameFaults name = []) :
    nameFault? name = none ∧ isSnakeCase name = true := by
  simp only [fieldNameFaults, List.append_eq_nil_iff] at h
  obtain ⟨⟨hname, hsnake⟩, -⟩ := h
  exact ⟨by simpa [nameFaults] using hname, by simpa using hsnake⟩

/-- The name of an entity of an accepted batch is an identifier. -/
theorem nameFault?_of_entity (h : load d registry defaults = .ok s) (he : e ∈ s.entities) :
    nameFault? e.name = none :=
  nameFault?_of_typeNameFaults (accepted_of_entity h he).name

/-- The names of the fields of an accepted batch are identifiers. -/
theorem nameFault?_of_field (h : load d registry defaults = .ok s) (he : e ∈ s.entities) :
    ∀ f ∈ e.fields, nameFault? f.name = none := by
  intro f hf
  exact (nameFault?_of_fieldNameFaults ((accepted_of_entity h he).fields f hf).name).1

/-- The names of the user types of an accepted batch, and those of their fields, are
identifiers. -/
theorem nameFault?_of_userType (h : load d registry defaults = .ok s) {u : UserType}
    (hu : u ∈ s.userTypes) :
    nameFault? u.name = none ∧ ∀ f ∈ u.fields, nameFault? f.name = none := by
  have hrules := (accepted_of_load h).ofUserTypes u hu
  exact ⟨nameFault?_of_typeNameFaults hrules.name,
    fun f hf => (nameFault?_of_fieldNameFaults (hrules.fieldNames f hf)).1⟩

/-! ## 4. What is accepted was declared -/

/-- **A field keeps to its declaration**: its name, its column, its strategy and its call are the
declared ones, and of its shape the role asks only whether it counts. -/
structure Field.KeepsTo (f : Field) (naming : Naming) (declared : Declaration.Field) : Prop where
  name : f.name = declared.name
  column : f.column = declaredColumn naming declared
  role : f.role = declaredRole declared f.shape.isCounter
  codec : f.codec = declaredStrategy declared
  computed : f.computed = declared.computed

/-- A field that claims one role at most has the computed one exactly if it is computed. -/
theorem isComputed_declaredRole {df : Declaration.Field} (h : roleFaults df = [])
    (isCounter : Bool) : (declaredRole df isCounter).isComputed = df.computed.isSome := by
  cases hcomputed : df.computed with
  | none =>
    rw [declaredRole.eq_def, hcomputed]
    cases df.partition <;> cases df.clustering <;> cases df.isStatic <;> cases isCounter <;> rfl
  | some c =>
    have hpartition : df.partition = none := by
      by_contra hsome
      obtain ⟨order, hsome⟩ := Option.ne_none_iff_exists'.mp hsome
      simp [roleFaults, claimedRoles, hcomputed, hsome] at h
    have hclustering : df.clustering = none := by
      by_contra hsome
      obtain ⟨key, hsome⟩ := Option.ne_none_iff_exists'.mp hsome
      cases hstatic : df.isStatic <;>
        simp [roleFaults, claimedRoles, hcomputed, hpartition, hsome, hstatic] at h
    rw [declaredRole.eq_def, hpartition, hclustering, hcomputed]
    rfl

/-- **A field is computed exactly if that is its role.** -/
theorem Field.isComputed_of_ofDeclaration {names : TypeNames} {naming : Naming}
    {declared : Declaration.Field} {f : Field}
    (h : Field.ofDeclaration names naming declared = .ok f) :
    f.role.isComputed = f.computed.isSome := by
  rw [Field.ofDeclaration] at h
  split at h
  · cases h
  · simp only at h
    split at h
    · rename_i hfaults
      cases h
      simp only [List.append_eq_nil_iff] at hfaults
      exact isComputed_declaredRole hfaults.1.2 _
    · cases h

theorem Field.keepsTo_of_ofDeclaration {names : TypeNames} {naming : Naming}
    {declared : Declaration.Field} {f : Field}
    (h : Field.ofDeclaration names naming declared = .ok f) : f.KeepsTo naming declared := by
  rw [Field.ofDeclaration] at h
  split at h
  · cases h
  · simp only at h
    split at h
    · cases h
      exact ⟨rfl, rfl, rfl, rfl, rfl⟩
    · cases h

/-- What is made of the declaration of a user type. -/
theorem UserType.eq_of_ofDeclaration {declared : List Declaration.UserType}
    {du : Declaration.UserType} {u : UserType}
    (h : UserType.ofDeclaration defaults declared du = .ok u) :
    ∃ fields, collectAll (·.name) (TypeField.ofDeclaration (declaredTypeNames declared)
        defaults.naming) du.fields = .ok fields
      ∧ u = ⟨du.name, storedTypeName du, du.keyspace <|> defaults.keyspace, fields⟩ := by
  rw [UserType.ofDeclaration, Except.bind_eq_ok_iff] at h
  obtain ⟨fields, hfields, h⟩ := h
  exact ⟨fields, hfields, (Except.ok.inj h).symm⟩

/-- Each user type of an accepted batch was made of the one declared in its place. -/
theorem forall₂_userTypes_of_load (h : load d registry defaults = .ok s) :
    List.Forall₂ (fun du u => UserType.ofDeclaration defaults d.userTypes du = .ok u)
      d.userTypes s.userTypes := by
  have hmade := (loaded_of_load h).types
  have hall := forall₂_of_collect (UserType.ofDeclaration_ne_error_nil _ _)
    (congrArg Prod.fst hmade)
  rwa [hmade] at hall

/-- What is made of the declaration of an entity. -/
theorem Entity.eq_of_ofDeclaration {types : List UserType} {de : Declaration.Entity}
    (h : Entity.ofDeclaration defaults types de = .ok e) :
    ∃ fields, collectAll (·.name) (Field.ofDeclaration (typeNames types)
        (de.naming.getD defaults.naming)) de.fields = .ok fields
      ∧ e = ⟨de.name, de.table.getD (Text.snakeCase de.name), de.keyspace <|> defaults.keyspace,
        fields, de.viewOf, de.naming.getD defaults.naming, isClusteredCounter fields⟩ := by
  rw [Entity.ofDeclaration, Except.bind_eq_ok_iff] at h
  obtain ⟨fields, hfields, h⟩ := h
  exact ⟨fields, hfields, (Except.ok.inj h).symm⟩

/-- **Every field of an accepted batch was declared**, in the declaration of its entity. -/
theorem declared_of_load (h : load d registry defaults = .ok s) (he : e ∈ s.entities) :
    ∃ de ∈ d.entities, e.name = de.name ∧
      ∀ f ∈ e.fields, ∃ df ∈ de.fields, f.KeepsTo (de.naming.getD defaults.naming) df := by
  obtain ⟨de, hde, hmake⟩ := exists_of_mem_collect e (by rwa [(loaded_of_load h).entities])
  obtain ⟨fields, hfields, rfl⟩ := Entity.eq_of_ofDeclaration hmake
  refine ⟨de, hde, rfl, fun f hf => ?_⟩
  obtain ⟨df, hdf, hmade⟩ := exists_of_mem_collectAll hfields f hf
  exact ⟨df, hdf, Field.keepsTo_of_ofDeclaration hmade⟩

/-- A key field is stored. -/
theorem isComputed_of_isKey {f : Field} (h : f.isKey = true) : f.role.isComputed = false := by
  rw [Field.isKey] at h
  cases hrole : f.role with
  | computed =>
    rw [hrole] at h
    cases h
  | _ => rfl

/-- The fields of an accepted batch that are computed are those of that role. -/
theorem isComputed_of_load (h : load d registry defaults = .ok s) (he : e ∈ s.entities) :
    ∀ f ∈ e.fields, f.role.isComputed = f.computed.isSome := by
  obtain ⟨de, -, hmake⟩ := exists_of_mem_collect e (by rwa [(loaded_of_load h).entities])
  intro f hf
  obtain ⟨fields, hfields, rfl⟩ := Entity.eq_of_ofDeclaration hmake
  obtain ⟨df, -, hmade⟩ := exists_of_mem_collectAll hfields f hf
  exact Field.isComputed_of_ofDeclaration hmade

end WideColumn.Schema
