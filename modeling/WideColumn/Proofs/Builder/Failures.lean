/-
# Why no source is generated for an accepted batch

A batch is accepted only if every field has a strategy and everything else has a built-in type.
The source asks for more: for the types of the PARTS of values, wherever a method adds to a
collection, removes from it or searches it.

Assignments to parts are for fields that the built-in codec carries, so their parts have built-in
types as well (`failsAs_setMethods`).  The relations of a native index are not: they ask for the
built-in types of the parts whatever carries the field.  So generation fails for want of a type
exactly where a field with a strategy of its own has a native index on parts that have none
(`generation_resolves`), and `bill_unresolved` is a batch that is accepted and fails so.
-/
import WideColumn.Proofs.Builder.ItemNames
import WideColumn.Proofs.Schema.Resolved

namespace WideColumn.Builder

open WideColumn.Schema WideColumn.Source

variable {types : List UserType} {shape : Shape} {kind : IndexKind} {t : String}

/-! ## 1. Parts of shapes -/

/-- The shapes right inside a collection. -/
def partShapes : Shape → List Shape
  | .list _ e | .set _ e => [e]
  | .map _ k v => [k, v]
  | .scalar .. | .counter _ | .tuple .. | .udt .. => []

/-- The shapes that the relations of a native index are about, where it is not the whole one. -/
def operandShapes : IndexKind → Shape → List Shape
  | .collection, s | .mapValue, s => [partShape s]
  | .mapKey, .map _ k _ => [k]
  | .mapEntry, .map _ k v => [k, v]
  | .mapKey, _ | .mapEntry, _ | .normal, _ | .full, _ => []

/-- What has a built-in type consists of parts that have one. -/
theorem nativeType_of_mem_partShapes (h : nativeType types shape = .ok t) :
    ∀ part ∈ partShapes shape, ∃ t, nativeType types part = .ok t := by
  cases shape with
  | list place e =>
    simp only [nativeType, Except.bind_eq_ok_iff] at h
    obtain ⟨te, he, -⟩ := h
    simp [partShapes, he]
  | set place e =>
    simp only [nativeType, Except.bind_eq_ok_iff] at h
    obtain ⟨-, -, te, he, -⟩ := h
    simp [partShapes, he]
  | map place k v =>
    simp only [nativeType, Except.bind_eq_ok_iff] at h
    obtain ⟨-, -, tk, hk, tv, hv, -⟩ := h
    simp [partShapes, hk, hv]
  | scalar | counter | tuple | udt => simp [partShapes]

/-- A native index is about the value or about its parts. -/
theorem mem_operandShapes {part : Shape} (h : part ∈ operandShapes kind shape) :
    part = shape ∨ part ∈ partShapes shape := by
  cases kind <;> cases shape <;>
    simp only [operandShapes, partShape, partShapes, List.mem_cons, List.not_mem_nil] at h ⊢ <;>
    tauto

/-! ## 2. How the source of an entity can fail -/

/-- The shapes that the native indexes of a field are about, where they are not about the whole
value. -/
def indexedParts (f : Field) : List Shape :=
  (f.indexes.filter (·.implementation.isNative)).flatMap fun i => operandShapes i.kind f.shape

/-- **How the source of user types and entities can fail**: a text is no name or no type, or there
is no built-in type for a part that is indexed in a field with a strategy of its own. -/
inductive Failure (s : Schema) : GenerationError → Prop
  | name (input : String) : Failure s (.name input)
  | type (input : String) : Failure s (.type input)
  | operand {e : Entity} {f : Field} {part : Shape} {cause : ResolveError} (he : e ∈ s.entities)
      (hf : f ∈ e.fields) (hown : f.codec.isSome) (hpart : part ∈ indexedParts f)
      (hcause : nativeType s.userTypes part = .error cause) : Failure s (.shape part.text cause)

section
variable {s : Schema}

theorem failsAs_name (input : String) : Except.FailsAs (Failure s) (name input) := by
  rw [name]
  split
  · exact .ok
  · exact .error (.name input)

theorem failsAs_type (input : String) : Except.FailsAs (Failure s) (type input) := by
  rw [type]
  split
  · exact .ok
  · exact .error (.type input)

/-- A built-in type is put into source as it is. -/
theorem failsAs_builtInType (h : nativeType types shape = .ok t) :
    Except.FailsAs (Failure s) (builtInType types shape) := by
  rw [builtInType, h]
  exact failsAs_type t

end

/-- **Everything that a plan asks a type of has one**, but for the parts that are indexed. -/
structure Plan.Resolves (p : Plan) : Prop where
  fields : ∀ f ∈ p.fields, f.isNative = true →
    ∃ t, nativeType p.schema.userTypes f.model.shape = .ok t
  typeFields : ∀ u ∈ p.schema.userTypes, ∀ sub ∈ u.fields,
    ∃ t, nativeType p.schema.userTypes sub.shape = .ok t
  /-- Where a part that is indexed has no built-in type, that is one of the admitted failures. -/
  operands : ∀ f ∈ p.fields, ∀ part ∈ indexedParts f.model,
    Except.FailsAs (Failure p.schema) (p.builtInType part)

section
variable {p : Plan} {f : PlannedField} {next : Option String}

theorem failsAs_typeFieldMethods (hp : p.Resolves) {u : UserType} (hu : u ∈ p.schema.userTypes) :
    Except.FailsAs (Failure p.schema) (typeFieldMethods p f next u) := by
  refine .mapM fun sub hsub => ?_
  obtain ⟨t, ht⟩ := hp.typeFields u hu sub hsub
  exact (failsAs_name _).bind fun _ _ => (failsAs_builtInType ht).bind fun _ _ => .ok

/-- Assignments to the parts of a value that the built-in codec carries find their types. -/
theorem failsAs_partMethods (hp : p.Resolves)
    (hnative : ∃ t, nativeType p.schema.userTypes f.model.shape = .ok t) :
    Except.FailsAs (Failure p.schema) (partMethods p f next) := by
  obtain ⟨t, ht⟩ := hnative
  have hparts := nativeType_of_mem_partShapes ht
  rw [partMethods.eq_def]
  cases hshape : f.model.shape with
  | list place e =>
    obtain ⟨te, he⟩ := hparts e (by simp [hshape, partShapes])
    exact (failsAs_builtInType he).bind fun _ _ => .ok
  | set place e => exact .ok
  | map place k v =>
    obtain ⟨tk, hk⟩ := hparts k (by simp [hshape, partShapes])
    exact (failsAs_builtInType hk).bind fun _ _ => .ok
  | udt place typeName =>
    simp only
    split
    · rename_i u hu
      exact failsAs_typeFieldMethods hp (List.mem_of_find?_eq_some hu)
    · exact .ok
  | scalar | counter | tuple => exact .ok

theorem failsAs_setMethods (hp : p.Resolves) (hf : f ∈ p.fields) :
    Except.FailsAs (Failure p.schema) (setMethods p next f) := by
  rw [setMethods]
  split
  · exact .ok
  · split
    · exact .ok
    · rename_i hparts
      simp only [Bool.or_eq_true, Bool.not_eq_true', not_or, Bool.not_eq_false] at hparts
      exact (failsAs_partMethods hp (hp.fields f hf hparts.1)).bind fun _ _ => .ok

theorem failsAs_updateFamilyIfAny (hp : p.Resolves) {family : String}
    {settable keys tested : List PlannedField} (hsub : settable ⊆ p.fields) :
    Except.FailsAs (Failure p.schema) (updateFamilyIfAny p family settable keys tested) := by
  have hset : ∀ next, Except.FailsAs (Failure p.schema) (settable.flatMapM (setMethods p next)) :=
    fun next => .flatMapM fun f hf => failsAs_setMethods hp (hsub hf)
  rw [updateFamilyIfAny]
  split
  · exact .ok
  · rw [updateFamily.eq_def]
    cases keys with
    | nil => exact .ok
    | cons first others => exact (hset _).bind fun _ _ => (hset _).bind fun _ _ => .ok

theorem failsAs_updateStates (hp : p.Resolves) : Except.FailsAs (Failure p.schema) (updateStates p) :=
  (failsAs_updateFamilyIfAny hp (List.filter_subset_self _)).bind fun _ _ =>
    (failsAs_updateFamilyIfAny hp (List.filter_subset_self _)).bind fun _ _ => .ok

/-- The relations of a native index fail as the types of the parts do that they are about. -/
theorem failsAs_nativeRelations {P : GenerationError → Prop}
    (h : ∀ part ∈ operandShapes kind f.model.shape, Except.FailsAs P (p.builtInType part)) :
    Except.FailsAs P (nativeRelations p f kind next) := by
  rw [nativeRelations.eq_def]
  generalize f.model.shape = shape at h
  cases kind with
  | normal | full => exact .ok
  | collection | mapValue => exact (h _ (by simp [operandShapes])).bind fun _ _ => .ok
  | mapKey =>
    cases shape with
    | map => exact (h _ (by simp [operandShapes])).bind fun _ _ => .ok
    | _ => exact .ok
  | mapEntry =>
    cases shape with
    | map =>
      exact (h _ (by simp [operandShapes])).bind fun _ _ =>
        (h _ (by simp [operandShapes])).bind fun _ _ => .ok
    | _ => exact .ok

theorem mem_indexedParts {f : Field} {i : Index} (hi : i ∈ f.indexes)
    (hnative : i.implementation = .native) {part : Shape}
    (hpart : part ∈ operandShapes i.kind f.shape) : part ∈ indexedParts f := by
  refine List.mem_flatMap.mpr ⟨i, List.mem_filter.mpr ⟨hi, ?_⟩, hpart⟩
  rw [hnative]
  rfl

theorem failsAs_allIndexRelations (hp : p.Resolves) :
    Except.FailsAs (Failure p.schema) (allIndexRelations p next) := by
  refine .flatMapM ?_
  rintro ⟨f, i⟩ hmem
  obtain ⟨f', hf, hpair⟩ := List.mem_flatMap.mp hmem
  obtain ⟨i', hi, heq⟩ := List.mem_map.mp hpair
  cases heq
  change Except.FailsAs _ (indexRelations p f next i)
  rw [indexRelations.eq_def]
  cases himp : i.implementation with
  | native =>
    exact failsAs_nativeRelations fun part hpart =>
      hp.operands f (List.mem_of_mem_filter hf) part (mem_indexedParts hi himp hpart)
  | sasi | search => exact .ok

theorem failsAs_indexChains (hp : p.Resolves) : Except.FailsAs (Failure p.schema) (indexChains p) := by
  have hstates : ∀ json, Except.FailsAs (Failure p.schema) (indexStates p json) := fun json =>
    (failsAs_allIndexRelations hp).bind fun _ _ => (failsAs_allIndexRelations hp).bind fun _ _ =>
      .ok
  rw [indexChains]
  split
  · exact .ok
  · refine (hstates false).bind fun _ _ => ?_
    split
    · exact (hstates true).bind fun _ _ => .ok
    · exact .ok

theorem failsAs_entityItems (hp : p.Resolves) : Except.FailsAs (Failure p.schema) (entityItems p) := by
  refine .bind ?_ fun _ _ => .ok
  rw [states_eq]
  split
  · exact .ok
  · exact (failsAs_updateStates hp).bind fun _ _ => (failsAs_indexChains hp).bind fun _ _ => .ok

end

/-! ## 3. What acceptance settles -/

section
variable {d : Declaration} {registry : Registry} {defaults : Defaults} {s : Schema} {e : Entity}
  {profile : Profile} {emitDdl : Bool} {p : Plan}

/-- The strategy that a declaration asks for is never the built-in one. -/
theorem codec_ne_native (hload : load d registry defaults = .ok s) (he : e ∈ s.entities)
    {f : Field} (hf : f ∈ e.fields) (t : String) : f.codec ≠ some (.native t) := by
  obtain ⟨de, -, -, hfields⟩ := declared_of_load hload he
  obtain ⟨df, -, hkept⟩ := hfields f hf
  rw [hkept.codec, declaredStrategy]
  cases df.codec <;> cases df.enumerated <;> cases df.json <;> simp

/-- Fields that the built-in codec carries have a built-in type. -/
theorem nativeType_of_native (hload : load d registry defaults = .ok s) (he : e ∈ s.entities)
    {f : Field} (hf : f ∈ e.fields) (h : s.codec? e f = some (.native t)) :
    ∃ t, nativeType s.userTypes f.shape = .ok t := by
  obtain ⟨st, hst, hresolved⟩ := codec?_of_load hload he hf
  obtain rfl : st = .native t := Option.some.inj (hst.symm.trans h)
  rw [Registry.resolve] at hresolved
  cases hcodec : f.codec with
  | some st =>
    rw [hcodec] at hresolved
    cases hresolved
    exact absurd hcodec (codec_ne_native hload he hf t)
  | none =>
    cases hnative : nativeType s.userTypes f.shape with
    | ok t => exact ⟨t, rfl⟩
    | error cause =>
      simp only [hcodec, hnative] at hresolved
      split at hresolved <;> cases hresolved

/-- Without a strategy of its own, a field has built-in types for all parts that are indexed: it
is carried as a whole, or else it is a lone user type, whose parts no index is about. -/
theorem nativeType_of_mem_indexedParts (hload : load d registry defaults = .ok s)
    (he : e ∈ s.entities) {f : Field} (hf : f ∈ e.fields) (hown : f.codec = none) :
    ∀ part ∈ indexedParts f, ∃ t, nativeType s.userTypes part = .ok t := by
  intro part hpart
  obtain ⟨i, hi, hoperand⟩ := List.mem_flatMap.mp hpart
  obtain ⟨st, -, hresolved⟩ := codec?_of_load hload he hf
  rw [Registry.resolve, hown] at hresolved
  cases hnative : nativeType s.userTypes f.shape with
  | ok t =>
    rcases mem_operandShapes hoperand with rfl | hinside
    · exact ⟨t, hnative⟩
    · exact nativeType_of_mem_partShapes hnative part hinside
  | error cause =>
    simp only [hnative] at hresolved
    have hkind := (faults_of_index hload he hf (List.mem_of_mem_filter hi)).1
    cases hshape : f.shape with
    | udt place typeName =>
      rw [hshape] at hkind hoperand
      cases hk : i.kind <;> rw [hk] at hkind hoperand <;>
        simp [kindFaults, operandShapes, Shape.isCollection, Shape.isMap] at hkind hoperand
    | _ => simp [hshape, Shape.udtName?] at hresolved

/-- **A plan of an accepted batch finds all its types**, but for parts that are indexed in fields
with strategies of their own. -/
theorem resolves_of_plan (hload : load d registry defaults = .ok s) (he : e ∈ s.entities)
    (hplan : plan s profile emitDdl e = .ok p) : p.Resolves := by
  obtain rfl := schema_of_plan hplan
  refine ⟨fun pf hpf hnative => ?_, (resolvable_of_load hload).typeFields, fun pf hpf part hpart => ?_⟩
  · obtain ⟨hf, hmade⟩ := planField_of_plan hplan pf hpf
    obtain ⟨st, hst, -, -, hisNative⟩ := strategy_of_planField hmade
    obtain ⟨t, rfl⟩ := hisNative hnative
    exact nativeType_of_native hload he hf hst
  · obtain ⟨hf, -⟩ := planField_of_plan hplan pf hpf
    cases hnative : nativeType p.schema.userTypes part with
    | ok t => exact failsAs_builtInType hnative
    | error cause =>
      rw [Plan.builtInType, builtInType, hnative]
      refine .error (.operand he hf ?_ hpart hnative)
      by_contra hnone
      obtain ⟨t, ht⟩ := nativeType_of_mem_indexedParts hload he hf (by simpa using hnone) part hpart
      rw [hnative] at ht
      cases ht

/-- Every field of an accepted batch can be planned, if its texts are names and types. -/
theorem failsAs_plan (hload : load d registry defaults = .ok s) (he : e ∈ s.entities) :
    Except.FailsAs (Failure s) (plan s profile emitDdl e) := by
  refine Except.FailsAs.bind (.mapM fun f hf => ?_) fun _ _ => (failsAs_name _).bind fun _ _ => .ok
  obtain ⟨st, hst, -⟩ := codec?_of_load hload he (mem_orderedFields.mp hf)
  rw [planField, hst]
  exact (failsAs_name _).bind fun _ _ => (failsAs_type _).bind fun _ _ =>
    (failsAs_type _).bind fun _ _ => .ok

theorem failsAs_userTypeItems (hload : load d registry defaults = .ok s) {u : UserType}
    (hu : u ∈ s.userTypes) : Except.FailsAs (Failure s) (userTypeItems s u) := by
  refine (failsAs_name _).bind fun _ _ => .bind (.mapM fun f hf => ?_) fun _ _ => .ok
  obtain ⟨t, ht⟩ := (resolvable_of_load hload).typeFields u hu f hf
  exact (failsAs_name _).bind fun _ _ => (failsAs_builtInType ht).bind fun _ _ => .ok

theorem failsAs_entities (hload : load d registry defaults = .ok s) :
    Except.FailsAs (Failure s)
      (s.entities.flatMapM fun e => plan s profile emitDdl e >>= entityItems) := by
  refine .flatMapM fun e he => (failsAs_plan hload he).bind fun p hplan => ?_
  exact schema_of_plan hplan ▸ failsAs_entityItems (resolves_of_plan hload he hplan)

/-- The parameters of functions of an accepted batch have types. -/
theorem failsAs_parameters (hload : load d registry defaults = .ok s) {f : Schema.Function}
    (hf : f ∈ s.functions) :
    Except.FailsAs (Failure s) (f.parameters.mapM (functionParameter s)) := by
  refine .mapM fun parameter hparameter => ?_
  obtain ⟨t, ht⟩ := (resolvable_of_load hload).functions f hf parameter.2
    (List.mem_append_left _ (List.mem_map_of_mem hparameter))
  exact (failsAs_name _).bind fun _ _ => (failsAs_builtInType ht).bind fun _ _ => .ok

/-- A function of an accepted batch fails only for its name, or for a name of a parameter. -/
theorem failsAs_functionMember (hload : load d registry defaults = .ok s) {f : Schema.Function}
    (hf : f ∈ s.functions) (number : Option Nat) :
    Except.FailsAs (fun e => Failure s e ∨ ∃ n, e = .overload n) (functionMember s f number) := by
  have hname : Except.FailsAs (fun e => Failure s e ∨ ∃ n, e = .overload n)
      (functionName f number) := by
    rw [functionName.eq_def]
    cases number with
    | none => exact (failsAs_name _).mono fun _ => .inl
    | some n =>
      simp only
      split
      · exact .ok
      · exact .error (.inr ⟨_, rfl⟩)
  exact hname.bind fun _ _ => ((failsAs_parameters hload hf).mono fun _ => .inl).bind fun _ _ => .ok

theorem failsAs_functionMembers (hload : load d registry defaults = .ok s)
    {fs : List Schema.Function} (hfs : fs ⊆ s.functions) {all seen : List String} :
    Except.FailsAs (fun e => Failure s e ∨ ∃ n, e = .overload n)
      (functionMembers s all seen fs) := by
  induction fs generalizing seen with
  | nil => exact .ok
  | cons f fs ih =>
    obtain ⟨hf, hothers⟩ := List.cons_subset.mp hfs
    rw [functionMembers]
    exact (failsAs_functionMember hload hf _).bind fun _ _ => (ih hothers).bind fun _ _ => .ok

theorem failsAs_functionItems (hload : load d registry defaults = .ok s) :
    Except.FailsAs (fun e => Failure s e ∨ ∃ n, e = .overload n) (functionItems s) := by
  rw [functionItems]
  split
  · exact .ok
  · exact (failsAs_functionMembers hload (List.Subset.refl _)).bind fun _ _ => .ok

/-- **How generation can fail for an accepted batch.** -/
theorem failsAs_items (hload : load d registry defaults = .ok s) :
    Except.FailsAs (fun e => (∃ c, e = .capability c) ∨ Failure s e ∨ ∃ n, e = .overload n)
      (items s profile emitDdl) := by
  refine Except.FailsAs.bind (.mapError fun c _ => .inl ⟨c, rfl⟩) fun _ _ => ?_
  refine Except.FailsAs.bind ?_ fun _ _ => ?_
  · exact .flatMapM fun u hu => (failsAs_userTypeItems hload hu).mono fun _ h => .inr (.inl h)
  refine Except.FailsAs.bind ((failsAs_entities hload).mono fun _ h => .inr (.inl h)) fun _ _ => ?_
  exact ((failsAs_functionItems hload).mono fun _ => .inr).bind fun _ _ => .ok

/-! ## 4. What generation needs -/

theorem nativeType_of_builtInType (h : builtInType types shape = .ok t) :
    ∃ t, nativeType types shape = .ok t := by
  cases hnative : nativeType types shape with
  | ok t => exact ⟨t, rfl⟩
  | error cause =>
    rw [builtInType, hnative] at h
    cases h

/-- The relations of a native index are made only with the types of the parts they are about. -/
theorem builtInType_of_nativeRelations {f : PlannedField} {next : Option String}
    {ms : List Method} (h : nativeRelations p f kind next = .ok ms) :
    ∀ part ∈ operandShapes kind f.model.shape, ∃ t, p.builtInType part = .ok t := by
  rw [nativeRelations.eq_def] at h
  generalize f.model.shape = shape at h
  cases kind with
  | normal | full => simp [operandShapes]
  | collection | mapValue =>
    obtain ⟨t, ht, -⟩ := Except.bind_eq_ok_iff.mp h
    simp [operandShapes, ht]
  | mapKey =>
    cases shape with
    | map =>
      obtain ⟨t, ht, -⟩ := Except.bind_eq_ok_iff.mp h
      simp [operandShapes, ht]
    | _ => simp [operandShapes]
  | mapEntry =>
    cases shape with
    | map =>
      obtain ⟨t, ht, h⟩ := Except.bind_eq_ok_iff.mp h
      obtain ⟨t', ht', -⟩ := Except.bind_eq_ok_iff.mp h
      simp [operandShapes, ht, ht']
    | _ => simp [operandShapes]

/-- Index chains are made only with the types of all parts that are indexed. -/
theorem nativeType_of_indexChains {ss : List State} (h : indexChains p = .ok ss) :
    ∀ f ∈ p.fields, ∀ part ∈ indexedParts f.model,
      ∃ t, nativeType p.schema.userTypes part = .ok t := by
  intro f hf part hpart
  obtain ⟨i, hi, hoperand⟩ := List.mem_flatMap.mp hpart
  obtain ⟨hi, hnative⟩ := List.mem_filter.mp hi
  have hindexed : f ∈ p.indexed := mem_indexed.mpr ⟨hf, List.ne_nil_of_mem hi⟩
  have hsome : p.indexed.isEmpty = false := by simpa using List.ne_nil_of_mem hindexed
  simp only [indexChains, hsome, Bool.false_eq_true, if_false, Except.bind_eq_ok_iff] at h
  obtain ⟨records, hrecords, -⟩ := h
  simp only [indexStates, Except.bind_eq_ok_iff] at hrecords
  obtain ⟨first, hfirst, -⟩ := hrecords
  obtain ⟨ms, hms, -⟩ := subset_of_allIndexRelations hfirst hf hi
  cases himp : i.implementation with
  | native =>
    simp only [indexRelations, himp] at hms
    obtain ⟨t, ht⟩ := builtInType_of_nativeRelations hms part hoperand
    exact nativeType_of_builtInType ht
  | sasi | search =>
    rw [himp] at hnative
    cases hnative

/-- **A source is made only with the types of all parts that are indexed.** -/
theorem nativeType_of_items (hload : load d registry defaults = .ok s) {its : List Item}
    (h : items s profile emitDdl = .ok its) :
    ∀ e ∈ s.entities, ∀ f ∈ e.fields, ∀ part ∈ indexedParts f,
      ∃ t, nativeType s.userTypes part = .ok t := by
  intro e he f hf part hpart
  obtain ⟨p, ss, hplan, hstates, -⟩ := states_of_items h he
  have htable : p.entity.isView = false := by
    by_contra hview
    rw [entity_of_plan hplan, Bool.not_eq_false] at hview
    simp [indexedParts, indexes_of_view hload he hview f hf] at hpart
  rw [states_eq, htable] at hstates
  simp only [Bool.false_eq_true, if_false, Except.bind_eq_ok_iff] at hstates
  obtain ⟨-, -, indexes, hindexes, -⟩ := hstates
  obtain ⟨pf, hpf, rfl⟩ : ∃ pf ∈ p.fields, pf.model = f :=
    List.mem_map.mp (models_of_plan hplan ▸ mem_orderedFields.mpr hf)
  obtain ⟨t, ht⟩ := nativeType_of_indexChains hindexes pf hpf part hpart
  exact ⟨t, schema_of_plan hplan ▸ ht⟩

/-- **For which types generation fails.**  For an accepted batch it never misses a strategy.  It
misses a built-in type only for a part that is indexed in a field with a strategy of its own; and
wherever such a part has no built-in type, there is no source. -/
theorem generation_resolves (hload : load d registry defaults = .ok s) :
    (∀ entity field, items s profile emitDdl ≠ .error (.codec entity field))
      ∧ (∀ text cause, items s profile emitDdl = .error (.shape text cause) →
        ∃ e ∈ s.entities, ∃ f ∈ e.fields, f.codec.isSome ∧ ∃ part ∈ indexedParts f,
          part.text = text ∧ nativeType s.userTypes part = .error cause)
      ∧ ∀ e ∈ s.entities, ∀ f ∈ e.fields, ∀ part ∈ indexedParts f, ∀ cause,
        nativeType s.userTypes part = .error cause →
          ∀ its, items s profile emitDdl ≠ .ok its := by
  refine ⟨fun entity field h => ?_, fun text cause h => ?_, ?_⟩
  · rcases failsAs_items hload _ h with ⟨c, hc⟩ | hfailure | ⟨n, hn⟩
    · cases hc
    · cases hfailure
    · cases hn
  · rcases failsAs_items hload _ h with ⟨c, hc⟩ | hfailure | ⟨n, hn⟩
    · cases hc
    · cases hfailure with
      | operand he hf hown hpart hcause => exact ⟨_, he, _, hf, hown, _, hpart, rfl, hcause⟩
    · cases hn
  · intro e he f hf part hpart cause hcause its h
    obtain ⟨t, ht⟩ := nativeType_of_items hload h e he f hf part hpart
    rw [hcause] at ht
    cases ht

end

/-- Bills whose amounts are kept by a codec of the application, with an index on them. -/
def billAmounts : Declaration where
  entities := [
    { name := "Bill"
      fields := [
        (Declaration.Field.typed "id" "bigint").inPartition 0,
        ((Declaration.Field.typed "amounts" "list<varint>").withCodec "crate::Amounts"
          "Vec<i128>").withIndex {}] }]

theorem generation_resolves_bill :
    ∃ s, load billAmounts {} {} = .ok s
      ∧ (∀ entity field, items s .cassandra30 true ≠ .error (.codec entity field))
      ∧ ∀ its, items s .cassandra30 true ≠ .ok its := by
  have hready : ((load billAmounts {} {}).toOption.bind fun s => s.entities[0]?.bind fun e =>
      e.fields[1]?.bind fun f => (indexedParts f)[0]?.map fun part =>
        nativeType s.userTypes part matches .error _) = some true := by decide +kernel
  simp only [Option.bind_eq_some_iff, Option.map_eq_some_iff, Except.toOption_eq_some_iff]
    at hready
  obtain ⟨s, hload, e, he, f, hf, part, hpart, hnative⟩ := hready
  obtain ⟨hcodec, -, hrefused⟩ := @generation_resolves _ _ _ _ .cassandra30 true hload
  refine ⟨s, hload, hcodec, ?_⟩
  cases hcause : nativeType s.userTypes part with
  | ok t => simp [hcause] at hnative
  | error cause =>
    exact hrefused e (List.mem_of_getElem? he) f (List.mem_of_getElem? hf) part
      (List.mem_of_getElem? hpart) cause hcause

/-- **An accepted batch may fail for want of a type.**  The error asks for the codec that the field
has. -/
theorem bill_unresolved :
    ∃ s, load billAmounts {} {} = .ok s
      ∧ items s .cassandra30 true = .error (.shape "varint" (.unsupported "varint")) := by
  have hready : ((load billAmounts {} {}).toOption.map fun s =>
      match items s .cassandra30 true with
      | .error (.shape text cause) => decide (text = "varint" ∧ cause = .unsupported "varint")
      | _ => false) = some true := by decide +kernel
  simp only [Option.map_eq_some_iff, Except.toOption_eq_some_iff] at hready
  obtain ⟨s, hload, hfails⟩ := hready
  refine ⟨s, hload, ?_⟩
  split at hfails
  · rename_i text cause hitems
    obtain ⟨rfl, rfl⟩ := of_decide_eq_true hfails
    exact hitems
  · cases hfails

end WideColumn.Builder
