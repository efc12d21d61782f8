/-
# Which bases are reported missing

A view is checked against its base, and the base is looked up among the entities that are examined.
Not all of a batch is: an entity that could not be made is not, and neither is a view of one, since
there is nothing to check it against.

So a base is reported missing in two cases (`base_missing_iff`).  Either it is not declared, as the
wording says.  Or it is declared and was made, but is itself a view of an entity that could not be
made; then it was left out on account of ITS base, and its own views do not find it.

Names have to be apart, so that a base is one entity.  Nothing else that is found, while a batch is
read or by any other rule, is about a missing base (`silent_found`, `silent_entityFindings`).
-/
import WideColumn.Proofs.Schema.Locality

namespace WideColumn.Schema

variable {d : Declaration} {registry : Registry} {defaults : Defaults} {types : List UserType}

/-! ## 1. What is about other things -/

/-- The base that a violation says is missing. -/
def Violation.missingBase? : Violation → Option String
  | viewBaseMissing base => some base
  | _ => none

/-- **No violation of a row is about a missing base.** -/
def Quiet (vs : List Violation) : Prop := ∀ v ∈ vs, v.missingBase? = none

/-- **No finding is about a missing base.** -/
def Silent (fs : List Finding) : Prop := ∀ f ∈ fs, f.violation.missingBase? = none

section
variable {vs ws : List Violation} {fs gs : List Finding} {route : String}

@[simp] theorem quiet_nil : Quiet [] := nofun

@[simp] theorem quiet_cons {v : Violation} : Quiet (v :: vs) ↔ v.missingBase? = none ∧ Quiet vs :=
  List.forall_mem_cons

@[simp] theorem quiet_append : Quiet (vs ++ ws) ↔ Quiet vs ∧ Quiet ws := List.forall_mem_append

@[simp] theorem quiet_map {α : Type} {f : α → Violation} {as : List α} :
    Quiet (as.map f) ↔ ∀ a ∈ as, (f a).missingBase? = none := List.forall_mem_map

@[simp] theorem quiet_flatMap {α : Type} {f : α → List Violation} {as : List α} :
    Quiet (as.flatMap f) ↔ ∀ a ∈ as, Quiet (f a) := List.forall_mem_flatMap

@[simp] theorem quiet_ite {p : Prop} [Decidable p] :
    Quiet (if p then vs else ws) ↔ (p → Quiet vs) ∧ (¬p → Quiet ws) := by
  split <;> simp_all

@[simp] theorem silent_nil : Silent [] := nofun

@[simp] theorem silent_append : Silent (fs ++ gs) ↔ Silent fs ∧ Silent gs :=
  List.forall_mem_append

@[simp] theorem silent_map_here : Silent (vs.map .here) ↔ Quiet vs := List.forall_mem_map

@[simp] theorem silent_map_under : Silent (fs.map (.under route)) ↔ Silent fs :=
  List.forall_mem_map

@[simp] theorem silent_map_here_under :
    Silent (vs.map fun v => (Finding.here v).under route) ↔ Quiet vs := List.forall_mem_map

@[simp] theorem silent_flatMap {α : Type} {found : α → List Finding} {as : List α} :
    Silent (as.flatMap found) ↔ ∀ a ∈ as, Silent (found a) := List.forall_mem_flatMap

end

attribute [local simp] Violation.missingBase?

/-! ### Rules -/

theorem quiet_typeNameFaults (name : String) : Quiet (typeNameFaults name) := by
  simp [typeNameFaults, nameFaults]

theorem quiet_fieldNameFaults (name : String) : Quiet (fieldNameFaults name) := by
  simp [fieldNameFaults, nameFaults]

theorem quiet_nodeFaults (path : String) (s : Shape) : Quiet (nodeFaults path s) := by
  simp [nodeFaults]

mutual

theorem quiet_nestedFaults : ∀ (path : String) (s : Shape), Quiet (nestedFaults path s)
  | path, .list p e | path, .set p e => by
    rw [nestedFaults, quiet_append]
    exact ⟨quiet_nodeFaults _ _, quiet_nestedFaults _ e⟩
  | path, .map p k v => by
    rw [nestedFaults, quiet_append, quiet_append]
    exact ⟨⟨quiet_nodeFaults _ _, quiet_nestedFaults _ k⟩, quiet_nestedFaults _ v⟩
  | path, .tuple p es => by
    rw [nestedFaults, quiet_append]
    exact ⟨quiet_nodeFaults _ _, quiet_nestedItemFaults _ 0 es⟩
  | path, .scalar .. | path, .counter _ | path, .udt .. => by
    rw [nestedFaults]
    exact quiet_nodeFaults _ _

theorem quiet_nestedItemFaults : ∀ (path : String) (n : Nat) (ss : List Shape),
    Quiet (nestedItemFaults path n ss)
  | _, _, [] => by simp [nestedItemFaults]
  | path, n, s :: ss => by
    rw [nestedItemFaults, quiet_append]
    exact ⟨quiet_nestedFaults _ s, quiet_nestedItemFaults path (n + 1) ss⟩

end

theorem quiet_nestingFaults (s : Shape) : Quiet (nestingFaults s) := by
  cases s <;> simp [nestingFaults, quiet_nestedFaults, quiet_nestedItemFaults]

theorem quiet_kindFaults (kind : IndexKind) (s : Shape) : Quiet (kindFaults kind s) := by
  cases kind <;> simp [kindFaults]

theorem quiet_indexFaults (f : Field) : Quiet (indexFaults f) := by
  simp [indexFaults, implementationFaults, quiet_kindFaults]

theorem quiet_fieldFaults (f : Field) : Quiet (fieldFaults f) := by
  simp [fieldFaults, columnNameFaults, keyShapeFaults, quiet_fieldNameFaults, quiet_nestingFaults,
    quiet_indexFaults]

theorem quiet_duplicateFaults : ∀ (names columns : List String) (fields : List Field),
    Quiet (duplicateFaults names columns fields)
  | _, _, [] => by simp [duplicateFaults]
  | names, columns, f :: fs => by simp [duplicateFaults, quiet_duplicateFaults _ _ fs]

theorem quiet_computedFaults (e : Entity) (f : Field) : Quiet (computedFaults e f) := by
  intro v hv
  simp only [computedFaults, List.mem_flatMap, List.mem_filterMap, Option.map_eq_some_iff] at hv
  obtain ⟨_, -, _, -, _, -, rfl⟩ := hv
  rfl

theorem quiet_codecFaults (types : List UserType) (registry : Registry) (f : Field) :
    Quiet (codecFaults types registry f) := by
  rw [codecFaults]
  split
  · simp
  · cases registry.resolve types f with
    | ok => simp
    | error e => cases e <;> simp [resolveViolation]

theorem silent_keyFindings (e : Entity) : Silent (keyFindings e) := by
  rw [keyFindings, silent_append, silent_map_here]
  constructor
  · simp [orderFaults]
  · split
    · exact List.forall_mem_map.mpr fun f _ => rfl
    · exact silent_nil

theorem silent_onFields {faults : Field → List Violation} {fields : List Field}
    (h : ∀ f, Quiet (faults f)) : Silent (onFields faults fields) := by
  simp [onFields, h]

/-- Nothing that the rules about entities find is about a missing base. -/
theorem silent_entityFindings (types : List UserType) (registry : Registry) (e : Entity) :
    Silent (entityFindings types registry e) := by
  simp [entityFindings, tableNameFaults, counterCompanyFaults, counterKeyFaults,
    quiet_typeNameFaults, silent_keyFindings, quiet_duplicateFaults, silent_onFields,
    quiet_fieldFaults, quiet_computedFaults, quiet_codecFaults]

theorem quiet_typeFieldTypeFaults (types : List UserType) (s : Shape) :
    Quiet (typeFieldTypeFaults types s) := by
  rw [typeFieldTypeFaults]
  split
  · cases nativeType types s <;> simp
  · simp

theorem silent_userTypeFindings (types : List UserType) (u : UserType) :
    Silent (userTypeFindings types u) := by
  rw [userTypeFindings, silent_append, silent_append, silent_map_here, silent_flatMap]
  refine ⟨⟨quiet_typeNameFaults u.name, fun f _ => ?_⟩, ?_⟩
  · rw [silent_map_here_under, quiet_append, quiet_append]
    exact ⟨⟨quiet_fieldNameFaults _, quiet_nestedFaults _ _⟩, quiet_typeFieldTypeFaults types _⟩
  · split
    · exact List.forall_mem_singleton.mpr rfl
    · exact silent_nil

theorem silent_functionFindings (types : List UserType) : ∀ (seen : List String)
    (fs : List Function), Silent (functionFindings types seen fs)
  | _, [] => by simp [functionFindings]
  | seen, f :: fs => by
    rw [functionFindings, silent_append, silent_map_here_under]
    exact ⟨by simp [signatureFaults, functionTypeFaults], silent_functionFindings types _ fs⟩

theorem quiet_sharedTables : ∀ (seen : List (String × String)) (es : List Entity),
    Quiet (sharedTables seen es)
  | _, [] => by simp [sharedTables]
  | seen, e :: es => by simp [sharedTables, quiet_sharedTables _ es]

/-- Nothing that the rules about views find is, where there is a base. -/
theorem silent_viewFindings (view base : Entity) : Silent (viewFindings view (some base)) := by
  cases hview : view.viewOf with
  | none => simp [viewFindings, hview]
  | some name =>
    simp only [viewFindings, hview]
    rw [silent_append, silent_map_here, silent_flatMap]
    refine ⟨by simp [baseFaults, missingFaults, extraKeyFaults], fun f _ => ?_⟩
    exact silent_map_here_under.mpr (by simp [viewFieldFaults])

/-! ### Reading -/

theorem silent_found_of_collect {α β : Type} {name : α → String} {make : α → Checked β}
    {as : List α} (h : ∀ a, Silent (make a).found) : Silent (collect name make as).1 := by
  simp [collect_eq, h]

theorem silent_found_bind_collectAll {α β γ : Type} {name : α → String} {make : α → Checked β}
    {as : List α} (h : ∀ a, Silent (make a).found) (f : List β → γ) :
    Silent (Checked.found (do return f (← collectAll name make as))) :=
  found_bind_collectAll as f ▸ silent_found_of_collect h

theorem missingBase?_of_unmarkedShape {names : TypeNames} {type : String} {v : Violation}
    (h : unmarkedShape names type = .error v) : v.missingBase? = none := by
  rcases Except.bind_eq_error_iff.mp h with hparse | ⟨e, -, h⟩
  · obtain ⟨cause, -, rfl⟩ := Except.mapError_eq_error_iff.mp hparse
    rfl
  · split at h
    · cases h
    · cases h
      rfl

theorem silent_userType (defaults : Defaults) (declared : List Declaration.UserType)
    (u : Declaration.UserType) : Silent (UserType.ofDeclaration defaults declared u).found := by
  refine silent_found_bind_collectAll (fun f => ?_) _
  rw [TypeField.ofDeclaration]
  split
  · exact silent_nil
  · rename_i v hshape
    exact List.forall_mem_singleton.mpr (missingBase?_of_unmarkedShape hshape)

theorem missingBase?_of_declaredType {f : Declaration.Field} {v : Violation}
    (h : declaredType f = .error v) : v.missingBase? = none := by
  rw [declaredType] at h
  split at h
  · obtain ⟨cause, -, rfl⟩ := Except.mapError_eq_error_iff.mp h
    rfl
  all_goals cases h
  rfl

theorem silent_field (names : TypeNames) (naming : Naming) (f : Declaration.Field) :
    Silent (Field.ofDeclaration names naming f).found := by
  have hstrategy : Quiet (strategyFaults f) := by simp [strategyFaults]
  have hrole : Quiet (roleFaults f) := by simp [roleFaults]
  rw [Field.ofDeclaration]
  split
  · rename_i v htype
    refine silent_map_here.mpr (quiet_append.mpr ⟨hstrategy, quiet_cons.mpr ⟨?_, hrole⟩⟩)
    exact missingBase?_of_declaredType htype
  · dsimp only
    split
    · exact silent_nil
    · refine silent_map_here.mpr (quiet_append.mpr ⟨quiet_append.mpr ⟨hstrategy, hrole⟩, ?_⟩)
      exact List.forall_mem_map.mpr fun _ _ => rfl

theorem silent_entity (defaults : Defaults) (types : List UserType) (e : Declaration.Entity) :
    Silent (Entity.ofDeclaration defaults types e).found :=
  silent_found_bind_collectAll (silent_field _ _) _

theorem silent_plainShape (names : TypeNames) (type : String) :
    Silent (plainShape names type).found := by
  rw [plainShape]
  split
  · exact silent_nil
  · exact List.forall_mem_singleton.mpr rfl

theorem silent_function (defaults : Defaults) (types : List UserType) (f : Declaration.Function) :
    Silent (Function.ofDeclaration defaults types f).found := by
  rw [found_function, silent_append, silent_map_under, silent_flatMap]
  refine ⟨fun p _ => ?_, silent_plainShape _ _⟩
  exact silent_map_under.mpr (silent_plainShape _ _)

/-- Nothing that is found while a batch is read is about a missing base. -/
theorem silent_found (d : Declaration) (defaults : Defaults) :
    Silent (extraction d defaults).found := by
  simp only [extraction, silent_append, silent_map_under]
  exact ⟨⟨silent_found_of_collect (silent_userType defaults d.userTypes),
    silent_found_of_collect (silent_entity defaults _)⟩,
    silent_found_of_collect (silent_function defaults _)⟩

/-! ## 2. Where a base is looked up -/

section
variable {e b : Declaration.Entity} {m : Entity} {base place : String}

/-- **A declared entity that could be made**, with the user types of its batch. -/
def Made (d : Declaration) (defaults : Defaults) (e : Declaration.Entity) : Prop :=
  ∃ m, Entity.ofDeclaration defaults (extraction d defaults).userTypes e = .ok m

/-- **A declared view of an entity that could not be made.** -/
def OverUnmade (d : Declaration) (defaults : Defaults) (e : Declaration.Entity) : Prop :=
  ∃ b ∈ d.entities, e.viewOf = some b.name ∧ ¬Made d defaults b

theorem isSome_toOption_iff : (Entity.ofDeclaration defaults (extraction d defaults).userTypes
    e).toOption.isSome = true ↔ Made d defaults e := by
  rw [Made, Option.isSome_iff_exists]
  simp only [Except.toOption_eq_some_iff]

instance : Decidable (Made d defaults e) := decidable_of_iff _ isSome_toOption_iff

instance : Decidable (OverUnmade d defaults e) :=
  inferInstanceAs (Decidable (∃ b ∈ d.entities, e.viewOf = some b.name ∧ ¬Made d defaults b))

variable (h : (d.entities.map (·.name)).Nodup)
include h

theorem find?_eq_some_iff : d.entities.find? (·.name == base) = some b ↔
    b ∈ d.entities ∧ b.name = base := by
  constructor
  · intro hfind
    exact ⟨List.mem_of_find?_eq_some hfind, by simpa using List.find?_some hfind⟩
  · rintro ⟨hb, rfl⟩
    exact find?_of_nodup h hb

theorem isOverUnmade_iff (hmake : Entity.ofDeclaration defaults (extraction d defaults).userTypes e
    = .ok m) : isOverUnmade d defaults (extraction d defaults).userTypes m = true ↔
      OverUnmade d defaults e := by
  rw [isOverUnmade, (Entity.names_of_ofDeclaration hmake).2, OverUnmade]
  simp only [Option.any_eq_true, find?_eq_some_iff h, ← Option.not_isSome, Bool.not_eq_true',
    Bool.eq_false_iff, ne_eq, isSome_toOption_iff]
  constructor
  · rintro ⟨_, hview, b, ⟨hb, rfl⟩, hunmade⟩
    exact ⟨b, hb, hview, hunmade⟩
  · rintro ⟨b, hb, hview, hunmade⟩
    exact ⟨_, hview, b, ⟨hb, rfl⟩, hunmade⟩

/-- What is examined was declared and could be made, and is no view of anything that could not. -/
theorem mem_examinedOf_iff : m ∈ examinedOf d defaults ↔ ∃ e ∈ d.entities,
    Entity.ofDeclaration defaults (extraction d defaults).userTypes e = .ok m
      ∧ ¬OverUnmade d defaults e := by
  have hmade : (extraction d defaults).entities = d.entities.filterMap fun e =>
      (Entity.ofDeclaration defaults (extraction d defaults).userTypes e).toOption := by
    simp only [extraction, collect_eq]
  rw [examinedOf, hmade, examined_eq h, List.mem_filter, List.mem_filterMap]
  simp only [Except.toOption_eq_some_iff]
  constructor
  · rintro ⟨⟨e, he, hmake⟩, hover⟩
    refine ⟨e, he, hmake, fun hunmade => ?_⟩
    rw [(isOverUnmade_iff h hmake).mpr hunmade] at hover
    cases hover
  · rintro ⟨e, he, hmake, hover⟩
    refine ⟨⟨e, he, hmake⟩, ?_⟩
    rw [Bool.not_eq_true', Bool.eq_false_iff]
    exact mt (isOverUnmade_iff h hmake).mp hover

/-- **A base is not found** where it is not declared, could not be made, or is a view of what could
not be made. -/
theorem lastEntity?_examinedOf_eq_none_iff : lastEntity? (examinedOf d defaults) base = none ↔
    ∀ b ∈ d.entities, b.name = base → ¬Made d defaults b ∨ OverUnmade d defaults b := by
  rw [lastEntity?_of_filter (filter_examinedOf h base), Option.bind_eq_none_iff]
  simp only [find?_eq_some_iff h, and_imp]
  refine forall₃_congr fun b _ _ => ?_
  rw [examinedOf?]
  cases hmake : Entity.ofDeclaration defaults (extraction d defaults).userTypes b with
  | error found => simp [Except.toOption, Made, hmake]
  | ok m =>
    rw [← isOverUnmade_iff h hmake]
    simp [Except.toOption, Made, hmake, Option.filter]

end

/-! ## 3. Bases reported missing -/

variable {place base : String}

theorem Silent.not_mem {fs : List Finding} {f : Finding} (h : Silent fs)
    (hf : f.violation = .viewBaseMissing base) : f ∉ fs := by
  intro hmem
  have hnone := h f hmem
  rw [hf] at hnone
  cases hnone

/-- The finding that a base is missing is on a view for which none was found. -/
theorem mem_viewFindings_iff {view : Entity} {base? : Option Entity} {f : Finding}
    (hf : f.violation = .viewBaseMissing base) : f ∈ viewFindings view base? ↔
      view.viewOf = some base ∧ base? = none ∧ f = .here (.viewBaseMissing base) := by
  cases base? with
  | some b => simp [(silent_viewFindings view b).not_mem hf]
  | none =>
    cases hview : view.viewOf with
    | none => simp [viewFindings, hview]
    | some name =>
      simp only [viewFindings, hview, List.mem_singleton, Option.some.injEq, true_and]
      constructor
      · rintro rfl
        cases hf
        exact ⟨rfl, rfl⟩
      · rintro ⟨rfl, rfl⟩
        rfl

/-- What the rules find on views stands between findings on other things. -/
theorem findings_eq_append (entities : List Entity) (types : List UserType)
    (functions : List Function) (registry : Registry) :
    ∃ gs hs, findings entities types functions registry =
        gs ++ (entities.filter (·.isView)).flatMap (fun e =>
          (viewAndEntityFindings entities types registry e).map (.under e.name)) ++ hs
      ∧ Silent gs ∧ Silent hs := by
  refine ⟨_, _, by rw [findings, List.append_assoc, List.append_assoc], ?_, ?_⟩
  · simp [silent_userTypeFindings, silent_entityFindings]
  · simp only [silent_append, silent_map_here, silent_map_under]
    exact ⟨List.forall_mem_map.mpr fun _ _ => rfl, quiet_sharedTables _ _,
      silent_functionFindings _ _ _⟩

/-- Of all that the rules find, only views are told that their base is missing. -/
theorem mem_validation_iff {f : Finding} (hf : f.violation = .viewBaseMissing base) :
    f ∈ validation d registry defaults ↔ ∃ m ∈ examinedOf d defaults, m.viewOf = some base
      ∧ lastEntity? (examinedOf d defaults) base = none
      ∧ f = (Finding.here (.viewBaseMissing base)).under m.name := by
  obtain ⟨gs, hs, heq, hgs, hhs⟩ := findings_eq_append (examinedOf d defaults)
    (extraction d defaults).userTypes (extraction d defaults).functions registry
  change f ∈ findings (examinedOf d defaults) _ _ registry ↔ _
  simp only [heq, List.mem_append, hgs.not_mem hf, hhs.not_mem hf, false_or, or_false,
    List.mem_flatMap, List.mem_filter, List.mem_map]
  constructor
  · rintro ⟨m, ⟨hm, -⟩, g, hg, rfl⟩
    have hbelow : g.violation = .viewBaseMissing base := hf
    rcases List.mem_append.mp hg with hg | hg
    · exact absurd hg ((silent_entityFindings _ _ m).not_mem hbelow)
    · obtain ⟨hview, hnone, rfl⟩ := (mem_viewFindings_iff hbelow).mp hg
      rw [hview, Option.bind_some] at hnone
      exact ⟨m, hm, hview, hnone, rfl⟩
  · rintro ⟨m, hm, hview, hnone, rfl⟩
    refine ⟨m, ⟨hm, by rw [Entity.isView, hview, Option.isSome_some]⟩,
      .here (.viewBaseMissing base), List.mem_append_right _ ?_, rfl⟩
    rw [mem_viewFindings_iff rfl, hview, Option.bind_some]
    exact ⟨rfl, hnone, rfl⟩

theorem mem_flatten_reported_iff :
    (place, .viewBaseMissing base) ∈ (reported d registry defaults).flatten ↔
      ∃ f ∈ (extraction d defaults).found ++ validation d registry defaults,
        f.place = place ∧ f.violation = .viewBaseMissing base := by
  rw [reported_eq]
  exact ErrorTree.mem_flatten_ofFindings

/-- **Where no base is found for a view that is examined.** -/
theorem unfound_iff (h : (d.entities.map (·.name)).Nodup) {v : Declaration.Entity}
    (hview : v.viewOf = some base) :
    ¬OverUnmade d defaults v ∧ lastEntity? (examinedOf d defaults) base = none ↔
      (∀ b ∈ d.entities, b.name ≠ base)
        ∨ ∃ b ∈ d.entities, b.name = base ∧ Made d defaults b ∧ OverUnmade d defaults b := by
  have hbases : ¬OverUnmade d defaults v ↔
      ∀ b ∈ d.entities, b.name = base → Made d defaults b := by
    simp only [OverUnmade, hview, Option.some.injEq, not_exists, not_and, not_not, eq_comm]
  rw [hbases, lastEntity?_examinedOf_eq_none_iff h]
  constructor
  · rintro ⟨hmade, hnone⟩
    by_cases hdeclared : ∃ b ∈ d.entities, b.name = base
    · obtain ⟨b, hb, hname⟩ := hdeclared
      have hb' := hmade b hb hname
      exact .inr ⟨b, hb, hname, hb', (hnone b hb hname).resolve_left (not_not_intro hb')⟩
    · exact .inl fun b hb hname => hdeclared ⟨b, hb, hname⟩
  · rintro (hmissing | ⟨b, hb, rfl, hmade, hover⟩)
    · exact ⟨fun b hb hname => absurd hname (hmissing b hb),
        fun b hb hname => absurd hname (hmissing b hb)⟩
    · have hone : ∀ b' ∈ d.entities, b'.name = b.name → b' = b :=
        fun b' hb' heq => List.inj_on_of_nodup_map h hb' hb heq
      exact ⟨fun b' hb' heq => hone b' hb' heq ▸ hmade,
        fun b' hb' heq => .inr (hone b' hb' heq ▸ hover)⟩

/-- **Which bases are reported missing.**  A place holds the report that a base is missing exactly
if a declared view of that name is over that base and could be made, and the base either is not
declared, or is declared and could be made, but as a view of an entity that could not.  In the
second case the report is wrong. -/
theorem base_missing_iff (h : (d.entities.map (·.name)).Nodup) :
    (place, .viewBaseMissing base) ∈ (reported d registry defaults).flatten ↔
      ∃ v ∈ d.entities, v.name = place ∧ v.viewOf = some base ∧ Made d defaults v
        ∧ ((∀ b ∈ d.entities, b.name ≠ base)
          ∨ ∃ b ∈ d.entities, b.name = base ∧ Made d defaults b ∧ OverUnmade d defaults b) := by
  rw [mem_flatten_reported_iff]
  constructor
  · rintro ⟨f, hmem, rfl, hf⟩
    rcases List.mem_append.mp hmem with hfound | hvalid
    · exact absurd hfound ((silent_found d defaults).not_mem hf)
    · obtain ⟨m, hm, hview, hnone, rfl⟩ := (mem_validation_iff hf).mp hvalid
      obtain ⟨v, hv, hmake, hover⟩ := (mem_examinedOf_iff h).mp hm
      obtain ⟨hname, hviewOf⟩ := Entity.names_of_ofDeclaration hmake
      rw [hviewOf] at hview
      exact ⟨v, hv, hname.symm, hview, ⟨m, hmake⟩, (unfound_iff h hview).mp ⟨hover, hnone⟩⟩
  · rintro ⟨v, hv, rfl, hview, ⟨m, hmake⟩, hbase⟩
    obtain ⟨hover, hnone⟩ := (unfound_iff h hview).mpr hbase
    obtain ⟨hname, hviewOf⟩ := Entity.names_of_ofDeclaration hmake
    have hm := (mem_examinedOf_iff h).mpr ⟨v, hv, hmake, hover⟩
    refine ⟨(Finding.here (.viewBaseMissing base)).under m.name, List.mem_append_right _ ?_, ?_,
      rfl⟩
    · exact (mem_validation_iff rfl).mpr ⟨m, hm, hviewOf.trans hview, hnone, rfl⟩
    · rw [← hname]
      rfl

/-- Readings whose sensor has no type, a view of them, and a view of the view. -/
def readingViews : Declaration where
  entities := [
    { name := "Reading"
      fields := [(Declaration.Field.typed "sensor" "list<").inPartition 0, .typed "day" "date"] },
    { name := "ReadingByDay"
      viewOf := some "Reading"
      fields := [(Declaration.Field.typed "day" "date").inPartition 0] },
    { name := "DayOfReading"
      viewOf := some "ReadingByDay"
      fields := [(Declaration.Field.typed "day" "date").inPartition 0] }]

theorem base_missing_iff_readings :
    (readingViews.entities.map (·.name)).Nodup
      ∧ (∃ v ∈ readingViews.entities, v.name = "DayOfReading" ∧ v.viewOf = some "ReadingByDay"
        ∧ Made readingViews {} v
        ∧ ((∀ b ∈ readingViews.entities, b.name ≠ "ReadingByDay")
          ∨ ∃ b ∈ readingViews.entities, b.name = "ReadingByDay" ∧ Made readingViews {} b
            ∧ OverUnmade readingViews {} b))
      ∧ ("DayOfReading", .viewBaseMissing "ReadingByDay") ∈ (reported readingViews {} {}).flatten :=
  have h : (readingViews.entities.map (·.name)).Nodup := by decide +kernel
  have hwhy := by decide +kernel
  ⟨h, hwhy, (base_missing_iff h).mpr hwhy⟩

/-- **A declared base is reported missing**: the first view is declared, and yet the view of it is
told that its base is not. -/
theorem declared_base_missing :
    (readingViews.entities.map (·.name)).Nodup
      ∧ (∃ b ∈ readingViews.entities, b.name = "ReadingByDay")
      ∧ ("DayOfReading", .viewBaseMissing "ReadingByDay")
        ∈ (reported readingViews {} {}).flatten := by
  decide +kernel

end WideColumn.Schema
