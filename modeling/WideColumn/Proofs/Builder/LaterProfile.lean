/-
# What a later profile generates

A later profile has every feature of an earlier one, and no generator takes anything away for a
feature: it adds states, or methods to a state.  So the source for a later profile INCLUDES the
source for an earlier one: every type is there again, with every method as it was.

The argument goes up the layers of a source.  The methods of a state grow (`Sublist`), hence the
states of a family (`Grows`), hence the items of an entity (`Includes`), hence the whole source.
Where a layer can fail, failure has nothing to do with the profile, except that a profile must
serve the schema, which a later one does if an earlier one does (`later_profile_includes`).
-/
import Mathlib.Data.List.Forall2
import WideColumn.Builder
import WideColumn.Proofs.Builder.Plan
import WideColumn.Proofs.Builder.StateNames
import WideColumn.Proofs.Schema.Capabilities

namespace WideColumn

namespace Builder

open WideColumn.Source

variable {p : Plan} {q : Profile} {family after last : String} {json : Bool} {its its' : List Item}

/-! ## 1. What grows -/

/-- The types that items define, in order. -/
def typeNames (its : List Item) : List String :=
  its.filterMap fun
    | .structure name _ => some name
    | .constant .. | .methods .. | .conformance .. => none

/-- The methods that items give a type, in order. -/
def methodsOf (type : String) (its : List Item) : List Member :=
  its.flatMap fun
    | .methods target _ _ members => if target = type then members else []
    | .structure .. | .constant .. | .conformance .. => []

/-- What items make types conform to, in order: the target and the text. -/
def conformances (its : List Item) : List (String × String) :=
  its.filterMap fun
    | .conformance target text => some (target, text)
    | .structure .. | .constant .. | .methods .. => none

/-- **Items include other ones**: every type of those is there again, with every method, which has
the same name, the same result and the same text, and with what it conforms to. -/
structure Includes (its its' : List Item) : Prop where
  types : (typeNames its).Sublist (typeNames its')
  methods : ∀ type, (methodsOf type its).Sublist (methodsOf type its')
  conformances : (conformances its).Sublist (conformances its')

namespace Includes

theorem refl (its : List Item) : Includes its its := ⟨.refl _, fun _ => .refl _, .refl _⟩

theorem nil (its : List Item) : Includes [] its :=
  ⟨List.nil_sublist _, fun _ => List.nil_sublist _, List.nil_sublist _⟩

theorem append {is is' js js' : List Item} (hi : Includes is is') (hj : Includes js js') :
    Includes (is ++ js) (is' ++ js') := by
  constructor
  · simpa only [typeNames, List.filterMap_append] using hi.types.append hj.types
  · intro type
    simpa only [methodsOf, List.flatMap_append] using (hi.methods type).append (hj.methods type)
  · simpa only [Builder.conformances, List.filterMap_append] using
      hi.conformances.append hj.conformances

theorem methods_of_sublist {target header : String} {opening : List String}
    {ms ms' : List Member} (h : ms.Sublist ms') :
    Includes [.methods target header opening ms] [.methods target header opening ms'] := by
  refine ⟨.refl _, fun type => ?_, .refl _⟩
  by_cases htype : target = type <;> simp [methodsOf, htype, h]

end Includes

/-- One state has at least the methods of another one of its name. -/
structure State.IsPartOf (s s' : State) : Prop where
  name : s.name = s'.name
  methods : s.methods.Sublist s'.methods

/-- States grow to others: each is part of one of them, in the same order. -/
abbrev Grows (ss ss' : List State) : Prop := List.SublistForall₂ State.IsPartOf ss ss'

namespace Grows

theorem single {name : String} {ms ms' : List Method} (h : ms.Sublist ms') :
    Grows [⟨name, ms⟩] [⟨name, ms'⟩] := .cons ⟨rfl, h⟩ .nil

theorem refl : ∀ ss : List State, Grows ss ss
  | [] => .nil
  | _ :: ss => .cons ⟨rfl, .refl _⟩ (refl ss)

theorem append {ss ss' ts ts' : List State} (hs : Grows ss ss') (ht : Grows ts ts') :
    Grows (ss ++ ts) (ss' ++ ts') := by
  induction hs with
  | nil =>
    rename_i others
    induction others with
    | nil => exact ht
    | cons s others ih => exact .cons_right ih
  | cons hpart _ ih => exact .cons hpart ih
  | cons_right _ ih => exact .cons_right ih

/-- The items of states that grow are included. -/
theorem includes {ss ss' : List State} (h : Grows ss ss') :
    Includes (ss.flatMap State.items) (ss'.flatMap State.items) := by
  induction h with
  | nil => exact .nil _
  | @cons s s' _ _ hpart _ ih =>
    obtain ⟨name, ms⟩ := s
    obtain ⟨name', ms'⟩ := s'
    obtain ⟨rfl, hmethods⟩ := hpart
    have hstate : Includes (State.items ⟨name, ms⟩) (State.items ⟨name, ms'⟩) :=
      (Includes.refl [_]).append (.methods_of_sublist (hmethods.map Method.member))
    exact hstate.append ih
  | cons_right _ ih => exact (Includes.nil _).append ih

end Grows

/-- What is there under one condition grows to what is there under a weaker one. -/
theorem grows_ite {α : Type} {R : List α → List α → Prop} (hnil : ∀ xs, R [] xs) {c c' : Bool}
    (hc : c = true → c' = true) {xs xs' : List α} (h : R xs xs') :
    R (if c then xs else []) (if c' then xs' else []) := by
  cases c with
  | false => exact hnil _
  | true => simpa [hc rfl] using h

/-! ## 2. Plans for another profile -/

/-- The same plan for another profile. -/
def Plan.onProfile (p : Plan) (q : Profile) : Plan := { p with profile := q }

theorem plan_onProfile {schema : Schema} {profile : Profile} {emitDdl : Bool} {e : Schema.Entity}
    (h : plan schema profile emitDdl e = .ok p) :
    plan schema q emitDdl e = .ok (p.onProfile q) := by
  simp only [plan, Except.bind_eq_ok_iff] at h ⊢
  obtain ⟨fields, hfields, ident, hident, h⟩ := h
  cases h
  exact ⟨fields, hfields, ident, hident, rfl⟩

/-! The assignments and relations of a field have nothing to do with the profile. -/

theorem setMethods_onProfile : setMethods (p.onProfile q) = setMethods p := rfl

theorem allIndexRelations_onProfile : allIndexRelations (p.onProfile q) = allIndexRelations p := rfl

theorem keyStates_onProfile {fs : List PlannedField} :
    keyStates (p.onProfile q) family after fs = keyStates p family after fs := by
  induction fs with
  | nil => rfl
  | cons f fs ih =>
    rw [keyStates, keyStates, ih]
    rfl

section
variable (hle : p.profile.rank ≤ q.rank)
include hle

theorem has_onProfile {f : Feature} (h : p.has f = true) : (p.onProfile q).has f = true :=
  Profile.has_iff.mpr (Nat.le_trans (Profile.has_iff.mp h) hle)

theorem sublist_ite {α : Type} {f : Feature} {xs : List α} :
    (if p.has f then xs else []).Sublist (if (p.onProfile q).has f then xs else []) :=
  grows_ite List.nil_sublist (has_onProfile hle) (.refl xs)

/-! ## 3. Reading chains -/

theorem readMethods_sublist {ordering : Bool} :
    (readMethods p json ordering).Sublist (readMethods (p.onProfile q) json ordering) := by
  rw [readMethods, readMethods]
  exact (((((List.Sublist.refl _).append (sublist_ite hle)).append (.refl _)).append
    (.refl _)).append (.refl _)).append (.refl _)

theorem grows_partitionStates {first : Bool} {fs : List PlannedField} :
    Grows (partitionStates p family after first fs)
      (partitionStates (p.onProfile q) family after first fs) := by
  induction fs generalizing first with
  | nil => exact .nil
  | cons f fs ih =>
    rw [partitionStates, partitionStates]
    exact .cons ⟨rfl, (((List.Sublist.refl _).append (.refl _)).append (.refl _)).append
      (sublist_ite hle)⟩ ih

omit hle in
theorem grows_clusteringStates {lastMethods lastMethods' : List Method}
    (hlast : lastMethods.Sublist lastMethods') {position : Nat} {fs : List PlannedField} :
    Grows (clusteringStates p family last lastMethods position fs)
      (clusteringStates (p.onProfile q) family last lastMethods' position fs) := by
  induction fs generalizing position with
  | nil => exact .nil
  | cons f fs ih =>
    rw [clusteringStates, clusteringStates]
    exact .cons ⟨rfl, ((List.Sublist.refl _).append (hlast.map _)).cons_cons _⟩ ih

theorem grows_selectStates : Grows (selectStates p json) (selectStates (p.onProfile q) json) := by
  have hlast : (readMethods p json (!p.clustering.isEmpty)).Sublist
      (readMethods (p.onProfile q) json (!p.clustering.isEmpty)) := readMethods_sublist hle
  rw [selectStates, selectStates]
  exact ((grows_partitionStates hle).append (grows_clusteringStates hlast)).append
    (.single hlast)

theorem follows_indexStates :
    Except.Follows Grows (indexStates p json) (indexStates (p.onProfile q) json) := by
  rw [indexStates, indexStates, allIndexRelations_onProfile]
  refine .bind (.self _) ?_
  rintro first _ rfl
  refine .bind (.self _) ?_
  rintro more _ rfl
  refine .ok (.cons ⟨rfl, .refl _⟩ (Grows.single ?_))
  exact ((List.Sublist.refl more).append (readMethods_sublist hle)).cons_cons _

/-! ## 4. Writing chains -/

theorem grows_insertStates : Grows (insertStates p) (insertStates (p.onProfile q)) := by
  rw [insertStates, insertStates]
  exact grows_ite (fun _ => .nil) id (.single ((sublist_ite hle).append (.refl _)))

theorem conditionalMethods_sublist {tested : List PlannedField} :
    (conditionalMethods p family tested).Sublist
      (conditionalMethods (p.onProfile q) family tested) := by
  rw [conditionalMethods, conditionalMethods]
  exact sublist_ite hle

theorem grows_conditionalStates {tested : List PlannedField} {tail : List Method} :
    Grows (conditionalStates p family tested tail)
      (conditionalStates (p.onProfile q) family tested tail) := by
  rw [conditionalStates, conditionalStates]
  exact grows_ite (fun _ => .nil) (has_onProfile hle) (.refl _)

theorem follows_updateFamily {settable keys tested : List PlannedField} :
    Except.Follows Grows (updateFamily p family settable keys tested)
      (updateFamily (p.onProfile q) family settable keys tested) := by
  cases keys with
  | nil => exact .ok .nil
  | cons first others =>
    rw [updateFamily, updateFamily, setMethods_onProfile, keyStates_onProfile]
    refine .bind (.self _) ?_
    rintro firstMethods _ rfl
    refine .bind (.self _) ?_
    rintro moreMethods _ rfl
    refine .ok (.append (.refl _) (.cons ⟨rfl, ?_⟩ (grows_conditionalStates hle)))
    exact (conditionalMethods_sublist hle).append (.refl _)

theorem follows_updateFamilyIfAny {settable keys tested : List PlannedField} :
    Except.Follows Grows (updateFamilyIfAny p family settable keys tested)
      (updateFamilyIfAny (p.onProfile q) family settable keys tested) := by
  rw [updateFamilyIfAny, updateFamilyIfAny]
  split
  · exact .ok .nil
  · exact follows_updateFamily hle

theorem follows_updateStates :
    Except.Follows Grows (updateStates p) (updateStates (p.onProfile q)) := by
  rw [updateStates, updateStates]
  refine (follows_updateFamilyIfAny hle).bind fun whole whole' hwhole => ?_
  refine (follows_updateFamilyIfAny hle).bind fun static static' hstatic => ?_
  exact .ok (hwhole.append hstatic)

/-- A delete may end earlier, and bound a column, where the store deletes ranges. -/
theorem grows_narrowingStates {lastMethods lastMethods' : List Method}
    (hlast : lastMethods.Sublist lastMethods') {position : Nat} {fs : List PlannedField} :
    Grows (narrowingStates p family last lastMethods position fs)
      (narrowingStates (p.onProfile q) family last lastMethods' position fs) := by
  induction fs generalizing position with
  | nil => exact .nil
  | cons f fs ih =>
    rw [narrowingStates, narrowingStates]
    refine .cons ⟨rfl, List.Sublist.append (.cons_cons _ (sublist_ite hle)) ?_⟩ ih
    refine grows_ite List.nil_sublist (fun hends => ?_) (hlast.map _)
    rw [Bool.or_eq_true] at hends ⊢
    exact hends.imp_right (has_onProfile hle)

theorem grows_deleteFamily {clustering tested : List PlannedField} :
    Grows (deleteFamily p family clustering tested)
      (deleteFamily (p.onProfile q) family clustering tested) := by
  have hlast : (conditionalMethods p family tested ++ writeMethods false).Sublist
      (conditionalMethods (p.onProfile q) family tested ++ writeMethods false) :=
    (conditionalMethods_sublist hle).append (.refl _)
  rw [deleteFamily, deleteFamily, keyStates_onProfile]
  exact ((Grows.refl _).append (grows_narrowingStates hle hlast)).append
    (.cons ⟨rfl, hlast⟩ (grows_conditionalStates hle))

theorem grows_deleteStates : Grows (deleteStates p) (deleteStates (p.onProfile q)) := by
  rw [deleteStates, deleteStates]
  refine (grows_deleteFamily hle).append ?_
  change Grows _ (if p.statics.isEmpty then [] else _)
  split
  · exact .nil
  · exact grows_deleteFamily hle

/-! ## 5. Entities -/

omit hle in
theorem follows_nativeRelations {f : PlannedField} {kind : IndexKind} {next next' : Option String} :
    Except.Follows (fun _ _ => True) (nativeRelations p f kind next)
      (nativeRelations p f kind next') := by
  rw [nativeRelations.eq_def, nativeRelations.eq_def]
  generalize f.model.shape = s
  cases kind with
  | normal | full => exact .ok trivial
  | collection | mapValue => exact .bind (.self _) fun _ _ _ => .ok trivial
  | mapKey =>
    cases s with
    | map => exact .bind (.self _) fun _ _ _ => .ok trivial
    | _ => exact .ok trivial
  | mapEntry =>
    cases s with
    | map => exact .bind (.self _) fun _ _ _ => .bind (.self _) fun _ _ _ => .ok trivial
    | _ => exact .ok trivial

omit hle in
theorem follows_allIndexRelations {next next' : Option String} :
    Except.Follows (fun _ _ => True) (allIndexRelations p next) (allIndexRelations p next') := by
  refine .flatMapM trivial (fun _ _ => trivial) ?_
  rintro ⟨f, i⟩ -
  change Except.Follows _ (indexRelations p f next i) (indexRelations p f next' i)
  rw [indexRelations.eq_def, indexRelations.eq_def]
  cases i.implementation with
  | native => exact follows_nativeRelations
  | sasi | search => exact .ok trivial

omit hle in
/-- Index chains for records and for JSON can be made or not together. -/
theorem exists_indexStates {ss : List State} (h : indexStates p json = .ok ss) (json' : Bool) :
    ∃ ss', indexStates p json' = .ok ss' := by
  have hfollows : Except.Follows (fun _ _ => True) (indexStates p json) (indexStates p json') :=
    follows_allIndexRelations.bind fun _ _ _ => follows_allIndexRelations.bind fun _ _ _ =>
      .ok trivial
  obtain ⟨ss', hss', -⟩ := hfollows ss h
  exact ⟨ss', hss'⟩

theorem grows_readingStates : Grows (readingStates p) (readingStates (p.onProfile q)) :=
  (grows_selectStates hle).append
    (grows_ite (fun _ => .nil) (has_onProfile hle) (grows_selectStates hle))

/-- Index chains for JSON open no new way to fail: they need what those for records need. -/
theorem follows_indexChains :
    Except.Follows Grows (indexChains p) (indexChains (p.onProfile q)) := by
  rw [indexChains, indexChains]
  change Except.Follows Grows _ (if p.indexed.isEmpty then _ else _)
  split
  · exact .ok .nil
  · intro ss h
    obtain ⟨records, hrecords, h⟩ := Except.bind_eq_ok_iff.mp h
    obtain ⟨others, hothers⟩ := exists_indexStates hrecords true
    obtain ⟨records', hrecords', hgrows⟩ := follows_indexStates hle _ hrecords
    obtain ⟨others', hothers', hmore⟩ := follows_indexStates hle _ hothers
    refine ⟨records' ++ if (p.onProfile q).has .jsonStatements then others' else [], ?_, ?_⟩
    · rw [hrecords', hothers']
      split <;> rfl
    · obtain rfl : ss = records ++ if p.has .jsonStatements then others else [] := by
        rw [hothers] at h
        split at h <;> cases h <;> simp_all
      exact hgrows.append (grows_ite (fun _ => .nil) (has_onProfile hle) hmore)

theorem follows_states : Except.Follows Grows (states p) (states (p.onProfile q)) := by
  rw [states_eq, states_eq]
  change Except.Follows Grows _ (if p.entity.isView then _ else _)
  split
  · exact .ok (grows_readingStates hle)
  · refine (follows_updateStates hle).bind fun updates updates' hupdates => ?_
    refine (follows_indexChains hle).bind fun indexes indexes' hindexes => ?_
    exact .ok (((((grows_readingStates hle).append (grows_insertStates hle)).append hupdates).append
      (grows_deleteStates hle)).append hindexes)

/-! ## 6. Sources -/

theorem managerMembers_sublist :
    (managerMembers p).Sublist (managerMembers (p.onProfile q)) := by
  have hforms : ∀ make : Bool → Member,
      (inBothForms p make).Sublist (inBothForms (p.onProfile q) make) := by
    intro make
    rw [inBothForms, inBothForms]
    exact (sublist_ite hle).cons_cons _
  have hinsert : (insertMembers p).Sublist (insertMembers (p.onProfile q)) := by
    rw [insertMembers, insertMembers]
    exact grows_ite List.nil_sublist id ((sublist_ite hle).cons_cons _)
  have htable : (tableMembers p).Sublist (tableMembers (p.onProfile q)) := by
    rw [tableMembers, tableMembers]
    change List.Sublist _ (if p.entity.isView then _ else _)
    split
    · exact .refl _
    · refine ((hinsert.append (.refl _)).append (.refl _)).append ?_
      change List.Sublist _ (if p.indexed.isEmpty then _ else _)
      split
      · exact .refl _
      · exact hforms _
  rw [managerMembers, managerMembers]
  exact ((((hforms _).cons_cons _).append (.refl _)).append htable).append (.refl _)

theorem includes_managerItems : Includes (managerItems p) (managerItems (p.onProfile q)) :=
  ((Includes.refl [_]).append (.methods_of_sublist (managerMembers_sublist hle))).append (.refl [_])

theorem follows_entityItems :
    Except.Follows Includes (entityItems p) (entityItems (p.onProfile q)) := by
  rw [entityItems, entityItems]
  refine (follows_states hle).bind fun ss ss' hstates => ?_
  exact .ok (((Includes.refl _).append hstates.includes).append (includes_managerItems hle))

end

/-- **The source for a later profile follows the one for an earlier profile, and includes it.** -/
theorem follows_items {schema : Schema} {profile : Profile} {emitDdl : Bool}
    (hle : profile.rank ≤ q.rank) :
    Except.Follows Includes (items schema profile emitDdl) (items schema q emitDdl) := by
  rw [items, items]
  refine .bind (R := fun _ _ => True) (.mapError ?_) fun _ _ _ => ?_
  · intro _ hserved
    exact ⟨(), schema.checkCapabilities_mono hle hserved, trivial⟩
  refine .bind (.self _) ?_
  rintro types _ rfl
  refine .bind (R := Includes) ?_ fun entities entities' hentities => ?_
  · refine .flatMapM (.refl []) Includes.append fun e _ => ?_
    refine .bind (R := fun p p' => p.profile = profile ∧ p' = p.onProfile q) ?_ ?_
    · intro p hp
      exact ⟨p.onProfile q, plan_onProfile hp, profile_of_plan hp, rfl⟩
    · rintro p _ ⟨rfl, rfl⟩
      exact follows_entityItems hle
  · refine .bind (.self _) ?_
    rintro functions _ rfl
    exact .ok ((((Includes.refl _).append hentities).append (.refl _)).append (.refl _))

end Builder

open Builder in
/-- **Later profiles generate a superset.**  Where source is generated for a profile it is for
every later one, and there every type is defined again and has all its methods, each with the same
result. -/
theorem Settings.later_profile_includes {settings : Settings} {d : Declaration} {p q : Profile}
    {its : List Source.Item} (hle : p.rank ≤ q.rank)
    (h : (settings.onProfile p).generate d = .ok its) :
    ∃ its', (settings.onProfile q).generate d = .ok its' ∧ Includes its its' := by
  have hfollows : Except.Follows Includes ((settings.onProfile p).generate d)
      ((settings.onProfile q).generate d) := by
    rw [generate, generate]
    refine .bind (.self _) ?_
    rintro schema _ rfl
    exact (follows_items hle).mapError
  exact hfollows its h

namespace Builder

/-- Readings of a static owner, with an index on their values. -/
def indexedReadings : Declaration where
  entities := [
    { name := "Reading"
      fields := [
        (Declaration.Field.typed "sensor" "bigint").inPartition 0,
        (Declaration.Field.typed "day" "date").inClustering 0 true,
        (Declaration.Field.typed "owner" "text").asStatic,
        (Declaration.Field.typed "value" "int").withIndex {}] }]

theorem later_profile_includes_readings :
    ∃ its its', (Settings.onProfile {} .cassandra21).generate indexedReadings = .ok its
      ∧ (Settings.onProfile {} .dse51).generate indexedReadings = .ok its'
      ∧ "ReadingIndexSelect" ∈ typeNames its ∧ Includes its its' := by
  have hready : ((Settings.onProfile {} .cassandra21).generate indexedReadings).toOption.map
      (fun its => decide ("ReadingIndexSelect" ∈ typeNames its)) = some true := by decide +kernel
  simp only [Option.map_eq_some_iff, Except.toOption_eq_some_iff, decide_eq_true_eq] at hready
  obtain ⟨its, hits, hnamed⟩ := hready
  obtain ⟨its', hits', hincludes⟩ :=
    Settings.later_profile_includes (q := .dse51) (by decide) hits
  exact ⟨its, its', hits, hits', hnamed, hincludes⟩

end Builder

end WideColumn
