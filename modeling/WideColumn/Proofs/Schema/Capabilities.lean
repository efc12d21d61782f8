/-
# Which profiles can serve a schema

A schema USES a feature if something in it needs the feature: a view, a static column, a function,
an index, or a declared user type that is not frozen, at whatever depth of a column it stands.
`Uses` says so of the schema alone.  The feature of an index is listed for each implementation and
each kind (`Index.Needs`), and a user type is found by a path to its node.

The check asks less.  Of each column it looks at the outermost node only.  That is enough for an
accepted batch, where composite values below that node are frozen (`any_of_nestingFaults`), so the
features that are asked for are the features used (`mem_features_iff`).  And to have a feature is
to come no earlier than the first profile that adds it (`Profile.has_iff`).  Together the check is
exact, and names a culprit when it fails (`checkCapabilities_exact`).
-/
import WideColumn.Proofs.Except
import WideColumn.Proofs.Schema.Accepted
import WideColumn.Proofs.Schema.Pieces
import WideColumn.Proofs.Type.Node
import WideColumn.Schema.Capabilities

namespace WideColumn

/-! ## 1. The chain of profiles -/

namespace Profile

variable {p q : Profile} {f : Feature}

/-- The first profiles of the chain are those of no higher rank. -/
theorem mem_take_chain_iff : q ∈ chain.take (p.rank + 1) ↔ q.rank ≤ p.rank := by
  cases p <;> cases q <;> decide

theorem mem_adds_minimum : f ∈ (minimum f).adds := by
  cases f <;> decide

/-- No feature is added twice. -/
theorem eq_minimum_of_mem_adds (h : f ∈ q.adds) : q = minimum f := by
  revert h
  cases q <;> cases f <;> decide

/-- **A profile has a feature from its minimum on.** -/
theorem has_iff : p.has f = true ↔ (minimum f).rank ≤ p.rank := by
  simp only [has, List.any_eq_true, List.contains_iff_mem, mem_take_chain_iff]
  constructor
  · rintro ⟨q, hq, hadds⟩
    exact eq_minimum_of_mem_adds hadds ▸ hq
  · intro hmin
    exact ⟨minimum f, hmin, mem_adds_minimum⟩

theorem require_eq_ok_iff : p.require f = .ok () ↔ p.has f = true := by
  rw [require]
  split <;> simp_all

theorem require_eq_error_iff {e : CapabilityError} : p.require f = .error e ↔
    p.has f = false ∧ e = .featureUnavailable f p (minimum f) := by
  cases hhas : p.has f with
  | false => simp [require, hhas, eq_comm (b := e)]
  | true => simp [require, hhas]

end Profile

namespace Schema

/-! ## 2. What lies below the outermost node -/

/-- A test finds only composites that are not frozen. -/
def FindsOpen (test : Shape → Bool) : Prop :=
  ∀ t, test t = true → t.isComposite = true ∧ t.frozen = false

section
variable {test : Shape → Bool}

theorem FindsOpen.of_nodeFaults (htest : FindsOpen test) {path : String} {t : Shape}
    (h : nodeFaults path t = []) : test t = false := by
  by_contra hopen
  obtain ⟨hcomposite, hfrozen⟩ := htest t (by simpa using hopen)
  simp [nodeFaults, hcomposite, hfrozen] at h

mutual

/-- Inside a composite without faults no composite is left open. -/
theorem any_of_nestedFaults (htest : FindsOpen test) :
    ∀ (path : String) (t : Shape), nestedFaults path t = [] → t.any test = false
  | path, .list p e, h => by
    rw [nestedFaults, List.append_eq_nil_iff] at h
    rw [Shape.any, htest.of_nodeFaults h.1, any_of_nestedFaults htest _ e h.2, Bool.or_false]
  | path, .set p e, h => by
    rw [nestedFaults, List.append_eq_nil_iff] at h
    rw [Shape.any, htest.of_nodeFaults h.1, any_of_nestedFaults htest _ e h.2, Bool.or_false]
  | path, .map p k v, h => by
    rw [nestedFaults, List.append_eq_nil_iff, List.append_eq_nil_iff] at h
    rw [Shape.any, htest.of_nodeFaults h.1.1, any_of_nestedFaults htest _ k h.1.2,
      any_of_nestedFaults htest _ v h.2, Bool.or_false, Bool.or_false]
  | path, .tuple p es, h => by
    rw [nestedFaults, List.append_eq_nil_iff] at h
    rw [Shape.any, htest.of_nodeFaults h.1, anyOf_of_nestedItemFaults htest _ _ es h.2,
      Bool.or_false]
  | path, .scalar p s, h => by
    rw [nestedFaults] at h
    rw [Shape.any, htest.of_nodeFaults h]
  | path, .counter p, h => by
    rw [nestedFaults] at h
    rw [Shape.any, htest.of_nodeFaults h]
  | path, .udt p name, h => by
    rw [nestedFaults] at h
    rw [Shape.any, htest.of_nodeFaults h]

theorem anyOf_of_nestedItemFaults (htest : FindsOpen test) : ∀ (path : String) (n : Nat)
    (ts : List Shape), nestedItemFaults path n ts = [] → Shape.anyOf test ts = false
  | _, _, [], _ => rfl
  | path, n, t :: ts, h => by
    rw [nestedItemFaults, List.append_eq_nil_iff] at h
    rw [Shape.anyOf, any_of_nestedFaults htest _ t h.1, anyOf_of_nestedItemFaults htest _ _ ts h.2,
      Bool.or_false]

end

/-- **Only the outermost node of a column can be an open composite.** -/
theorem any_of_nestingFaults (htest : FindsOpen test) {t : Shape} (h : nestingFaults t = []) :
    t.any test = test t := by
  cases t with
  | list p e | set p e =>
    rw [nestingFaults] at h
    rw [Shape.any, any_of_nestedFaults htest _ e h, Bool.or_false]
  | map p k v =>
    rw [nestingFaults, List.append_eq_nil_iff] at h
    rw [Shape.any, any_of_nestedFaults htest _ k h.1, any_of_nestedFaults htest _ v h.2,
      Bool.or_false, Bool.or_false]
  | tuple p es =>
    rw [nestingFaults] at h
    rw [Shape.any, anyOf_of_nestedItemFaults htest _ _ es h, Bool.or_false]
  | scalar | counter | udt => rfl

end

variable {d : Declaration} {registry : Registry} {defaults : Defaults} {s : Schema}
  {e : Entity} {feature : Feature}

theorem findsOpen_isOpenUserType (s : Schema) : FindsOpen s.isOpenUserType := by
  intro t h
  simp only [isOpenUserType, Bool.and_eq_true, Bool.not_eq_true'] at h
  refine ⟨?_, h.1⟩
  cases t <;> simp_all [Shape.isComposite, Shape.udtName?]

/-! ## 3. What a schema uses -/

/-- **The feature that an index needs**, for each implementation and each kind.  A plain index of
the store itself needs none. -/
inductive Index.Needs : IndexImplementation → IndexKind → Feature → Prop
  | sasi {options : Declaration.Sasi} {kind : IndexKind} : Needs (.sasi options) kind .sasiIndex
  | search {options : Declaration.Search} {kind : IndexKind} :
    Needs (.search options) kind .dseSearch
  | full : Needs .native .full .fullCollectionIndex
  | collection : Needs .native .collection .collectionIndex
  | mapValue : Needs .native .mapValue .collectionIndex
  | mapKey : Needs .native .mapKey .mapKeyIndex
  | mapEntry : Needs .native .mapEntry .mapEntryIndex

theorem Index.feature?_eq_some_iff {i : Index} :
    i.feature? = some feature ↔ Index.Needs i.implementation i.kind feature := by
  obtain ⟨kind, implementation, name, slot⟩ := i
  constructor
  · intro h
    cases implementation with
    | sasi | search =>
      cases h
      constructor
    | native =>
      cases kind with
      | normal => cases h
      | full | collection | mapValue | mapKey | mapEntry =>
        cases h
        constructor
  · intro h
    cases h <;> rfl

/-- **A node is an open user type**: one of the declared user types, not frozen. -/
def IsOpenUserType (s : Schema) (node : Shape) : Prop :=
  ∃ place, place.frozen = false ∧ ∃ u ∈ s.userTypes, node = .udt place u.typeName

theorem isOpenUserType_iff {node : Shape} :
    s.isOpenUserType node = true ↔ s.IsOpenUserType node := by
  constructor
  · intro h
    cases node with
    | udt place name =>
      simp only [isOpenUserType, Bool.and_eq_true, Bool.not_eq_true', Shape.udtName?,
        Option.any_some, Option.isSome_iff_exists] at h
      obtain ⟨hfrozen, u, hu⟩ := h
      exact ⟨place, hfrozen, u, List.mem_of_find?_eq_some hu, by rw [typeName_of_userType? hu]⟩
    | _ => simp [isOpenUserType, Shape.udtName?] at h
  · rintro ⟨place, hfrozen, u, hu, rfl⟩
    have hfound : (userType? s.userTypes u.typeName).isSome = true :=
      List.find?_isSome.mpr ⟨u, hu, beq_self_eq_true _⟩
    simp [isOpenUserType, Shape.udtName?, Shape.frozen, Shape.place, hfrozen, hfound]

/-- **A schema uses a feature.** -/
inductive Uses (s : Schema) : Feature → Prop
  /-- Some entity is a view of another one. -/
  | view {e : Entity} {base : String} (he : e ∈ s.entities) (hview : e.viewOf = some base) :
      Uses s .materializedViews
  /-- Some column is static, as a value or as a counter. -/
  | static {e : Entity} {f : Field} (he : e ∈ s.entities) (hf : f ∈ e.fields)
      (hstatic : f.role = .static ∨ f.role = .staticCounter) : Uses s .staticColumns
  /-- At some path inside a column there is a declared user type that is not frozen. -/
  | openUserType {e : Entity} {f : Field} {path : List Shape.Step} {node : Shape}
      (he : e ∈ s.entities) (hf : f ∈ e.fields) (hnode : f.shape.at? path = some node)
      (hopen : s.IsOpenUserType node) :
      Uses s .nonFrozenUdt
  /-- Some column has an index that needs the feature. -/
  | index {e : Entity} {f : Field} {i : Index} {feature : Feature} (he : e ∈ s.entities)
      (hf : f ∈ e.fields) (hi : i ∈ f.indexes)
      (hneeds : Index.Needs i.implementation i.kind feature) : Uses s feature
  /-- There is a function. -/
  | functions (hsome : s.functions ≠ []) : Uses s .userFunctions

theorem mem_fieldFeatures_iff {f : Field} : feature ∈ s.fieldFeatures f ↔
    (f.role.isStatic = true ∧ feature = .staticColumns)
      ∨ (s.isOpenUserType f.shape = true ∧ feature = .nonFrozenUdt)
      ∨ ∃ i ∈ f.indexes, Index.Needs i.implementation i.kind feature := by
  simp only [fieldFeatures, List.mem_append, List.mem_filterMap, List.mem_ite_nil_right,
    List.mem_singleton, or_assoc, Index.feature?_eq_some_iff]

/-- Outermost open user types are all the open user types of an accepted column. -/
theorem isOpenUserType_iff_exists (h : load d registry defaults = .ok s) (he : e ∈ s.entities)
    {f : Field} (hf : f ∈ e.fields) : s.isOpenUserType f.shape = true ↔
      ∃ path node, f.shape.at? path = some node ∧ s.IsOpenUserType node := by
  rw [← any_of_nestingFaults (findsOpen_isOpenUserType s)
    ((accepted_of_entity h he).fields f hf).nesting, Shape.any_iff]
  simp only [isOpenUserType_iff]

theorem isStatic_iff {role : Role} :
    role.isStatic = true ↔ role = .static ∨ role = .staticCounter := by
  cases role <;> simp [Role.isStatic]

/-- **The features that are asked for are the features used.** -/
theorem mem_features_iff (h : load d registry defaults = .ok s) :
    feature ∈ s.features ↔ s.Uses feature := by
  simp only [features, List.mem_append, List.mem_flatMap, List.mem_ite_nil_right,
    List.mem_ite_nil_left, List.mem_singleton, mem_fieldFeatures_iff, isStatic_iff]
  simp only [Entity.isView, Option.isSome_iff_exists]
  constructor
  · rintro (⟨e, he, ⟨⟨base, hview⟩, rfl⟩ |
      ⟨f, hf, ⟨hstatic, rfl⟩ | ⟨hopen, rfl⟩ | ⟨i, hi, hneeds⟩⟩⟩ | ⟨hsome, rfl⟩)
    · exact .view he hview
    · exact .static he hf hstatic
    · obtain ⟨path, node, hnode, hopen⟩ := (isOpenUserType_iff_exists h he hf).mp hopen
      exact .openUserType he hf hnode hopen
    · exact .index he hf hi hneeds
    · exact .functions (by simpa using hsome)
  · intro huses
    cases huses with
    | view he hview => exact .inl ⟨_, he, .inl ⟨⟨_, hview⟩, rfl⟩⟩
    | static he hf hstatic => exact .inl ⟨_, he, .inr ⟨_, hf, .inl ⟨hstatic, rfl⟩⟩⟩
    | openUserType he hf hnode hopen =>
      have houtermost := (isOpenUserType_iff_exists h he hf).mpr ⟨_, _, hnode, hopen⟩
      exact .inl ⟨_, he, .inr ⟨_, hf, .inr (.inl ⟨houtermost, rfl⟩)⟩⟩
    | index he hf hi hneeds => exact .inl ⟨_, he, .inr ⟨_, hf, .inr (.inr ⟨_, hi, hneeds⟩)⟩⟩
    | functions hsome => exact .inr ⟨by simpa using hsome, rfl⟩

/-- A later profile can serve what an earlier one can. -/
theorem checkCapabilities_mono {p q : Profile} (s : Schema) (hle : p.rank ≤ q.rank)
    (h : s.checkCapabilities p = .ok ()) : s.checkCapabilities q = .ok () := by
  rw [checkCapabilities, Except.forM_eq_ok_iff] at h ⊢
  intro feature hasked
  have hmin := Profile.has_iff.mp (Profile.require_eq_ok_iff.mp (h feature hasked))
  exact Profile.require_eq_ok_iff.mpr (Profile.has_iff.mpr (Nat.le_trans hmin hle))

/-- **The capability check is exact.**  A profile can serve an accepted batch exactly if it comes
no earlier than the first profile of every feature that the batch uses.  If it cannot, the check
names such a feature, and a first profile for it that is still to come. -/
theorem checkCapabilities_exact (h : load d registry defaults = .ok s) (p : Profile) :
    (s.checkCapabilities p = .ok () ↔
        ∀ feature, s.Uses feature → (Profile.minimum feature).rank ≤ p.rank)
      ∧ ∀ e, s.checkCapabilities p = .error e →
        ∃ feature minimum, e = .featureUnavailable feature p minimum ∧ s.Uses feature
          ∧ minimum = Profile.minimum feature ∧ p.rank < minimum.rank := by
  refine ⟨?_, fun e he => ?_⟩
  · rw [checkCapabilities, Except.forM_eq_ok_iff]
    refine forall_congr' fun feature => ?_
    rw [mem_features_iff h, Profile.require_eq_ok_iff, Profile.has_iff]
  · obtain ⟨feature, hasked, hrefused⟩ := Except.exists_of_forM_eq_error he
    obtain ⟨hlacks, rfl⟩ := Profile.require_eq_error_iff.mp hrefused
    refine ⟨feature, Profile.minimum feature, rfl, (mem_features_iff h).mp hasked, rfl, ?_⟩
    rw [← Nat.not_le, ← Profile.has_iff, hlacks]
    exact Bool.false_ne_true

/-- Readings with a static owner and the place where they are taken, and a view of them by place.
The place of a reading is a user type that is not frozen, its remarks are searched by what they
contain and its marks by their entries. -/
def placedByOwner : Declaration where
  userTypes := [{ name := "Place", fields := [{ name := "floor", type := "int" }] }]
  entities := [
    { name := "Reading"
      fields := [
        (Declaration.Field.typed "sensor" "bigint").inPartition 0,
        (Declaration.Field.typed "day" "date").inClustering 0 true,
        (Declaration.Field.typed "owner" "text").asStatic,
        .typed "place" "place",
        .typed "seen" "list<frozen<place>>",
        (Declaration.Field.typed "remark" "text").withIndex (.ofSasi (.ofMode .contains)),
        (Declaration.Field.typed "marks" "map<text, int>").withIndex
          { kind := some .mapEntry }] },
    { name := "ReadingByDay"
      viewOf := some "Reading"
      fields := [
        (Declaration.Field.typed "day" "date").inPartition 0,
        (Declaration.Field.typed "sensor" "bigint").inClustering 0 true,
        .typed "place" "place",
        .typed "seen" "list<frozen<place>>",
        .typed "marks" "map<text, int>"] }]

/-- Profiles that come too early are refused, one for the user type that is not frozen and the next
for the search by what a text contains. -/
theorem checkCapabilities_exact_placed :
    ∃ s, load placedByOwner {} {} = .ok s
      ∧ (∃ minimum, s.checkCapabilities .cassandra30 =
            .error (.featureUnavailable .nonFrozenUdt .cassandra30 minimum)
          ∧ s.Uses .nonFrozenUdt ∧ Profile.rank .cassandra30 < minimum.rank)
      ∧ (∃ minimum, s.checkCapabilities .cassandra36 =
            .error (.featureUnavailable .sasiIndex .cassandra36 minimum)
          ∧ s.Uses .sasiIndex ∧ Profile.rank .cassandra36 < minimum.rank)
      ∧ s.checkCapabilities .cassandra37 = .ok ()
      ∧ s.Uses .mapEntryIndex
      ∧ ∀ feature, s.Uses feature → (Profile.minimum feature).rank ≤ Profile.rank .cassandra37 := by
  have hready : (load placedByOwner {} {}).toOption.map features = some
      [.staticColumns, .nonFrozenUdt, .sasiIndex, .mapEntryIndex, .materializedViews,
        .nonFrozenUdt] := by decide +kernel
  simp only [Option.map_eq_some_iff, Except.toOption_eq_some_iff] at hready
  obtain ⟨s, hload, hfeatures⟩ := hready
  have hchecked : ∀ p : Profile, s.checkCapabilities p = forM [.staticColumns, .nonFrozenUdt,
      .sasiIndex, .mapEntryIndex, .materializedViews, .nonFrozenUdt] p.require :=
    fun p => congrArg (forM · p.require) hfeatures
  have hculprit : ∀ {p : Profile} {feature : Feature} {minimum : Profile},
      s.checkCapabilities p = .error (.featureUnavailable feature p minimum) →
      s.Uses feature ∧ p.rank < minimum.rank := by
    intro p feature minimum hrefused
    obtain ⟨_, _, heq, huses, -, hrank⟩ := (checkCapabilities_exact hload p).2 _ hrefused
    cases heq
    exact ⟨huses, hrank⟩
  have hopen : s.checkCapabilities .cassandra30 =
      .error (.featureUnavailable .nonFrozenUdt .cassandra30 .cassandra36) :=
    (hchecked _).trans (by decide)
  have hsearched : s.checkCapabilities .cassandra36 =
      .error (.featureUnavailable .sasiIndex .cassandra36 .cassandra37) :=
    (hchecked _).trans (by decide)
  have hserved : s.checkCapabilities .cassandra37 = .ok () := (hchecked _).trans (by decide)
  exact ⟨s, hload, ⟨_, hopen, hculprit hopen⟩, ⟨_, hsearched, hculprit hsearched⟩, hserved,
    (mem_features_iff hload).mp (by simp [hfeatures]),
    (checkCapabilities_exact hload .cassandra37).1.mp hserved⟩

end Schema

end WideColumn
