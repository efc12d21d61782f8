/-
# What is stored under the rules for types

Some rules ask for a type: a counter counts, and a custom index covers a scalar that its
implementation can search.  They are applied to the DECLARED type of a field.  What the store sees
is the type of its column, and a strategy may change that to text or to a number.

So the rules hold of what is stored for every field whose strategy leaves its type alone.  For the
others they hold exactly if the field does not count, and its index neither refuses the text nor
asks for more than the number (`stored_keeps_rules_iff`).  Nothing makes sure of that:
`overridden_breaks_rules` is a batch that is accepted and stores a counter as a number and gives a
sparse index a column of text.
-/
import WideColumn.Proofs.Schema.View

namespace WideColumn.Schema

variable {d : Declaration} {registry : Registry} {defaults : Defaults} {s : Schema}
  {e : Entity} {f : Field} {t : String}

/-! ## 1. The strategy of a field -/

theorem mem_owned_iff {entities : List Entity} :
    (e, f) ∈ (entities.flatMap fun e => e.fields.map fun f => (e, f)) ↔
      e ∈ entities ∧ f ∈ e.fields := by
  simp only [List.mem_flatMap, List.mem_map, Prod.mk.injEq]
  constructor
  · rintro ⟨e, he, f, hf, rfl, rfl⟩
    exact ⟨he, hf⟩
  · rintro ⟨he, hf⟩
    exact ⟨e, he, f, hf, rfl, rfl⟩

/-- The entries of the table of strategies stand under the names of entities and fields. -/
theorem names_of_codecs (h : load d registry defaults = .ok s) :
    s.codecs.map (·.1) = s.entities.flatMap fun e => e.fields.map fun f => (e.name, f.name) := by
  have hcodecs := (loaded_of_load h).codecs
  rw [resolveAll] at hcodecs
  rw [Except.map_eq_of_mapM (h := fun owned => (owned.1.name, owned.2.name)) ?_ hcodecs,
    List.map_flatMap]
  · simp only [List.map_map, Function.comp_def]
  · intro owned _ entry hentry
    obtain ⟨st, -, rfl⟩ := Except.map_eq_ok_iff.mp hentry
    rfl

/-- Every field has an entry under its names. -/
theorem isSome_codec?_of_load (h : load d registry defaults = .ok s) (he : e ∈ s.entities)
    (hf : f ∈ e.fields) : (s.codec? e f).isSome := by
  have hkey : (e.name, f.name) ∈ s.codecs.map (·.1) := by
    rw [names_of_codecs h]
    exact List.mem_flatMap.mpr ⟨e, he, List.mem_map_of_mem hf⟩
  obtain ⟨entry, hentry, heq⟩ := List.mem_map.mp hkey
  rw [codec?, List.lookup_isSome_iff]
  exact ⟨entry, hentry, by simp [heq]⟩

/-- Every entry was made for a field of its names. -/
theorem exists_of_mem_codecs (h : load d registry defaults = .ok s) {names : String × String}
    {st : Strategy} (hentry : (names, st) ∈ s.codecs) :
    ∃ e ∈ s.entities, ∃ f ∈ e.fields, (e.name, f.name) = names
      ∧ registry.resolve s.userTypes f = .ok st := by
  have hcodecs := (loaded_of_load h).codecs
  rw [resolveAll] at hcodecs
  obtain ⟨⟨e, f⟩, hpair, hmade⟩ := Except.exists_of_mem_mapM hcodecs _ hentry
  obtain ⟨st', hresolved, heq⟩ := Except.map_eq_ok_iff.mp hmade
  cases heq
  obtain ⟨he, hf⟩ := mem_owned_iff.mp hpair
  exact ⟨e, he, f, hf, rfl, hresolved⟩

/-- **Every field of an accepted batch has the strategy that it resolves to.** -/
theorem codec?_of_load (h : load d registry defaults = .ok s) (he : e ∈ s.entities)
    (hf : f ∈ e.fields) :
    ∃ st, s.codec? e f = some st ∧ registry.resolve s.userTypes f = .ok st := by
  obtain ⟨st, hst⟩ := Option.isSome_iff_exists.mp (isSome_codec?_of_load h he hf)
  have hentry : ((e.name, f.name), st) ∈ s.codecs := by
    obtain ⟨front, back, hsplit, -⟩ := List.lookup_eq_some_iff.mp hst
    simp [hsplit]
  obtain ⟨e', he', f', hf', hnames, hresolved⟩ := exists_of_mem_codecs h hentry
  obtain ⟨hename, hfname⟩ := Prod.mk.inj hnames
  -- there is one entity of a name, and in it one field of a name
  obtain rfl : e' = e := by
    have hfirst := entity?_of_load h he'
    rw [hename, entity?_of_load h he] at hfirst
    exact (Option.some.inj hfirst).symm
  obtain rfl : f' = f := List.inj_on_of_nodup_map (nodup_names_of_load h he) hf' hf hfname
  exact ⟨st, hst, hresolved⟩

/-- A strategy that the declaration asks for decides what is stored. -/
theorem columnType_of_overridden (h : load d registry defaults = .ok s) (he : e ∈ s.entities)
    (hf : f ∈ e.fields) (hstored : f.codec.bind Strategy.storedAs = some t) :
    s.columnType e f = t := by
  obtain ⟨st, hst, hresolved⟩ := codec?_of_load h he hf
  obtain ⟨c, hcodec, hc⟩ := Option.bind_eq_some_iff.mp hstored
  rw [Registry.resolve, hcodec] at hresolved
  cases hresolved
  rw [columnType, hst, Option.bind_some, hc, Option.getD_some]

/-- Where it asks for none that does, and no user type is named, the declared type is stored. -/
theorem columnType_of_kept (h : load d registry defaults = .ok s) (he : e ∈ s.entities)
    (hf : f ∈ e.fields) (hkept : f.codec.bind Strategy.storedAs = none)
    (hplain : f.shape.udtName? = none) : s.columnType e f = f.shape.text := by
  obtain ⟨st, hst, hresolved⟩ := codec?_of_load h he hf
  suffices hnone : st.storedAs = none by
    rw [columnType, hst, Option.bind_some, hnone, Option.getD_none]
  rw [Registry.resolve] at hresolved
  cases hcodec : f.codec with
  | some c =>
    rw [hcodec] at hresolved hkept
    cases hresolved
    exact hkept
  | none =>
    rw [hcodec] at hresolved
    cases hnative : nativeType s.userTypes f.shape with
    | ok type =>
      simp only [hnative] at hresolved
      cases hresolved
      rfl
    | error cause => simp [hnative, hplain] at hresolved

/-- What is stored instead of a declared type is text or a number. -/
theorem storedAs_cases {st : Strategy} (h : st.storedAs = some t) : t = "text" ∨ t = "int" := by
  rw [Strategy.storedAs.eq_def] at h
  split at h
  · exact .inl (Option.some.inj h).symm
  · exact .inl (Option.some.inj h).symm
  · exact .inr (Option.some.inj h).symm
  · cases h
  · cases h

/-! ## 2. Custom indexes on text and on numbers -/

namespace IndexImplementation

/-- Whether an index searches inside of text. -/
def asksForText : IndexImplementation → Bool
  | native => false
  | sasi options => options.mode == .contains || options.analyzed
  | search options => options.fullText

/-- Whether an index is one for other things than text. -/
def refusesText : IndexImplementation → Bool
  | sasi options => options.mode == .sparse
  | native | search _ => false

end IndexImplementation

theorem isEligible_text (i : IndexImplementation) : isEligible i .text = !i.refusesText := by
  cases i with
  | native | search =>
    simp [isEligible, isSearchable, Scalar.isText, IndexImplementation.refusesText]
  | sasi options =>
    cases hmode : options.mode <;>
      simp [isEligible, isSearchable, modeFits, Scalar.isText, IndexImplementation.refusesText,
        hmode]

theorem isEligible_int (i : IndexImplementation) : isEligible i .int = !i.asksForText := by
  cases i with
  | native | search =>
    simp [isEligible, isSearchable, Scalar.isText, Scalar.isNumeric,
      IndexImplementation.asksForText]
  | sasi options =>
    cases hmode : options.mode <;>
      simp [isEligible, isSearchable, modeFits, Scalar.isText, Scalar.isNumeric,
        IndexImplementation.asksForText, hmode]

theorem ofName?_name (c : Scalar) : Scalar.ofName? c.name = some c := by
  cases c <;> decide +kernel

/-- An index can search what is stored instead of a declared type exactly if it neither refuses
the text nor asks for more than the number. -/
theorem searched_iff (i : IndexImplementation) (ht : t = "text" ∨ t = "int") :
    (i.isNative = false → (Scalar.ofName? t).any (isEligible i) = true) ↔
      (t = "text" → i.refusesText = false) ∧ (t = "int" → i.asksForText = false) := by
  have hnative : ∀ c, (i.isNative = false → isEligible i c = true) ↔ isEligible i c = true := by
    intro c
    cases i <;> simp [IndexImplementation.isNative, isEligible]
  rcases ht with rfl | rfl
  · rw [show Scalar.ofName? "text" = some .text from ofName?_name .text, Option.any_some, hnative,
      isEligible_text]
    simp
  · rw [show Scalar.ofName? "int" = some .int from ofName?_name .int, Option.any_some, hnative,
      isEligible_int]
    simp

/-- **A custom index of an accepted batch covers a scalar that it can search**, as declared. -/
theorem scalar?_of_load (h : load d registry defaults = .ok s) (he : e ∈ s.entities)
    (hf : f ∈ e.fields) {i : Index} (hi : i ∈ f.indexes)
    (hcustom : i.implementation.isNative = false) :
    ∃ c, f.shape.scalar? = some c ∧ isEligible i.implementation c = true := by
  have hserved := (faults_of_index h he hf hi).2
  simp only [implementationFaults, hcustom, Bool.false_or, ite_eq_left_iff, reduceCtorEq, imp_false,
    Decidable.not_not, Option.any_eq_true] at hserved
  obtain ⟨c, hcovered, heligible⟩ := hserved
  refine ⟨c, ?_, heligible⟩
  rw [indexedScalar?.eq_def] at hcovered
  split at hcovered
  · exact hcovered
  · cases hcovered

/-! ## 3. The rules, of what is stored -/

/-- **The rules for types hold of the stored column of a field**: it is a counter if the field
counts, and every custom index can search the scalar that it is. -/
structure KeepsRules (s : Schema) (e : Entity) (f : Field) : Prop where
  counts : f.role.isCounter = true → s.columnType e f = "counter"
  searched : ∀ i ∈ f.indexes, i.implementation.isNative = false →
    (Scalar.ofName? (s.columnType e f)).any (isEligible i.implementation) = true

/-- Decided by going through the indexes. -/
instance (s : Schema) (e : Entity) (f : Field) : Decidable (KeepsRules s e f) :=
  decidable_of_iff ((f.role.isCounter = true → s.columnType e f = "counter")
      ∧ ∀ i ∈ f.indexes, i.implementation.isNative = false →
        (Scalar.ofName? (s.columnType e f)).any (isEligible i.implementation) = true)
    ⟨fun ⟨hcounts, hsearched⟩ => ⟨hcounts, hsearched⟩,
      fun ⟨hcounts, hsearched⟩ => ⟨hcounts, hsearched⟩⟩

theorem isCounter_of_declaredRole {df : Declaration.Field} {isCounter : Bool}
    (h : (declaredRole df isCounter).isCounter = true) : isCounter = true := by
  cases isCounter with
  | true => rfl
  | false =>
    rw [declaredRole.eq_def] at h
    split at h
    · cases h
    · cases h
    · cases h
    · cases hstatic : df.isStatic <;> rw [hstatic] at h <;> cases h

/-- A field of an accepted batch that counts is declared as a counter. -/
theorem isCounter_of_load (h : load d registry defaults = .ok s) (he : e ∈ s.entities)
    (hf : f ∈ e.fields) (hcounts : f.role.isCounter = true) : f.shape.isCounter = true := by
  obtain ⟨de, -, -, hfields⟩ := declared_of_load h he
  obtain ⟨df, -, hkept⟩ := hfields f hf
  rw [hkept.role] at hcounts
  exact isCounter_of_declaredRole hcounts

/-- A declared type that is stored keeps the rules. -/
theorem keepsRules_of_kept (h : load d registry defaults = .ok s) (he : e ∈ s.entities)
    (hf : f ∈ e.fields) (hkept : f.codec.bind Strategy.storedAs = none) : KeepsRules s e f := by
  have htype := columnType_of_kept h he hf hkept
  refine ⟨fun hcounts => ?_, fun i hi hcustom => ?_⟩
  · have hshape := isCounter_of_load h he hf hcounts
    cases hf : f.shape with
    | counter place => rw [htype (by rw [hf]; rfl), hf]; rfl
    | _ => rw [hf] at hshape; cases hshape
  · obtain ⟨c, hc, heligible⟩ := scalar?_of_load h he hf hi hcustom
    cases hf : f.shape with
    | scalar place c' =>
      rw [hf] at hc
      cases hc
      rw [htype (by rw [hf]; rfl), hf]
      rw [Shape.text, Shape.textIn, ofName?_name, Option.any_some, heligible]
    | _ => rw [hf] at hc; cases hc

/-- **When the rules hold of what is stored.**  They hold of a field of an accepted batch exactly
if, where its strategy stores text or a number instead of the declared type, it does not count, an
index on the text is not one for other things, and an index on the number does not search inside
of text. -/
theorem stored_keeps_rules_iff (h : load d registry defaults = .ok s) (he : e ∈ s.entities)
    (hf : f ∈ e.fields) :
    KeepsRules s e f ↔ ∀ t, f.codec.bind Strategy.storedAs = some t →
      f.role.isCounter = false ∧ ∀ i ∈ f.indexes,
        (t = "text" → i.implementation.refusesText = false)
          ∧ (t = "int" → i.implementation.asksForText = false) := by
  cases hstored : f.codec.bind Strategy.storedAs with
  | none => simp [keepsRules_of_kept h he hf hstored]
  | some t =>
    have htype := columnType_of_overridden h he hf hstored
    obtain ⟨st, -, hst⟩ := Option.bind_eq_some_iff.mp hstored
    have hserved := fun i => searched_iff i (storedAs_cases hst)
    constructor
    · rintro ⟨hcounts, hsearched⟩ _ ⟨⟩
      refine ⟨?_, fun i hi => (hserved _).mp (htype ▸ hsearched i hi)⟩
      by_contra hcount
      rw [htype] at hcounts
      rcases storedAs_cases hst with rfl | rfl <;> simp [hcount] at hcounts
    · intro hrules
      obtain ⟨hcounts, hsearched⟩ := hrules t rfl
      refine ⟨fun hcount => ?_, fun i hi => ?_⟩
      · rw [hcounts] at hcount
        cases hcount
      · rw [htype]
        exact (hserved _).mpr (hsearched i hi)

/-- Pages whose counter is kept as a number, and readings whose indexed value is kept as text and
whose indexed level is kept as a number. -/
def overriddenColumns : Declaration where
  entities := [
    { name := "Page"
      fields := [
        (Declaration.Field.typed "id" "bigint").inPartition 0,
        (Declaration.Field.typed "hits" "counter").asEnumerated "crate::Hits" .ordinal] },
    { name := "Reading"
      fields := [
        (Declaration.Field.typed "sensor" "bigint").inPartition 0,
        ((Declaration.Field.typed "value" "int").asJson "crate::Value").withIndex
          (.ofSasi (.ofMode .sparse)),
        ((Declaration.Field.typed "level" "text").asEnumerated "crate::Level" .ordinal).withIndex
          (.ofSasi (.ofMode .prefixes))] }]

theorem stored_keeps_rules_iff_level :
    ∃ s e f, load overriddenColumns {} {} = .ok s ∧ e ∈ s.entities ∧ f ∈ e.fields
      ∧ f.name = "level" ∧ s.columnType e f = "int" ∧ KeepsRules s e f := by
  have hready : ((load overriddenColumns {} {}).toOption.bind fun s => s.entities[1]?.bind fun e =>
      e.fields[2]?.map fun f => (f.name, s.columnType e f, f.codec, f.role.isCounter,
        f.indexes.all fun i => !i.implementation.asksForText)) =
      some ("level", "int", some (.enumerated "crate::Level" .ordinal), false, true) := by
    decide +kernel
  simp only [Option.bind_eq_some_iff, Option.map_eq_some_iff, Except.toOption_eq_some_iff,
    Prod.mk.injEq, List.all_eq_true, Bool.not_eq_true'] at hready
  obtain ⟨s, hload, e, he, f, hf, hname, htype, hcodec, hcounts, hasks⟩ := hready
  have hentity := List.mem_of_getElem? he
  have hfield := List.mem_of_getElem? hf
  refine ⟨s, e, f, hload, hentity, hfield, hname, htype, ?_⟩
  refine (stored_keeps_rules_iff hload hentity hfield).mpr ?_
  rw [hcodec]
  rintro _ ⟨⟩
  exact ⟨hcounts, fun i hi => ⟨by simp, fun _ => hasks i hi⟩⟩

/-- **Not every stored column keeps the rules for types.**  A counter that is stored as a number,
and a sparse index on a column of text, are accepted. -/
theorem overridden_breaks_rules :
    ∃ s, load overriddenColumns {} {} = .ok s
      ∧ (∃ e ∈ s.entities, ∃ f ∈ e.fields, f.role = .counter ∧ s.columnType e f = "int"
          ∧ ¬KeepsRules s e f)
      ∧ ∃ e ∈ s.entities, ∃ f ∈ e.fields, f.indexes.any (·.implementation.refusesText) = true
          ∧ s.columnType e f = "text" ∧ ¬KeepsRules s e f := by
  have hready : ((load overriddenColumns {} {}).toOption.map fun s =>
      decide ((∃ e ∈ s.entities, ∃ f ∈ e.fields, f.role = .counter ∧ s.columnType e f = "int"
          ∧ ¬KeepsRules s e f)
        ∧ ∃ e ∈ s.entities, ∃ f ∈ e.fields, f.indexes.any (·.implementation.refusesText) = true
          ∧ s.columnType e f = "text" ∧ ¬KeepsRules s e f)) = some true := by decide +kernel
  simp only [Option.map_eq_some_iff, Except.toOption_eq_some_iff, decide_eq_true_eq] at hready
  exact hready

end WideColumn.Schema
