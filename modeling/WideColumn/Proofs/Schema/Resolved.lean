/-
# Every type of an accepted batch resolves

The rules look at codecs on a path of their own: user types that nobody declared come first, and a
lone type that is kept as JSON text is let through.  At the end of loading every field is resolved
once more, and that could still fail.  It does not: a field on which no codec is missing resolves
(`resolve_of_codecFaults`), so a batch on which nothing is reported is always accepted
(`load_of_unreported`), every field has the strategy that it resolves to, under a pair of names
that no other field has, and all that user types and functions are made of has a built-in type.
-/
import WideColumn.Proofs.Schema.Stored

namespace WideColumn.Schema

variable {d : Declaration} {registry : Registry} {defaults : Defaults} {s : Schema}
  {types : List UserType}

/-! ## 1. What is reported -/

/-- What is made of a batch, and what is found on the parts that could not be made. -/
structure Extraction where
  found : List Finding
  userTypes : List UserType
  entities : List Entity
  functions : List Function

/-- Reads the declarations of a batch. -/
def extraction (d : Declaration) (defaults : Defaults) : Extraction :=
  let (typeFaults, types) := collect (·.name)
    (UserType.ofDeclaration defaults d.userTypes) d.userTypes
  let (entityFaults, entities) := collect (·.name) (Entity.ofDeclaration defaults types) d.entities
  let (functionFaults, functions) := collect (·.name)
    (Function.ofDeclaration defaults types) d.functions
  ⟨typeFaults ++ entityFaults ++ functionFaults.map (.under "function"), types, entities,
    functions⟩

/-- What the rules find on all that is examined of a batch. -/
def validation (d : Declaration) (registry : Registry) (defaults : Defaults) : List Finding :=
  let x := extraction d defaults
  findings (examined d.entities x.entities defaults x.userTypes) x.userTypes x.functions registry

/-- Loading reads, examines and, if nothing was reported, resolves. -/
theorem load_eq (d : Declaration) (registry : Registry) (defaults : Defaults) :
    load d registry defaults =
      let x := extraction d defaults
      let reported := x.found ++ validation d registry defaults
      if reported.isEmpty then
        match resolveAll registry x.userTypes x.entities with
        | .ok codecs => .ok ⟨x.entities, x.userTypes, x.functions, codecs⟩
        | .error e => .error (.ofFindings [.here (.resolve e)])
      else .error (.ofFindings reported) := rfl

/-- Where all was read, all is examined. -/
theorem validation_eq (hread : (extraction d defaults).found = []) :
    validation d registry defaults =
      findings (extraction d defaults).entities (extraction d defaults).userTypes
        (extraction d defaults).functions registry := by
  simp only [extraction, List.append_eq_nil_iff] at hread
  rw [validation]
  refine congrArg (findings · _ _ _) (examined_of_made _ ?_)
  exact made_of_collect (Entity.ofDeclaration_ne_error_nil _ _) hread.1.2

/-! ## 2. What resolves -/

/-- A field on which no codec is missing resolves. -/
theorem resolve_of_codecFaults {f : Field} (h : codecFaults types registry f = []) :
    ∃ st, registry.resolve types f = .ok st := by
  rw [codecFaults] at h
  split at h
  · rename_i hunknown
    simp only [List.map_eq_nil_iff] at h
    simp [h] at hunknown
  · cases hresolve : registry.resolve types f with
    | ok st => exact ⟨st, rfl⟩
    | error e => simp [hresolve] at h

/-- A shape whose types are all in order inside a user type has a built-in type. -/
theorem nativeType_of_typeFieldTypeFaults {shape : Shape}
    (h : typeFieldTypeFaults types shape = []) : ∃ t, nativeType types shape = .ok t := by
  rw [typeFieldTypeFaults] at h
  split at h
  · cases hnative : nativeType types shape with
    | ok t => exact ⟨t, rfl⟩
    | error e => simp [hnative] at h
  · rename_i hunknown
    exact absurd (List.map_eq_nil_iff.mp h) hunknown

/-- A function whose types are all in order takes and returns built-in types. -/
theorem nativeType_of_functionTypeFaults {f : Function} (h : functionTypeFaults types f = []) :
    ∀ shape ∈ f.parameters.map (·.2) ++ [f.returns], ∃ t, nativeType types shape = .ok t := by
  intro shape hshape
  rw [functionTypeFaults, List.map_eq_nil_iff, List.filter_eq_nil_iff] at h
  have hsome : (nativeType types shape).toOption.isSome := by
    simpa [Option.isNone_iff_eq_none, Option.isSome_iff_ne_none] using h shape hshape
  obtain ⟨t, ht⟩ := Option.isSome_iff_exists.mp hsome
  exact ⟨t, Except.toOption_eq_some_iff.mp ht⟩

theorem functionTypeFaults_of_functionFindings {functions : List Function} {seen : List String}
    (h : functionFindings types seen functions = []) :
    ∀ f ∈ functions, functionTypeFaults types f = [] := by
  induction functions generalizing seen with
  | nil => simp
  | cons f fs ih =>
    simp only [functionFindings, List.append_eq_nil_iff, List.map_eq_nil_iff] at h
    exact List.forall_mem_cons.mpr ⟨h.1.2, ih h.2⟩

/-- **All the types that a batch is made of resolve.** -/
structure Resolvable (registry : Registry) (entities : List Entity) (types : List UserType)
    (functions : List Function) : Prop where
  fields : ∀ e ∈ entities, ∀ f ∈ e.fields, ∃ st, registry.resolve types f = .ok st
  typeFields : ∀ u ∈ types, ∀ f ∈ u.fields, ∃ t, nativeType types f.shape = .ok t
  functions : ∀ f ∈ functions, ∀ shape ∈ f.parameters.map (·.2) ++ [f.returns],
    ∃ t, nativeType types shape = .ok t

theorem resolvable_of_findings {entities : List Entity} {functions : List Function}
    (h : findings entities types functions registry = []) :
    Resolvable registry entities types functions := by
  have hrules := findings_eq_nil_iff.mp h
  constructor
  · intro e he f hf
    exact resolve_of_codecFaults ((hrules.ofEntities e he).codecs f hf)
  · intro u hu f hf
    exact nativeType_of_typeFieldTypeFaults ((hrules.ofUserTypes u hu).fieldTypes f hf)
  · intro f hf
    exact nativeType_of_functionTypeFaults
      (functionTypeFaults_of_functionFindings hrules.ofFunctions f hf)

/-! ## 3. The table of strategies -/

/-- Where every field resolves, the table is made. -/
theorem resolveAll_of_resolvable {entities : List Entity} {functions : List Function}
    (h : Resolvable registry entities types functions) :
    ∃ codecs, resolveAll registry types entities = .ok codecs := by
  refine Except.exists_mapM_eq_ok ?_
  rintro ⟨e, f⟩ howned
  obtain ⟨he, hf⟩ := mem_owned_iff.mp howned
  obtain ⟨st, hst⟩ := h.fields e he f hf
  exact ⟨((e.name, f.name), st), Except.map_eq_ok_iff.mpr ⟨st, hst, rfl⟩⟩

/-- **No entry of the table stands under the names of another one.** -/
theorem nodup_codecs_of_load (h : load d registry defaults = .ok s) :
    (s.codecs.map (·.1)).Nodup := by
  rw [names_of_codecs h, List.nodup_flatMap]
  constructor
  · intro e he
    rw [show (fun f : Field => (e.name, f.name)) = Prod.mk e.name ∘ (·.name) from rfl,
      ← List.map_map]
    exact (nodup_names_of_load h he).map fun _ _ heq => (Prod.mk.inj heq).2
  · have hnames := (List.nodup_append.mp (nodup_allNames_of_load h)).1
    refine (List.pairwise_map.mp hnames).imp ?_
    intro e e' hne names hmem hmem'
    obtain ⟨f, -, rfl⟩ := List.mem_map.mp hmem
    obtain ⟨f', -, heq⟩ := List.mem_map.mp hmem'
    exact hne (congrArg Prod.fst heq).symm

/-- A batch on which nothing is reported is accepted as it was read. -/
theorem load_of_unreported (hread : (extraction d defaults).found = [])
    (hvalid : validation d registry defaults = []) :
    ∃ s, load d registry defaults = .ok s ∧ s.entities = (extraction d defaults).entities
      ∧ s.userTypes = (extraction d defaults).userTypes
      ∧ s.functions = (extraction d defaults).functions := by
  obtain ⟨codecs, hcodecs⟩ :=
    resolveAll_of_resolvable (resolvable_of_findings (validation_eq hread ▸ hvalid))
  refine ⟨⟨_, _, _, codecs⟩, ?_, rfl, rfl, rfl⟩
  rw [load_eq]
  simp only [hread, hvalid, List.append_nil, List.isEmpty_nil, if_true, hcodecs]

/-- All the types of an accepted batch resolve. -/
theorem resolvable_of_load (h : load d registry defaults = .ok s) :
    Resolvable registry s.entities s.userTypes s.functions :=
  resolvable_of_findings (findings_of_load h)

/-- **Resolution is total where nothing is reported.**  If neither reading a batch nor the rules
report anything, the last resolution cannot fail, so the batch is accepted as it was read.  Each
field of its schema has the strategy that it resolves to, no entry of the table replaces another,
and every field of a user type and every type that a function takes or returns has a built-in
type. -/
theorem resolution_total (hread : (extraction d defaults).found = [])
    (hvalid : validation d registry defaults = []) :
    ∃ s, load d registry defaults = .ok s
      ∧ s.entities = (extraction d defaults).entities
      ∧ resolveAll registry s.userTypes s.entities = .ok s.codecs
      ∧ (s.codecs.map (·.1)).Nodup
      ∧ (∀ e ∈ s.entities, ∀ f ∈ e.fields, ∃ st, registry.resolve s.userTypes f = .ok st
        ∧ s.codec? e f = some st)
      ∧ (∀ u ∈ s.userTypes, ∀ f ∈ u.fields, ∃ t, nativeType s.userTypes f.shape = .ok t)
      ∧ ∀ f ∈ s.functions, (∀ p ∈ f.parameters, ∃ t, nativeType s.userTypes p.2 = .ok t)
        ∧ ∃ t, nativeType s.userTypes f.returns = .ok t := by
  obtain ⟨s, hload, hentities, -⟩ := load_of_unreported hread hvalid
  have hresolve := resolvable_of_load hload
  refine ⟨s, hload, hentities, (loaded_of_load hload).codecs, nodup_codecs_of_load hload, ?_,
    hresolve.typeFields, ?_⟩
  · intro e he f hf
    obtain ⟨st, hst, hresolved⟩ := codec?_of_load hload he hf
    exact ⟨st, hresolved, hst⟩
  · intro f hf
    have hshapes := hresolve.functions f hf
    refine ⟨fun p hp => ?_, ?_⟩
    · exact hshapes p.2 (List.mem_append_left _ (List.mem_map_of_mem hp))
    · exact hshapes f.returns (List.mem_append_right _ List.mem_cons_self)

/-- Members with an address of a declared type and settings of a type that is only registered. -/
def memberRecords : Declaration where
  userTypes := [
    { name := "Address"
      fields := [⟨"street", "text", none⟩, ⟨"lines", "frozen<list<int>>", none⟩] }]
  entities := [
    { name := "Member"
      fields := [
        (Declaration.Field.typed "id" "bigint").inPartition 0,
        Declaration.Field.typed "home" "frozen<Address>",
        Declaration.Field.typed "settings" "frozen<Settings>",
        (Declaration.Field.typed "level" "varint").withCodec "crate::Level" "u8"] }]
  functions := [{ name := "weigh", parameters := [⟨"home", "frozen<Address>"⟩], returns := "int" }]

/-- The application type of the settings. -/
def memberTypes : Registry := .ofTypes [("Settings", "crate::Settings")]

theorem resolution_total_members :
    ∃ s, load memberRecords memberTypes {} = .ok s
      ∧ resolveAll memberTypes s.userTypes s.entities = .ok s.codecs
      ∧ (s.codecs.map (·.1)).Nodup
      ∧ ∃ e ∈ s.entities, ∃ f ∈ e.fields, f.name = "settings"
        ∧ s.codec? e f = some (.json "crate::Settings") := by
  have hread : (extraction memberRecords {}).found = [] := by decide +kernel
  have hvalid : validation memberRecords memberTypes {} = [] := by decide +kernel
  have hready : ((load memberRecords memberTypes {}).toOption.bind fun s => s.entities[0]?.bind
      fun e => e.fields[2]?.map fun f => (f.name, s.codec? e f)) =
      some ("settings", some (.json "crate::Settings")) := by decide +kernel
  obtain ⟨s, hload, -, htable, hnodup, -⟩ := resolution_total hread hvalid
  rw [hload] at hready
  simp only [Except.toOption, Option.bind_some, Option.bind_eq_some_iff, Option.map_eq_some_iff,
    Prod.mk.injEq] at hready
  obtain ⟨e, he, f, hf, hname, hcodec⟩ := hready
  exact ⟨s, hload, htable, hnodup, e, List.mem_of_getElem? he, f, List.mem_of_getElem? hf, hname,
    hcodec⟩

end WideColumn.Schema
