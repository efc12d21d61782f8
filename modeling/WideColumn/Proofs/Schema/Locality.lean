/-
# What is reported of an entity depends on the entity alone

A batch is read and examined as a whole, and all that is wrong with it goes into one tree.  Still,
what comes to stand under the name of an entity depends on little: on its own declaration, on that
of its base if it is a view, and on the user types of the batch.  It is `entityReport`, which knows
of nothing else (`flattenUnder_reported`).

Names have to be apart for this, since they are the routes of the tree, and none may be the route of
the functions.  The base has to be a table: one that is itself a view may be left out of what is
examined because of ITS base, and would then be missing.

So whatever else two batches declare, and in whatever order, they report the same of an entity that
they share (`reported_alike`).
-/
import WideColumn.Proofs.Schema.ErrorTree
import WideColumn.Proofs.Schema.Resolved

namespace WideColumn

namespace Declaration

/-- The names of entities and user types. -/
def names (d : Declaration) : List String :=
  d.entities.map (·.name) ++ d.userTypes.map (·.name)

/-- **Entities and user types have names of their own**, none of them the route of functions. -/
structure NamesApart (d : Declaration) : Prop where
  nodup : d.names.Nodup
  free : "function" ∉ d.names

namespace NamesApart

variable {d : Declaration} {e : Entity}

theorem nodup_entities (h : d.NamesApart) : (d.entities.map (·.name)).Nodup :=
  (List.nodup_append.mp h.nodup).1

theorem function_ne (h : d.NamesApart) (he : e ∈ d.entities) : "function" ≠ e.name := by
  intro heq
  exact h.free (heq ▸ List.mem_append_left _ (List.mem_map_of_mem he))

theorem name_notMem_userTypes (h : d.NamesApart) (he : e ∈ d.entities) :
    e.name ∉ d.userTypes.map (·.name) := by
  intro hmem
  exact (List.nodup_append.mp h.nodup).2.2 _ (List.mem_map_of_mem he) _ hmem rfl

end NamesApart

/-- The declaration of the base of an entity. -/
def base? (d : Declaration) (e : Entity) : Option Entity :=
  e.viewOf.bind fun base => d.entities.find? (·.name == base)

end Declaration

namespace Schema

variable {d d₁ d₂ : Declaration} {registry : Registry} {defaults : Defaults}
  {types : List UserType} {e b : Declaration.Entity} {route r : String} {fs gs : List Finding}

/-! ## 1. Findings under a route -/

theorem below_append : below route (fs ++ gs) = below route fs ++ below route gs :=
  List.filterMap_append

theorem below_map_here {vs : List Violation} : below route (vs.map .here) = [] := by
  simp [below, Finding.below?, Finding.here]

theorem below_map_under : below route (fs.map (.under r)) = if r = route then fs else [] := by
  by_cases hr : r = route <;> simp [below, List.filterMap_map, Finding.below?, Finding.under,
    Function.comp_def, hr]

/-- Of findings that are put under the names of what they are about, those about a name. -/
theorem below_flatMap_under {α : Type} (name : α → String) (found : α → List Finding)
    (as : List α) :
    below route (as.flatMap fun a => (found a).map (.under (name a))) =
      (as.filter (name · == route)).flatMap found := by
  induction as with
  | nil => rfl
  | cons a as ih =>
    rw [List.flatMap_cons, below_append, below_map_under, ih, List.filter_cons]
    by_cases hr : name a = route <;> simp [hr]

/-! ## 2. Items of a name -/

section
variable {α β : Type} {name : α → String} {make : α → Checked β}

/-- Where names differ, there is at most one item of a name. -/
theorem filter_eq_find? {as : List α} (h : (as.map name).Nodup) (n : String) :
    as.filter (name · == n) = (as.find? (name · == n)).toList := by
  induction as with
  | nil => rfl
  | cons a as ih =>
    obtain ⟨hnew, hrest⟩ := List.nodup_cons.mp h
    by_cases hn : name a = n
    · have hnone : as.filter (name · == n) = [] := by
        refine List.filter_eq_nil_iff.mpr fun a' ha' heq => hnew ?_
        exact List.mem_map.mpr ⟨a', ha', (beq_iff_eq.mp heq).trans hn.symm⟩
      simp [hn, hnone]
    · have hne : (name a == n) = false := beq_eq_false_iff_ne.mpr hn
      simp [hne, ih hrest]

/-- What keeps an item from being made. -/
def Checked.found (x : Checked β) : List Finding :=
  match x with
  | .ok _ => []
  | .error fs => fs

theorem collect_eq (as : List α) :
    collect name make as = (as.flatMap fun a => (make a).found.map (.under (name a)),
      as.filterMap fun a => (make a).toOption) := by
  induction as with
  | nil => rfl
  | cons a as ih =>
    rw [collect, ih]
    cases hmake : make a <;> simp [Checked.found, Except.toOption, hmake]

/-- What keeps a whole from being made is what was found on its parts. -/
theorem found_bind_collectAll {γ : Type} (as : List α) (whole : List β → γ) :
    Checked.found (do return whole (← collectAll name make as)) = (collect name make as).1 := by
  rw [collectAll]
  split
  · rename_i hcollect
    rw [hcollect]
    rfl
  · rename_i hcollect
    rw [hcollect]
    rfl

@[simp] theorem found_map {γ : Type} (x : Checked α) (f : α → γ) :
    Checked.found (x.map f) = x.found := by
  cases x <;> rfl

/-- What keeps a function from being made is what was found on its parameters and its result. -/
theorem found_function (defaults : Defaults) (types : List UserType) (f : Declaration.Function) :
    (Function.ofDeclaration defaults types f).found =
      (f.parameters.flatMap fun p =>
        (plainShape (typeNames types) p.type).found.map (.under p.name))
        ++ (plainShape (typeNames types) f.returns).found.map (.under "returns") := by
  have hparameters : (collect (·.name) (fun p : Declaration.Parameter =>
      (plainShape (typeNames types) p.type).map fun s => (p.name, s)) f.parameters).1 =
        f.parameters.flatMap fun p =>
          (plainShape (typeNames types) p.type).found.map (.under p.name) := by
    simp only [collect_eq, found_map]
  rw [← hparameters, Function.ofDeclaration]
  dsimp only
  split
  · rename_i hfound hreturns
    rw [hfound, hreturns]
    rfl
  · rename_i hreturns _
    rw [hreturns]
    exact (List.append_nil _).symm
  · rename_i hreturns
    rw [hreturns]
    rfl

/-- Making keeps names, so what is made of a name is made of the item of the name. -/
theorem filter_made {as : List α} {nameMade : β → String}
    (hname : ∀ a b, make a = .ok b → nameMade b = name a) (n : String) :
    (as.filterMap fun a => (make a).toOption).filter (nameMade · == n) =
      (as.filter (name · == n)).filterMap fun a => (make a).toOption := by
  rw [List.filter_filterMap, List.filterMap_filter]
  refine List.filterMap_congr fun a _ => ?_
  cases hmake : make a with
  | error found => simp [Except.toOption]
  | ok b => simp [Except.toOption, Option.filter, hname a b hmake]

end

/-! ## 3. The report of an entity -/

/-- **What is reported of an entity**, given the declaration of its base: what keeps it from being
made, or else what the rules say of it.  Over a base that could not be made it is not examined. -/
def entityReport (registry : Registry) (defaults : Defaults) (types : List UserType)
    (base : Option Declaration.Entity) (e : Declaration.Entity) : List Finding :=
  match Entity.ofDeclaration defaults types e, base.map (Entity.ofDeclaration defaults types) with
  | .error found, _ => found
  | .ok _, some (.error _) => []
  | .ok m, some (.ok b) => entityFindings types registry m ++ viewFindings m (some b)
  | .ok m, none => entityFindings types registry m ++ viewFindings m none

/-- An entity is made under its name and with its base. -/
theorem Entity.names_of_ofDeclaration {m : Entity}
    (h : Entity.ofDeclaration defaults types e = .ok m) :
    m.name = e.name ∧ m.viewOf = e.viewOf := by
  obtain ⟨fields, -, rfl⟩ := Entity.eq_of_ofDeclaration h
  exact ⟨rfl, rfl⟩

/-- Whether an entity is a view of a base that could not be made. -/
def isOverUnmade (d : Declaration) (defaults : Defaults) (types : List UserType) (m : Entity) :
    Bool :=
  m.viewOf.any fun base => (d.entities.find? (·.name == base)).any fun b =>
    (Entity.ofDeclaration defaults types b).toOption.isNone

theorem examined_eq (h : (d.entities.map (·.name)).Nodup) (made : List Entity) :
    examined d.entities made defaults types =
      made.filter fun m => !isOverUnmade d defaults types m := by
  have hunmade : ∀ base : String,
      ((d.entities.filter fun b => (Entity.ofDeclaration defaults types b).toOption.isNone).any
        (·.name == base)) = (d.entities.find? (·.name == base)).any fun b =>
          (Entity.ofDeclaration defaults types b).toOption.isNone := by
    intro base
    have hcomm : ∀ b : Declaration.Entity,
        ((Entity.ofDeclaration defaults types b).toOption.isNone && b.name == base) =
          (b.name == base && (Entity.ofDeclaration defaults types b).toOption.isNone) :=
      fun b => Bool.and_comm _ _
    simp only [List.any_filter, hcomm]
    rw [← List.any_filter, filter_eq_find? h]
    cases d.entities.find? (·.name == base) <;> simp
  simp only [examined, isOverUnmade, hunmade]

/-- The entities that are examined of a batch. -/
def examinedOf (d : Declaration) (defaults : Defaults) : List Entity :=
  let x := extraction d defaults
  examined d.entities x.entities defaults x.userTypes

/-- What is made of a declared entity and examined. -/
def examinedOf? (d : Declaration) (defaults : Defaults) (e : Declaration.Entity) : Option Entity :=
  let types := (extraction d defaults).userTypes
  (Entity.ofDeclaration defaults types e).toOption.filter fun m =>
    !isOverUnmade d defaults types m

/-- The entity of a name among those that are examined. -/
theorem filter_examinedOf (h : (d.entities.map (·.name)).Nodup) (n : String) :
    (examinedOf d defaults).filter (·.name == n) =
      ((d.entities.find? (·.name == n)).bind (examinedOf? d defaults)).toList := by
  have hmade : (extraction d defaults).entities = d.entities.filterMap fun e =>
      (Entity.ofDeclaration defaults (extraction d defaults).userTypes e).toOption := by
    simp only [extraction, collect_eq]
  rw [examinedOf, hmade, examined_eq h, List.filter_comm,
    filter_made fun _ _ hmake => (Entity.names_of_ofDeclaration hmake).1, filter_eq_find? h]
  cases d.entities.find? (·.name == n) with
  | none => rfl
  | some e =>
    simp only [Option.toList_some, List.filterMap_cons, List.filterMap_nil, Option.bind_some,
      examinedOf?]
    cases (Entity.ofDeclaration defaults (extraction d defaults).userTypes e).toOption with
    | none => rfl
    | some m =>
      cases hover : isOverUnmade d defaults (extraction d defaults).userTypes m <;>
        simp [Option.filter, hover]

theorem lastEntity?_of_filter {m? : Option Entity} {entities : List Entity} {n : String}
    (h : entities.filter (·.name == n) = m?.toList) : lastEntity? entities n = m? := by
  rw [lastEntity?, ← List.head?_filter, List.filter_reverse, h]
  cases m? <;> rfl

/-- Of what is found on a batch, that on the one entity of a name. -/
theorem below_findings {entities : List Entity} {functions : List Function} {m? : Option Entity}
    (htypes : route ∉ types.map (·.name)) (hfree : "function" ≠ route)
    (hone : entities.filter (·.name == route) = m?.toList) :
    below route (findings entities types functions registry) =
      m?.toList.flatMap (viewAndEntityFindings entities types registry) := by
  have hnone : types.filter (·.name == route) = [] := by
    refine List.filter_eq_nil_iff.mpr fun u hu heq => htypes ?_
    exact List.mem_map.mpr ⟨u, hu, beq_iff_eq.mp heq⟩
  have hshared : ∀ names : List String, below route
      (names.map fun name => Finding.here (.duplicateEntity name)) = [] := by
    intro names
    simp [below, Finding.below?, Finding.here]
  have hpart : ∀ q : Entity → Bool,
      (entities.filter q).filter (·.name == route) = m?.toList.filter q := by
    intro q
    rw [List.filter_comm, hone]
  simp only [findings, below_append, below_flatMap_under, below_map_here, below_map_under, hshared,
    if_neg hfree, hnone, hpart, List.flatMap_nil, List.append_nil, List.nil_append]
  cases m? with
  | none => rfl
  | some m =>
    cases hview : m.viewOf with
    | none => simp [Entity.isView, hview, viewAndEntityFindings, viewFindings]
    | some base => simp [Entity.isView, hview]

section
variable (h : d.NamesApart) (he : e ∈ d.entities)

include h he

/-- Of what is found while a batch is read, that on an entity. -/
theorem below_found : below e.name (extraction d defaults).found =
    (Entity.ofDeclaration defaults (extraction d defaults).userTypes e).found := by
  have hnodup := h.nodup_entities
  have hnone : d.userTypes.filter (·.name == e.name) = [] := by
    refine List.filter_eq_nil_iff.mpr fun u hu heq => h.name_notMem_userTypes he ?_
    exact List.mem_map.mpr ⟨u, hu, beq_iff_eq.mp heq⟩
  simp only [extraction, collect_eq, below_append, below_flatMap_under, below_map_under,
    if_neg (h.function_ne he), hnone, filter_eq_find? hnodup, find?_of_nodup hnodup he,
    List.flatMap_nil, List.nil_append, List.append_nil, Option.toList_some, List.flatMap_singleton]

/-- Of what the rules find on a batch, that on an entity. -/
theorem below_validation : below e.name (validation d registry defaults) =
    (examinedOf? d defaults e).toList.flatMap (viewAndEntityFindings (examinedOf d defaults)
      (extraction d defaults).userTypes registry) := by
  refine below_findings ?_ (h.function_ne he) ?_
  · intro hmem
    obtain ⟨u, hu, hname⟩ := List.mem_map.mp hmem
    obtain ⟨du, hdu, hmake⟩ := exists_of_mem_collect u hu
    obtain ⟨fields, -, rfl⟩ := UserType.eq_of_ofDeclaration hmake
    exact h.name_notMem_userTypes he (List.mem_map.mpr ⟨du, hdu, hname⟩)
  · exact (filter_examinedOf h.nodup_entities e.name).trans
      (by rw [find?_of_nodup h.nodup_entities he, Option.bind_some])

/-- **What is found under the name of an entity is its report.** -/
theorem below_reported (htable : ∀ b, d.base? e = some b → b.viewOf = none) :
    below e.name ((extraction d defaults).found ++ validation d registry defaults) =
      entityReport registry defaults (extraction d defaults).userTypes (d.base? e) e := by
  rw [below_append, below_found h he, below_validation h he, entityReport, examinedOf?]
  cases hmake : Entity.ofDeclaration defaults (extraction d defaults).userTypes e with
  | error found => simp [Checked.found, Except.toOption]
  | ok m =>
    have hview : m.viewOf = e.viewOf := (Entity.names_of_ofDeclaration hmake).2
    have hlast : ∀ base, lastEntity? (examinedOf d defaults) base =
        (d.entities.find? (·.name == base)).bind (examinedOf? d defaults) :=
      fun base => lastEntity?_of_filter (filter_examinedOf h.nodup_entities base)
    rw [Declaration.base?] at htable ⊢
    cases hbase : e.viewOf with
    | none =>
      have hover : isOverUnmade d defaults (extraction d defaults).userTypes m = false := by
        rw [isOverUnmade, hview, hbase, Option.any_none]
      simp [Checked.found, Except.toOption, Option.filter, hover, viewAndEntityFindings,
        viewFindings, hview, hbase]
    | some base =>
      rw [hbase, Option.bind_some] at htable
      rw [Option.bind_some]
      have hover : isOverUnmade d defaults (extraction d defaults).userTypes m =
          (d.entities.find? (·.name == base)).any fun b =>
            (Entity.ofDeclaration defaults
              (extraction d defaults).userTypes b).toOption.isNone := by
        rw [isOverUnmade, hview, hbase, Option.any_some]
      cases hfind : d.entities.find? (·.name == base) with
      | none =>
        rw [hfind, Option.any_none] at hover
        simp [Checked.found, Except.toOption, Option.filter, hover, viewAndEntityFindings, hview,
          hbase, hlast, hfind]
      | some b =>
        have htable := htable b hfind
        cases hmakeBase : Entity.ofDeclaration defaults (extraction d defaults).userTypes b with
        | error found =>
          simp only [hfind, Option.any_some, hmakeBase, Except.toOption, Option.isNone_none]
            at hover
          simp [Checked.found, Except.toOption, Option.filter, hover, hmakeBase]
        | ok mb =>
          have hviewBase : mb.viewOf = none :=
            (Entity.names_of_ofDeclaration hmakeBase).2.trans htable
          have hoverBase :
              isOverUnmade d defaults (extraction d defaults).userTypes mb = false := by
            rw [isOverUnmade, hviewBase, Option.any_none]
          simp only [hfind, Option.any_some, hmakeBase, Except.toOption, Option.isNone_some]
            at hover
          simp [Checked.found, Except.toOption, Option.filter, hover, hoverBase,
            viewAndEntityFindings, examinedOf?, hview, hbase, hlast, hfind, hmakeBase]

end

/-! ## 4. What loading reports -/

/-- What loading a batch reports: nothing where it is accepted. -/
def reported (d : Declaration) (registry : Registry) (defaults : Defaults) : ErrorTree :=
  match load d registry defaults with
  | .ok _ => .empty
  | .error t => t

/-- **What loading reports is the tree of what was found**: the last resolution adds nothing. -/
theorem reported_eq (d : Declaration) (registry : Registry) (defaults : Defaults) :
    reported d registry defaults =
      .ofFindings ((extraction d defaults).found ++ validation d registry defaults) := by
  rw [reported]
  by_cases hempty : (extraction d defaults).found ++ validation d registry defaults = []
  · obtain ⟨hread, hvalid⟩ := List.append_eq_nil_iff.mp hempty
    obtain ⟨s, hload, -⟩ := load_of_unreported hread hvalid
    rw [hload, hempty]
    rfl
  · rw [load_eq]
    simp only [List.isEmpty_iff, if_neg hempty]

/-- **The violations under the name of an entity are those of its report.** -/
theorem flattenUnder_reported (h : d.NamesApart) (he : e ∈ d.entities)
    (htable : ∀ b, d.base? e = some b → b.viewOf = none) :
    (reported d registry defaults).flattenUnder e.name =
      (ErrorTree.ofFindings (entityReport registry defaults (extraction d defaults).userTypes
        (d.base? e) e)).flattenBelow e.name := by
  rw [ErrorTree.flattenUnder, reported_eq, ErrorTree.child_ofFindings, below_reported h he htable]

/-- **Violations are local to an entity.**  Two batches that share their user types, an entity and,
if that is a view, its base or the lack of one, report the same of it: the same violations at the
same places in the same order, whatever else they declare and in whatever order. -/
theorem reported_alike (registry : Registry) (defaults : Defaults) (h₁ : d₁.NamesApart)
    (h₂ : d₂.NamesApart) (htypes : d₁.userTypes = d₂.userTypes) (he₁ : e ∈ d₁.entities)
    (he₂ : e ∈ d₂.entities) (hbase : d₁.base? e = d₂.base? e)
    (htable : ∀ b, d₁.base? e = some b → b.viewOf = none) :
    (reported d₁ registry defaults).flattenUnder e.name =
      (reported d₂ registry defaults).flattenUnder e.name := by
  have hmade : (extraction d₁ defaults).userTypes = (extraction d₂ defaults).userTypes := by
    simp only [extraction, htypes]
  rw [flattenUnder_reported h₁ he₁ htable, flattenUnder_reported h₂ he₂ (hbase ▸ htable), hmade,
    hbase]

/-- A view of readings that leaves out the sensor and keeps notes of an unknown type. -/
def readingByOwner : Declaration.Entity where
  name := "ReadingByOwner"
  viewOf := some "Reading"
  fields := [
    (Declaration.Field.typed "owner" "text").inPartition 0,
    (Declaration.Field.typed "day" "date").inClustering 0 true,
    .typed "notes" "list<Note>"]

/-- Readings before all else, beside an entity that cannot be made. -/
def readingsFirst : Declaration where
  userTypes := [{ name := "Place", fields := [⟨"street", "text", none⟩] }]
  entities := [
    { name := "Reading"
      fields := [
        (Declaration.Field.typed "sensor" "bigint").inPartition 0,
        (Declaration.Field.typed "day" "date").inClustering 0 true,
        .typed "owner" "text",
        .typed "at" "frozen<Place>"] },
    readingByOwner,
    { name := "Alarm", fields := [(Declaration.Field.typed "id" "list<").inPartition 0] }]

/-- The same readings after all else, and faults of other kinds. -/
def readingsLast : Declaration where
  userTypes := readingsFirst.userTypes
  entities := [
    { name := "AlarmByDay", viewOf := some "Missing" },
    readingByOwner,
    { name := "Meter", fields := [.typed "id" "uuid", .typed "id" "uuid"] }]
    ++ readingsFirst.entities.take 1
  functions := [{ name := "fold", returns := "list<" }]

theorem reported_alike_readings :
    readingsFirst.NamesApart ∧ readingsLast.NamesApart
      ∧ readingsFirst.userTypes = readingsLast.userTypes
      ∧ readingByOwner ∈ readingsFirst.entities ∧ readingByOwner ∈ readingsLast.entities
      ∧ readingsFirst.base? readingByOwner = readingsLast.base? readingByOwner
      ∧ (readingsFirst.base? readingByOwner).map (·.viewOf) = some none
      ∧ ((reported readingsFirst {} {}).flattenUnder readingByOwner.name).map
          (fun (place, v) => (place, v.rule)) = [
            ("ReadingByOwner", "ViewMissingBaseKey"),
            ("ReadingByOwner", "ViewMissingBaseComposite"),
            ("ReadingByOwner.notes", "UnfrozenNested"),
            ("ReadingByOwner.notes", "UnknownUdt"),
            ("ReadingByOwner.notes", "ViewFieldMismatch")]
      ∧ (reported readingsFirst {} {}).flattenUnder readingByOwner.name =
        (reported readingsLast {} {}).flattenUnder readingByOwner.name := by
  have h₁ : readingsFirst.NamesApart := ⟨by decide +kernel, by decide +kernel⟩
  have h₂ : readingsLast.NamesApart := ⟨by decide +kernel, by decide +kernel⟩
  have he₁ : readingByOwner ∈ readingsFirst.entities := by decide +kernel
  have he₂ : readingByOwner ∈ readingsLast.entities := by decide +kernel
  have hbase : readingsFirst.base? readingByOwner = readingsLast.base? readingByOwner := by
    decide +kernel
  have htable : (readingsFirst.base? readingByOwner).map (·.viewOf) = some none := by decide +kernel
  have htable' : ∀ b, readingsFirst.base? readingByOwner = some b → b.viewOf = none := by
    intro b hb
    rw [hb] at htable
    exact Option.some.inj htable
  exact ⟨h₁, h₂, rfl, he₁, he₂, hbase, htable, by decide +kernel,
    reported_alike {} {} h₁ h₂ rfl he₁ he₂ hbase htable'⟩

end Schema

end WideColumn
