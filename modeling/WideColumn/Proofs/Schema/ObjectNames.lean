/-
# Whether anything is created twice

Every statement of a schema creates its object only if there is none of the name yet.  So where two
statements have one name, the second does nothing, and nobody is told: a type has the wrong fields,
an index is missing.

`Creates` reads the object off a statement: a user type, a table (views among them), or an index in
a keyspace.  In an accepted batch no two tables share a name.  The rules do not ask the same of user
types, whose stored names may be chosen or come out alike from different names, nor of indexes.
What is left to ask is exactly that (`created_once_iff`); two indexes that were named after fields
of one table need not be compared.  In `namedTwice` all of it goes wrong, and it is accepted.
-/
import Mathlib.Data.List.Forall2
import WideColumn.Proofs.Schema.ColumnName
import WideColumn.Proofs.Schema.Dependencies

namespace WideColumn.Schema

variable {d : Declaration} {registry : Registry} {defaults : Defaults} {s : Schema}
  {e e' : Entity} {f f' : Field} {i i' : Index} {c : Creation}

/-! ## 1. Objects -/

/-- What a statement creates. -/
inductive SchemaObject where
  | type (name : String)
  /-- A table or a view. -/
  | table (name : String)
  | index (keyspace : Option String) (name : String)
  deriving DecidableEq

/-- **A statement creates an object**, unless there is one of the name. -/
inductive Creates : String → SchemaObject → Prop
  | type (name rest : String) :
    Creates ("CREATE TYPE IF NOT EXISTS " ++ name ++ " (" ++ rest) (.type name)
  | table (name rest : String) :
    Creates ("CREATE TABLE IF NOT EXISTS " ++ name ++ " (" ++ rest) (.table name)
  | view (name rest : String) :
    Creates ("CREATE MATERIALIZED VIEW IF NOT EXISTS " ++ name ++ " AS SELECT " ++ rest)
      (.table name)
  | index (keyspace : Option String) (name table rest : String) :
    Creates ("CREATE INDEX IF NOT EXISTS " ++ name ++ " ON " ++ qualify keyspace table ++ " ("
      ++ rest) (.index keyspace name)
  | customIndex (keyspace : Option String) (name table rest : String) :
    Creates ("CREATE CUSTOM INDEX IF NOT EXISTS " ++ name ++ " ON " ++ qualify keyspace table
      ++ " (" ++ rest) (.index keyspace name)

/-- The object of a creation. -/
def Creation.object : Creation → SchemaObject
  | userType u => .type u.qualifiedType
  | entity e => .table e.qualifiedTable
  | index e f i => .index e.keyspace (i.resolvedName e.table f.column)

/-- A text made of pieces goes on from its beginning. -/
theorem exists_foldl_append (pieces : List String) (beginning : String) :
    ∃ rest, pieces.foldl (· ++ ·) beginning = beginning ++ rest := by
  induction pieces generalizing beginning with
  | nil => exact ⟨"", String.append_empty.symm⟩
  | cons piece pieces ih =>
    obtain ⟨rest, hrest⟩ := ih (beginning ++ piece)
    exact ⟨piece ++ rest, by rw [List.foldl_cons, hrest, String.append_assoc]⟩

theorem creates_createType (u : UserType) : Creates (createType u) (.type u.qualifiedType) := by
  obtain ⟨rest, hrest⟩ := exists_foldl_append [_, ")"]
    ("CREATE TYPE IF NOT EXISTS " ++ u.qualifiedType ++ " (")
  have htext : createType u = _ := hrest
  exact htext ▸ .type _ _

theorem creates_createTable (s : Schema) (e : Entity) :
    Creates (createTable s e) (.table e.qualifiedTable) := by
  obtain ⟨rest, hrest⟩ := exists_foldl_append [_, ", PRIMARY KEY (", _, "))", _]
    ("CREATE TABLE IF NOT EXISTS " ++ e.qualifiedTable ++ " (")
  have htext : createTable s e = _ := hrest
  exact htext ▸ .table _ _

theorem creates_createView (view base : Entity) :
    Creates (createView view base) (.table view.qualifiedTable) := by
  obtain ⟨rest, hrest⟩ := exists_foldl_append
    [_, " FROM ", _, " WHERE ", _, " PRIMARY KEY (", _, ")", _]
    ("CREATE MATERIALIZED VIEW IF NOT EXISTS " ++ view.qualifiedTable ++ " AS SELECT ")
  have htext : createView view base = _ := hrest
  exact htext ▸ .view _ _

theorem creates_createIndex (e : Entity) (f : Field) : (i : Index) →
    Creates (createIndex e f i) (.index e.keyspace (i.resolvedName e.table f.column))
  | ⟨kind, .native, name, slot⟩ => by
    obtain ⟨rest, hrest⟩ := exists_foldl_append [_, ")"] ("CREATE INDEX IF NOT EXISTS "
      ++ (Index.mk kind .native name slot).resolvedName e.table f.column ++ " ON "
      ++ qualify e.keyspace e.table ++ " (")
    have htext : createIndex e f ⟨kind, .native, name, slot⟩ = _ := hrest
    exact htext ▸ .index _ _ _ _
  | ⟨kind, .sasi options, name, slot⟩ => by
    obtain ⟨rest, hrest⟩ := exists_foldl_append [_, ") USING ", _, _, _]
      ("CREATE CUSTOM INDEX IF NOT EXISTS "
        ++ (Index.mk kind (.sasi options) name slot).resolvedName e.table f.column ++ " ON "
        ++ qualify e.keyspace e.table ++ " (")
    have htext : createIndex e f ⟨kind, .sasi options, name, slot⟩ = _ := hrest
    exact htext ▸ .customIndex _ _ _ _
  | ⟨kind, .search options, name, slot⟩ => by
    obtain ⟨rest, hrest⟩ := exists_foldl_append [_, ") USING ", _]
      ("CREATE CUSTOM INDEX IF NOT EXISTS "
        ++ (Index.mk kind (.search options) name slot).resolvedName e.table f.column ++ " ON "
        ++ qualify e.keyspace e.table ++ " (")
    have htext : createIndex e f ⟨kind, .search options, name, slot⟩ = _ := hrest
    exact htext ▸ .customIndex _ _ _ _

/-- **The statement of a creation creates its object.** -/
theorem Creation.creates_statement (s : Schema) (c : Creation) :
    Creates (c.statement s) c.object := by
  cases c with
  | userType u => exact creates_createType u
  | entity e =>
    delta statement object
    dsimp only
    cases e.viewOf.bind s.entity? with
    | some base => exact creates_createView e base
    | none => exact creates_createTable s e
  | index e f i => exact creates_createIndex e f i

/-! ## 2. Creations, each once -/

/-- An entity of an accepted batch creates nothing twice. -/
theorem nodup_entityCreations (h : load d registry defaults = .ok s) (he : e ∈ s.entities) :
    e.creations.Nodup := by
  rw [Entity.creations, List.nodup_cons, List.nodup_flatMap]
  refine ⟨by simp, ?_, ?_⟩
  · intro f hf
    have hone := length_indexes_of_load h he f (List.mem_filter.mp hf).1
    rcases hindexes : f.indexes with _ | ⟨i, _ | ⟨_, _⟩⟩
    · simp
    · simp
    · simp [hindexes] at hone
  · have hfields : e.indexedFields.Nodup := (nodup_names_of_load h he).of_map.filter _
    refine hfields.imp ?_
    intro f f' hne c hc hc'
    obtain ⟨i, -, rfl⟩ := List.mem_map.mp hc
    obtain ⟨i', -, heq⟩ := List.mem_map.mp hc'
    cases heq
    exact hne rfl

/-- An accepted batch has no user type twice. -/
theorem nodup_userTypes_of_load (h : load d registry defaults = .ok s) : s.userTypes.Nodup :=
  (List.nodup_append.mp (nodup_allNames_of_load h)).2.1.of_map

/-- **An accepted batch has no creation twice.** -/
theorem nodup_creations_of_load (h : load d registry defaults = .ok s) : s.creations.Nodup := by
  rw [(creations_perm s).nodup_iff, List.nodup_append, List.nodup_flatMap]
  refine ⟨(nodup_userTypes_of_load h).map fun _ _ => Creation.userType.inj,
    ⟨fun e he => nodup_entityCreations h he, ?_⟩, ?_⟩
  · refine (nodup_entities_of_load h).imp ?_
    intro e e' hne c hc hc'
    rcases mem_entityCreations hc with rfl | ⟨f, i, rfl⟩ <;>
      rcases mem_entityCreations hc' with heq | ⟨f', i', heq⟩ <;> cases heq <;> exact hne rfl
  · rintro a ha c hc rfl
    obtain ⟨u, -, rfl⟩ := List.mem_map.mp ha
    obtain ⟨e, -, hc⟩ := List.mem_flatMap.mp hc
    rcases mem_entityCreations hc with heq | ⟨f, i, heq⟩ <;> cases heq

/-! ## 3. Names that are kept apart -/

/-- Where no table is claimed twice, no two entities have one, nor one that was claimed before. -/
theorem nodup_of_sharedTables {seen : List (String × String)} {entities : List Entity}
    (h : sharedTables seen entities = []) :
    (entities.map (·.qualifiedTable)).Nodup
      ∧ ∀ e ∈ entities, seen.lookup e.qualifiedTable = none := by
  induction entities generalizing seen with
  | nil => simp
  | cons e es ih =>
    rw [sharedTables] at h
    simp only [List.append_eq_nil_iff, List.map_eq_nil_iff, Option.toList_eq_nil_iff] at h
    obtain ⟨hnew, hrest⟩ := h
    obtain ⟨hnodup, hfresh⟩ := ih hrest
    have hapart : ∀ e' ∈ es, e'.qualifiedTable ≠ e.qualifiedTable
        ∧ seen.lookup e'.qualifiedTable = none := by
      intro e' he'
      have hnone := hfresh e' he'
      rw [List.lookup_cons] at hnone
      split at hnone
      · cases hnone
      · rename_i hne
        exact ⟨beq_eq_false_iff_ne.mp hne, hnone⟩
    refine ⟨List.nodup_cons.mpr ⟨?_, hnodup⟩, List.forall_mem_cons.mpr ⟨hnew, ?_⟩⟩
    · intro hmem
      obtain ⟨e', he', htable⟩ := List.mem_map.mp hmem
      exact (hapart e' he').1 htable
    · exact fun e' he' => (hapart e' he').2

/-- **The tables and views of an accepted batch have names of their own.** -/
theorem nodup_tables_of_load (h : load d registry defaults = .ok s) :
    (s.entities.map (·.qualifiedTable)).Nodup :=
  (nodup_of_sharedTables (accepted_of_load h).tables).1

/-- The name of an index was chosen, or that of its column was. -/
def Index.HasChosenName (i : Index) (e : Entity) (f : Field) : Prop :=
  i.name ≠ none ∨ f.HasChosenColumn e.naming

/-- Where names differ, indexes that were named after fields of one table are kept apart. -/
theorem resolvedName_ne_of_derived (hf : isSnakeCase f.name = true)
    (hf' : isSnakeCase f'.name = true) (hne : f.name ≠ f'.name) (hi : ¬i.HasChosenName e f)
    (hi' : ¬i'.HasChosenName e f') :
    i.resolvedName e.table f.column ≠ i'.resolvedName e.table f'.column := by
  simp only [Index.HasChosenName, Field.HasChosenColumn, not_or, not_not] at hi hi'
  have hname : ∀ {i : Index} {f : Field}, isSnakeCase f.name = true →
      i.name = none ∧ f.column = e.naming.column f.name →
        i.resolvedName e.table f.column = e.table ++ "_" ++ f.name ++ "_idx" := by
    intro i f hf hi
    rw [Index.resolvedName, hi.1, hi.2, Option.getD_none]
    change e.table ++ "_" ++ lookupName (e.naming.column f.name) ++ "_idx" = _
    rw [lookupName_column hf]
  rw [hname hf hi, hname hf' hi']
  intro heq
  rw [String.append_left_inj, String.append_right_inj] at heq
  exact hne heq

/-- **Indexes are kept apart**: no two of one keyspace have one name.  Two of one table that were
both named after their fields need not be compared. -/
def IndexesKeptApart (s : Schema) : Prop :=
  ∀ e f i e' f' i', .index e f i ∈ s.creations → .index e' f' i' ∈ s.creations →
    e.name ≠ e'.name ∨ (f.name ≠ f'.name ∧ (i.HasChosenName e f ∨ i'.HasChosenName e' f')) →
    e.keyspace = e'.keyspace → i.resolvedName e.table f.column ≠ i'.resolvedName e'.table f'.column

/-- What the objects of two indexes are told apart by tells the indexes apart. -/
theorem index_eq_of_resolvedName (h : load d registry defaults = .ok s) (hapart : s.IndexesKeptApart)
    (hc : .index e f i ∈ s.creations) (hc' : .index e' f' i' ∈ s.creations)
    (hkeyspace : e.keyspace = e'.keyspace)
    (hname : i.resolvedName e.table f.column = i'.resolvedName e'.table f'.column) :
    Creation.index e f i = .index e' f' i' := by
  obtain ⟨he, hf, hi⟩ := index_mem_creations_iff.mp hc
  obtain ⟨he', hf', hi'⟩ := index_mem_creations_iff.mp hc'
  have hentity : e.name = e'.name := by
    by_contra hne
    exact hapart _ _ _ _ _ _ hc hc' (.inl hne) hkeyspace hname
  obtain rfl : e = e' := by
    have hfind := entity?_of_load h he
    rw [hentity, entity?_of_load h he'] at hfind
    exact (Option.some.inj hfind).symm
  have hfield : f.name = f'.name := by
    by_contra hne
    by_cases hchosen : i.HasChosenName e f ∨ i'.HasChosenName e f'
    · exact hapart _ _ _ _ _ _ hc hc' (.inr ⟨hne, hchosen⟩) hkeyspace hname
    · rw [not_or] at hchosen
      exact resolvedName_ne_of_derived (isSnakeCase_of_load h he f hf)
        (isSnakeCase_of_load h he f' hf') hne hchosen.1 hchosen.2 hname
  obtain rfl := List.inj_on_of_nodup_map (nodup_names_of_load h he) hf hf' hfield
  rw [eq_of_length_le_one (length_indexes_of_load h he f hf) hi hi']

/-! ## 4. Accepted batches -/

/-- The stored names of the user types of an accepted batch are the declared ones. -/
theorem qualifiedTypes_of_load (h : load d registry defaults = .ok s) :
    s.userTypes.map (·.qualifiedType) =
      d.userTypes.map fun u => qualify (u.keyspace <|> defaults.keyspace) (storedTypeName u) := by
  symm
  rw [← List.forall₂_eq_eq_eq, List.forall₂_map_left_iff, List.forall₂_map_right_iff]
  refine (forall₂_userTypes_of_load h).imp fun du u hmake => ?_
  obtain ⟨fields, -, rfl⟩ := UserType.eq_of_ofDeclaration hmake
  rfl

/-- **When nothing is created twice.**  Each statement creates an object, and in an accepted batch
no two create one exactly if no two user types are stored under one name and indexes are kept
apart. -/
theorem created_once_iff (h : load d registry defaults = .ok s) :
    List.Forall₂ Creates s.statements (s.creations.map Creation.object)
      ∧ ((s.creations.map Creation.object).Nodup ↔
        (d.userTypes.map fun u =>
          qualify (u.keyspace <|> defaults.keyspace) (storedTypeName u)).Nodup
        ∧ s.IndexesKeptApart) := by
  refine ⟨?_, ?_⟩
  · rw [statements_eq, List.forall₂_map_left_iff, List.forall₂_map_right_iff, List.forall₂_same]
    exact fun c _ => c.creates_statement s
  rw [List.nodup_map_iff_inj_on (nodup_creations_of_load h), ← qualifiedTypes_of_load h]
  constructor
  · intro hinj
    refine ⟨(nodup_userTypes_of_load h).map_on ?_, ?_⟩
    · intro u hu w hw hname
      exact Creation.userType.inj (hinj _ (userType_mem_creations_iff.mpr hu) _
        (userType_mem_creations_iff.mpr hw) (congrArg SchemaObject.type hname))
    · intro e f i e' f' i' hc hc' hdiffer hkeyspace hname
      have heq := hinj _ hc _ hc' (congrArg₂ SchemaObject.index hkeyspace hname)
      cases heq
      rcases hdiffer with hne | ⟨hne, -⟩ <;> exact hne rfl
  · rintro ⟨htypes, hindexes⟩ c hc c' hc' heq
    cases c with
    | userType u =>
      cases c' with
      | userType w =>
        have hname := SchemaObject.type.inj heq
        rw [List.inj_on_of_nodup_map htypes (userType_mem_creations_iff.mp hc)
          (userType_mem_creations_iff.mp hc') hname]
      | _ => cases heq
    | entity e =>
      cases c' with
      | entity e' =>
        have hname := SchemaObject.table.inj heq
        rw [List.inj_on_of_nodup_map (nodup_tables_of_load h) (entity_mem_creations_iff.mp hc)
          (entity_mem_creations_iff.mp hc') hname]
      | _ => cases heq
    | index e f i =>
      cases c' with
      | index e' f' i' =>
        obtain ⟨hkeyspace, hname⟩ := SchemaObject.index.inj heq
        exact index_eq_of_resolvedName h hindexes hc hc' hkeyspace hname
      | _ => cases heq

/-- Two types of one stored name, and indexes that share a name: two because it was chosen for
both, two because table and column run together to the same text. -/
def namedTwice : Declaration where
  userTypes := [
    { name := "Home", typeName := some "place", fields := [⟨"street", "text", none⟩] },
    { name := "Work", typeName := some "place", fields := [⟨"floor", "int", none⟩] }]
  entities := [
    { name := "User"
      fields := [
        (Declaration.Field.typed "id" "bigint").inPartition 0,
        (Declaration.Field.typed "login" "text").withIndex { name := some "by_text" },
        (Declaration.Field.typed "email" "text").withIndex { name := some "by_text" },
        (Declaration.Field.typed "page_hits" "int").withIndex {}] },
    { name := "UserPage"
      fields := [
        (Declaration.Field.typed "id" "bigint").inPartition 0,
        (Declaration.Field.typed "hits" "int").withIndex {}] }]

theorem created_once_iff_users :
    ∃ s, load namedTwice {} {} = .ok s
      ∧ List.Forall₂ Creates s.statements (s.creations.map Creation.object)
      ∧ ((s.creations.map Creation.object).Nodup ↔
        (namedTwice.userTypes.map fun u =>
          qualify (u.keyspace <|> none) (storedTypeName u)).Nodup ∧ s.IndexesKeptApart) := by
  have hready : (load namedTwice {} {}).toOption.isSome = true := by decide +kernel
  obtain ⟨s, hs⟩ := Option.isSome_iff_exists.mp hready
  have hload := Except.toOption_eq_some_iff.mp hs
  exact ⟨s, hload, created_once_iff hload⟩

/-- **Types and indexes may be created twice.**  The two types are accepted and stored under one
name.  So are two indexes of one table, and two of different tables. -/
theorem created_twice :
    ∃ s, load namedTwice {} {} = .ok s
      ∧ s.statements.take 2 = ["CREATE TYPE IF NOT EXISTS place (street text)",
        "CREATE TYPE IF NOT EXISTS place (floor int)"]
      ∧ s.creations.map Creation.object =
        [.type "place", .type "place", .table "user", .index none "by_text", .index none "by_text",
          .index none "user_page_hits_idx", .table "user_page", .index none "user_page_hits_idx"]
      ∧ ¬(s.creations.map Creation.object).Nodup := by
  have hready : ((load namedTwice {} {}).toOption.map fun s =>
      (s.statements.take 2, s.creations.map Creation.object)) =
      some (["CREATE TYPE IF NOT EXISTS place (street text)",
          "CREATE TYPE IF NOT EXISTS place (floor int)"],
        [.type "place", .type "place", .table "user", .index none "by_text", .index none "by_text",
          .index none "user_page_hits_idx", .table "user_page",
          .index none "user_page_hits_idx"]) := by decide +kernel
  simp only [Option.map_eq_some_iff, Except.toOption_eq_some_iff, Prod.mk.injEq] at hready
  obtain ⟨s, hload, hstatements, hobjects⟩ := hready
  refine ⟨s, hload, hstatements, hobjects, ?_⟩
  rw [hobjects]
  decide

end WideColumn.Schema
