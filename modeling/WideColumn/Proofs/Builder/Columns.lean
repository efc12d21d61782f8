/-
# Columns that are selected and columns that are read

A generated record lists its columns in entries.  SELECT projects the EXPRESSION of each entry, and
the record is read back from the columns under their NAMES.  So an expression has to answer under
the name of its entry: a column does, and a call does so under its alias only.

The alias of a computed field is also its column, unless the declaration names a column as well.
An accepted declaration may name another one, so entries agree exactly as far as it does not
(`selected_as_read_iff`), and `column_not_selected` is a record that is read from a column which
its SELECT does not answer.
-/
import WideColumn.Builder.Record
import WideColumn.Proofs.Builder.Plan

namespace WideColumn

/-! ## 1. What SELECT answers -/

/-- Under which name SELECT answers an expression: a column under its own, and a call under its
alias. -/
inductive AnswersAs : Option Declaration.Computed → (expression name : String) → Prop
  | column (name : String) : AnswersAs none name name
  | call (c : Declaration.Computed) (text : String) :
    AnswersAs (some c) (text ++ " AS " ++ c.aliasName) c.aliasName

theorem answersAs_column_iff {expression name : String} :
    AnswersAs none expression name ↔ expression = name := by
  constructor
  · rintro ⟨⟩
    rfl
  · rintro rfl
    exact .column _

theorem answersAs_call_iff {c : Declaration.Computed} {expression name : String} :
    AnswersAs (some c) expression name ↔
      name = c.aliasName ∧ ∃ text, expression = text ++ " AS " ++ c.aliasName := by
  constructor
  · rintro ⟨⟩
    exact ⟨rfl, _, rfl⟩
  · rintro ⟨rfl, text, rfl⟩
    exact .call c text

namespace Schema

/-- The name under which SELECT answers what it projects for a field. -/
def Field.answerName (f : Field) : String :=
  (f.computed.map (·.aliasName)).getD f.column

/-- **What is projected for a field is answered under one name.** -/
theorem answersAs_projection_iff {e : Entity} {f : Field} {name : String} :
    AnswersAs f.computed (e.projection f) name ↔ name = f.answerName := by
  rw [Entity.projection, Field.answerName]
  cases f.computed with
  | none => exact answersAs_column_iff.trans eq_comm
  | some c =>
    refine answersAs_call_iff.trans (and_iff_left ?_)
    simp only [expression]
    rw [show ") AS " = ")" ++ " AS " from rfl, ← String.append_assoc]
    exact ⟨_, rfl⟩

/-- A field that keeps to its declaration is answered under its column exactly if the declaration
names no column for a call, or names its alias. -/
theorem Field.KeepsTo.column_eq_answerName_iff {f : Field} {naming : Naming}
    {df : Declaration.Field} (h : f.KeepsTo naming df) :
    f.column = f.answerName ↔
      ∀ c column, df.computed = some c → df.column = some column → column = c.aliasName := by
  rw [Field.answerName, h.column, h.computed, declaredColumn]
  cases df.computed with
  | none => simp
  | some c => cases df.column <;> simp

end Schema

/-! ## 2. Entries -/

namespace Builder

open WideColumn.Source

variable {s : Schema} {profile : Profile} {emitDdl : Bool} {e : Schema.Entity} {p : Plan}
  {app : Application} {m : Mapping}

/-- What the mapping of a record tells of the column of a field. -/
def entry (p : Plan) (f : PlannedField) : ColumnMeta :=
  ⟨f.column, f.model.role.columnKind, p.schema.columnType p.entity f.model,
    p.entity.projection f.model⟩

/-- The part that a column plays, in source. -/
def kindText : ColumnKind → String
  | .partition => "Partition"
  | .clustering ascending => lay ["Clustering", curly ["ascending :", truth ascending]]
  | .static => "Static"
  | .staticCounter => "StaticCounter"
  | .counter => "Counter"
  | .regular => "Regular"
  | .computed => "Computed"

/-- An entry in source. -/
def entryText (c : ColumnMeta) : String :=
  lay [core "entity :: ColumnMeta",
    curly ["name :", literal c.name, ", kind :", core "entity :: ColumnKind ::", kindText c.kind,
      ", cql_type :", literal c.cqlType, ", expression :", literal c.expression, ","]]

/-- Reading a field from the column of a name, in source. -/
def decodingText (f : PlannedField) (column : String) : String :=
  lay [f.name, ":",
    core (if f.isOptional then "entity :: decode_optional_column ::"
      else "entity :: decode_column ::"),
    angled [f.codec], round ["row ,", literal column], "?"]

theorem columnText_eq (p : Plan) (f : PlannedField) : columnText p f = entryText (entry p f) := by
  have hkind : roleText f.model.role = kindText f.model.role.columnKind := by
    cases f.model.role <;> rfl
  rw [columnText, hkind]
  rfl

theorem readText_eq (p : Plan) (f : PlannedField) :
    readText f = decodingText f (entry p f).name := rfl

/-- The entries of a plan are told by the fields of the entity. -/
theorem entries_of_plan (hplan : plan s profile emitDdl e = .ok p) :
    p.fields.map (entry p) = e.orderedFields.map
      fun f => ⟨f.column, f.role.columnKind, s.columnType e f, e.projection f⟩ := by
  rw [← models_of_plan hplan, List.map_map]
  refine List.map_congr_left fun f _ => ?_
  rw [entry, schema_of_plan hplan, entity_of_plan hplan]
  rfl

/-- **Records are read by these entries**: an application's mapping of the entity has their
columns, in their order. -/
theorem entries_of_mapping? (he : s.entity? e.name = some e)
    (hmapping : s.mapping? app e.name = some m) (hplan : plan s profile emitDdl e = .ok p) :
    m.columns.map (·.about) = p.fields.map (entry p) :=
  (Schema.about_of_mapping? he hmapping).trans (entries_of_plan hplan).symm

/-- **When every column that a record reads is one that its SELECT answers.**  The entries in the
source of an entity of an accepted batch are those of its declared fields, and each field is read
from the name of its entry.  The expression of an entry answers under that name exactly if the
field is no call, or is declared with no column besides its alias. -/
theorem selected_as_read_iff {d : Declaration} {registry : Schema.Registry}
    {defaults : Schema.Defaults} (hload : Schema.load d registry defaults = .ok s)
    (he : e ∈ s.entities) (hplan : plan s profile emitDdl e = .ok p) :
    ∃ de ∈ d.entities, e.name = de.name ∧ ∀ f ∈ p.fields, ∃ df ∈ de.fields,
      f.model.name = df.name
        ∧ columnText p f = entryText (entry p f)
        ∧ readText f = decodingText f (entry p f).name
        ∧ (AnswersAs f.model.computed (entry p f).expression (entry p f).name ↔
            ∀ c column, df.computed = some c → df.column = some column → column = c.aliasName) := by
  obtain ⟨de, hde, hname, hfields⟩ := Schema.declared_of_load hload he
  refine ⟨de, hde, hname, fun f hf => ?_⟩
  have hmodel : f.model ∈ e.fields := by
    rw [← Schema.mem_orderedFields, ← models_of_plan hplan]
    exact List.mem_map_of_mem hf
  obtain ⟨df, hdf, hkept⟩ := hfields f.model hmodel
  refine ⟨df, hdf, hkept.name, columnText_eq p f, readText_eq p f, ?_⟩
  rw [entry, Schema.answersAs_projection_iff, ← hkept.column_eq_answerName_iff]
  rfl

/-- Users with two calls: the alias of one is its column, and the other has a column besides. -/
def timedUsers : Declaration where
  entities := [
    { name := "User"
      fields := [
        (Declaration.Field.typed "id" "bigint").inPartition 0,
        .typed "name" "text",
        (Declaration.Field.typed "written" "bigint").asComputed "writetime" ["name"] "name_written",
        ((Declaration.Field.typed "left" "int").asComputed "ttl" ["name"] "t").withColumn
          "name_left"] }]

theorem selected_as_read_iff_users :
    ∃ s e p, Schema.load timedUsers {} {} = .ok s ∧ e ∈ s.entities
      ∧ plan s .cassandra30 true e = .ok p
      ∧ ∃ de ∈ timedUsers.entities, e.name = de.name ∧ ∀ f ∈ p.fields, ∃ df ∈ de.fields,
        f.model.name = df.name
          ∧ columnText p f = entryText (entry p f)
          ∧ readText f = decodingText f (entry p f).name
          ∧ (AnswersAs f.model.computed (entry p f).expression (entry p f).name ↔
              ∀ c column, df.computed = some c → df.column = some column →
                column = c.aliasName) := by
  have hready : ((Schema.load timedUsers {} {}).toOption.bind fun s => s.entities[0]?.map fun e =>
      (plan s .cassandra30 true e).toOption.isSome) = some true := by decide +kernel
  simp only [Option.bind_eq_some_iff, Option.map_eq_some_iff, Except.toOption_eq_some_iff,
    Option.isSome_iff_exists] at hready
  obtain ⟨s, hload, e, he, p, hplan⟩ := hready
  have hmem := List.mem_of_getElem? he
  exact ⟨s, e, p, hload, hmem, hplan, selected_as_read_iff hload hmem hplan⟩

/-- **Not every column that is read is selected.**  Both calls of the users are accepted.  The
record reads the second one from a column besides its alias, and under that name SELECT answers
nothing. -/
theorem column_not_selected :
    ∃ s e p, Schema.load timedUsers {} {} = .ok s ∧ e ∈ s.entities
      ∧ plan s .cassandra30 true e = .ok p
      ∧ ∃ f ∈ p.fields, (entry p f).name = "name_left"
        ∧ (entry p f).expression = "ttl(name) AS t"
        ∧ ∀ g ∈ p.fields, ¬AnswersAs g.model.computed (entry p g).expression "name_left" := by
  have hready : ((Schema.load timedUsers {} {}).toOption.bind fun s => s.entities[0]?.bind fun e =>
      (plan s .cassandra30 true e).toOption.map fun p => decide (
        (∃ f ∈ p.fields, (entry p f).name = "name_left"
          ∧ (entry p f).expression = "ttl(name) AS t")
        ∧ ∀ g ∈ p.fields, "name_left" ≠ g.model.answerName)) =
      some true := by decide +kernel
  simp only [Option.bind_eq_some_iff, Option.map_eq_some_iff, Except.toOption_eq_some_iff,
    decide_eq_true_eq] at hready
  obtain ⟨s, hload, e, he, p, hplan, ⟨f, hf, hname, hexpression⟩, hothers⟩ := hready
  refine ⟨s, e, p, hload, List.mem_of_getElem? he, hplan, f, hf, hname, hexpression, ?_⟩
  intro g hg hanswers
  exact hothers g hg (Schema.answersAs_projection_iff.mp hanswers)

end Builder

end WideColumn
