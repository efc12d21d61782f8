/-
# Whether every field has a column of its own

Three readings of a column meet here.  A batch is refused if two fields of an entity have columns
of the same TEXT; the store keeps a column under its stored name, which folds case outside quotes;
and a row looks a column up by a name that folds case in any event and drops the quotes.

* `Entity.OwnsColumns` is what should come of it: the store tells the columns of an entity apart,
  and no field finds the cell of another one in a row.
* Of columns that were derived from the names of their fields it is true.  The names are in snake
  case, no two fields share one, and such a name is the same to all three readings.
* A column that the declaration chose is compared as text only.  So what is left to ask is that the
  chosen columns keep apart from the others in the other two readings (`ownsColumns_iff`).  In
  `spelledTwice` they do not, and it is accepted.
-/
import Mathlib.Data.List.Nodup
import WideColumn.Proofs.Builder.Plan
import WideColumn.Proofs.Schema.ColumnName
import WideColumn.Proofs.Schema.View
import WideColumn.Schema.Ddl

namespace WideColumn.Schema

open WideColumn.Text

variable {d : Declaration} {registry : Registry} {defaults : Defaults} {s : Schema}
  {e : Entity} {f g : Field}

/-! ## 1. What the store returns -/

/-- The cell of a stored field, given what each field holds, under the name by which the store
keeps its column. -/
def storedCell (holds : Field → Value) (f : Field) : String × Value :=
  (storedName f.column, holds f)

theorem matchesColumn_storedCell_iff {column : String} {holds : Field → Value} :
    Row.matchesColumn column (storedCell holds g) = true ↔
      lowerAscii (storedName g.column) = lookupName column := by
  rw [Row.matchesColumn_iff, storedCell]

/-- The cells of a row of the store: one for each stored column. -/
def Entity.storedCells (e : Entity) (holds : Field → Value) : List (String × Value) :=
  (storedFields e).map (storedCell holds)

/-- **Each field has a column of its own.** -/
structure Entity.OwnsColumns (e : Entity) : Prop where
  /-- The store tells the columns of the fields apart. -/
  apart : (e.fields.map fun f => storedName f.column).Nodup
  /-- What a row has for the column of a field is what that field holds. -/
  own : ∀ (holds : Field → Value) (row : Row), row.cells.Perm (e.storedCells holds) →
    ∀ f ∈ e.fields, ∀ v, row.get? f.column = some v → f ∈ storedFields e ∧ v = holds f

/-- **The column of one field keeps apart from that of another**: the store tells the two apart,
and a row does not find the other one in place of the first. -/
def Field.KeepsApart (f g : Field) : Prop :=
  storedName f.column ≠ storedName g.column
    ∧ (g.role.isComputed = false → lowerAscii (storedName g.column) ≠ lookupName f.column)

theorem mem_storedFields_iff : f ∈ storedFields e ↔ f ∈ e.fields ∧ f.role.isComputed = false := by
  simp [storedFields, mem_orderedFields]

/-! ## 2. Columns that keep apart -/

/-- Where names differ, derived columns keep apart. -/
theorem keepsApart_of_derived {naming : Naming} (hf : isSnakeCase f.name = true)
    (hg : isSnakeCase g.name = true) (hne : f.name ≠ g.name)
    (hfderived : ¬f.HasChosenColumn naming) (hgderived : ¬g.HasChosenColumn naming) :
    f.KeepsApart g := by
  rw [Field.HasChosenColumn, not_not] at hfderived hgderived
  rw [Field.KeepsApart, hfderived, hgderived, storedName_column hf, storedName_column hg,
    lookupName_column hf, lowerAscii_of_isSnakeCase hg]
  exact ⟨hne, fun _ => hne.symm⟩

/-- **Fields own their columns exactly if these keep apart**, where no two fields share a name. -/
theorem ownsColumns_iff_keepsApart (hnames : (e.fields.map (·.name)).Nodup) :
    e.OwnsColumns ↔ ∀ f ∈ e.fields, ∀ g ∈ e.fields, f.name ≠ g.name → f.KeepsApart g := by
  constructor
  · rintro ⟨hapart, hown⟩ f hf g hg hne
    refine ⟨fun heq => hne (congrArg _ (List.inj_on_of_nodup_map hapart hf hg heq)), ?_⟩
    intro hstored hlookup
    -- in the row that starts with the cell of `g`, and has in each cell the name of its field
    obtain ⟨front, back, hsplit⟩ := List.append_of_mem (mem_storedFields_iff.mpr ⟨hg, hstored⟩)
    let cell := storedCell fun f => .text f.name
    have hperm : (cell g :: (front ++ back).map cell).Perm
        (e.storedCells fun f => .text f.name) := by
      rw [Entity.storedCells, hsplit, ← List.map_cons]
      exact List.perm_middle.symm.map cell
    have hget : (Row.mk (cell g :: (front ++ back).map cell)).get? f.column = some (.text g.name) :=
      Row.get?_cons (matchesColumn_storedCell_iff.mpr hlookup)
    exact hne (Value.text.inj (hown _ _ hperm f hf _ hget).2).symm
  · intro h
    refine ⟨?_, ?_⟩
    · refine List.Nodup.map_on ?_ hnames.of_map
      intro f hf g hg heq
      by_contra hne
      exact (h f hf g hg fun hname => hne (List.inj_on_of_nodup_map hnames hf hg hname)).1 heq
    · intro holds row hperm f hf v hget
      obtain ⟨cell, hcell, hmatch, rfl⟩ := Row.exists_of_get? hget
      obtain ⟨g, hg, rfl⟩ := List.mem_map.mp (hperm.mem_iff.mp hcell)
      obtain ⟨hgfields, hgstored⟩ := mem_storedFields_iff.mp hg
      have hname : f.name = g.name := by
        by_contra hne
        exact (h f hf g hgfields hne).2 hgstored (matchesColumn_storedCell_iff.mp hmatch)
      obtain rfl := List.inj_on_of_nodup_map hnames hf hgfields hname
      exact ⟨hg, rfl⟩

/-! ## 3. Accepted batches -/

/-- **When every field of an accepted batch has a column of its own**: exactly if those columns
that were chosen keep apart from the others. -/
theorem ownsColumns_iff (h : load d registry defaults = .ok s) (he : e ∈ s.entities) :
    e.OwnsColumns ↔ ∀ f ∈ e.fields, ∀ g ∈ e.fields, f.name ≠ g.name →
      f.HasChosenColumn e.naming ∨ g.HasChosenColumn e.naming → f.KeepsApart g := by
  rw [ownsColumns_iff_keepsApart (nodup_names_of_load h he)]
  constructor
  · intro hall f hf g hg hne _
    exact hall f hf g hg hne
  · intro hchosen f hf g hg hne
    by_cases hsome : f.HasChosenColumn e.naming ∨ g.HasChosenColumn e.naming
    · exact hchosen f hf g hg hne hsome
    · rw [not_or] at hsome
      exact keepsApart_of_derived (isSnakeCase_of_load h he f hf) (isSnakeCase_of_load h he g hg)
        hne hsome.1 hsome.2

/-- Users with two addresses, whose columns differ in case, and two keys, whose columns differ in
case and quotes. -/
def spelledTwice : Declaration where
  entities := [
    { name := "User"
      fields := [
        (Declaration.Field.typed "id" "bigint").inPartition 0,
        (Declaration.Field.typed "login" "text").withColumn "Email",
        .typed "email" "text",
        (Declaration.Field.typed "door" "int").withColumn "\"Key\"",
        .typed "key" "int"] }]

theorem ownsColumns_iff_users :
    ∃ s e, load spelledTwice {} {} = .ok s ∧ e ∈ s.entities
      ∧ (e.OwnsColumns ↔ ∀ f ∈ e.fields, ∀ g ∈ e.fields, f.name ≠ g.name →
        f.HasChosenColumn e.naming ∨ g.HasChosenColumn e.naming → f.KeepsApart g) := by
  have hready : ((load spelledTwice {} {}).toOption.bind (·.entities[0]?)).isSome = true := by
    decide +kernel
  obtain ⟨e, he⟩ := Option.isSome_iff_exists.mp hready
  obtain ⟨s, hs, he⟩ := Option.bind_eq_some_iff.mp he
  have hload := Except.toOption_eq_some_iff.mp hs
  have hmem := List.mem_of_getElem? he
  exact ⟨s, e, hload, hmem, ownsColumns_iff hload hmem⟩

/-- **Fields may share a column, or find the cell of another field.**  The users are accepted.  The
store has one column for the login and the email, and the row of a user has the door's value for
the key. -/
theorem column_shared :
    ∃ s e, load spelledTwice {} {} = .ok s ∧ e ∈ s.entities
      ∧ e.fields.map (fun f => (f.name, f.column, storedName f.column)) =
        [("id", "id", "id"), ("login", "Email", "email"), ("email", "email", "email"),
          ("door", "\"Key\"", "Key"), ("key", "key", "key")]
      ∧ (Row.mk (e.storedCells fun f => .text f.name)).get? "key" = some (.text "door")
      ∧ ¬e.OwnsColumns := by
  have hready : ((load spelledTwice {} {}).toOption.bind fun s => s.entities[0]?.map fun e =>
      (e.fields.map fun f => (f.name, f.column, storedName f.column),
        (storedFields e).map fun f => (f.name, storedName f.column))) =
      some ([("id", "id", "id"), ("login", "Email", "email"), ("email", "email", "email"),
          ("door", "\"Key\"", "Key"), ("key", "key", "key")],
        [("id", "id"), ("login", "email"), ("email", "email"), ("door", "Key"),
          ("key", "key")]) := by
    decide +kernel
  simp only [Option.bind_eq_some_iff, Option.map_eq_some_iff, Except.toOption_eq_some_iff,
    Prod.mk.injEq] at hready
  obtain ⟨s, hload, e, he, hfields, hstored⟩ := hready
  have hcells : e.storedCells (fun f => .text f.name) = [("id", .text "id"),
      ("email", .text "login"), ("email", .text "email"), ("Key", .text "door"),
      ("key", .text "key")] := by
    have hcell := congrArg (List.map fun p => (p.2, Value.text p.1)) hstored
    rwa [List.map_map] at hcell
  have hnames : e.fields.map (fun f => storedName f.column) =
      ["id", "email", "email", "Key", "key"] := by
    have hname := congrArg (List.map fun p => p.2.2) hfields
    rwa [List.map_map] at hname
  refine ⟨s, e, hload, List.mem_of_getElem? he, hfields, ?_, ?_⟩
  · rw [hcells]
    rfl
  · intro howns
    have hapart := howns.apart
    rw [hnames] at hapart
    exact absurd hapart (by decide)

end WideColumn.Schema
