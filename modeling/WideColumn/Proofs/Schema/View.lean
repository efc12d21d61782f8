/-
# What a view takes from its base

A view stores no rows of its own: it selects columns of its base.  So for every stored field of a
view the base has to SUPPLY a column, one that it stores itself, once for each row, under the same
name and with the same type.

An accepted view always finds a field of its base that has the name, the column and the declared
type of its own (`matched_of_viewFindings`).  That is not yet a supply.  The rules do not ask which
part the base's field plays, nor in which type its strategy stores it, and exactly these two
questions are left (`view_supplied_iff`); `view_unsupplied` is a batch that fails both and is
accepted.
-/
import WideColumn.Proofs.Except
import WideColumn.Proofs.Schema.Accepted

namespace WideColumn.Schema

variable {d : Declaration} {registry : Registry} {defaults : Defaults} {s : Schema}
  {e v b : Entity} {f g : Field} {name : String}

/-! ## 1. One field for a name, one for a column -/

/-- Fields without duplicates share neither names nor columns, nor have any that came before. -/
theorem nodup_of_duplicateFaults {fields : List Field} {names columns : List String}
    (h : duplicateFaults names columns fields = []) :
    ((fields.map (·.name)).Nodup ∧ ∀ f ∈ fields, f.name ∉ names)
      ∧ (fields.map (·.column)).Nodup ∧ ∀ f ∈ fields, f.column ∉ columns := by
  induction fields generalizing names columns with
  | nil => simp
  | cons f fs ih =>
    simp only [duplicateFaults, List.append_eq_nil_iff, ite_eq_right_iff, reduceCtorEq, imp_false,
      List.contains_iff_mem] at h
    obtain ⟨⟨hname, hcolumn⟩, hrest⟩ := h
    obtain ⟨⟨hnames, hnew⟩, hcolumns, hfresh⟩ := ih hrest
    refine ⟨⟨?_, ?_⟩, ?_, ?_⟩
    · refine List.nodup_cons.mpr ⟨?_, hnames⟩
      intro hmem
      obtain ⟨f', hf', heq⟩ := List.mem_map.mp hmem
      exact hnew f' hf' (heq ▸ List.mem_cons_self)
    · intro f' hf'
      rcases List.mem_cons.mp hf' with rfl | hf'
      · exact hname
      · exact fun hmem => hnew f' hf' (List.mem_cons_of_mem _ hmem)
    · refine List.nodup_cons.mpr ⟨?_, hcolumns⟩
      intro hmem
      obtain ⟨f', hf', heq⟩ := List.mem_map.mp hmem
      exact hfresh f' hf' (heq ▸ List.mem_cons_self)
    · intro f' hf'
      rcases List.mem_cons.mp hf' with rfl | hf'
      · exact hcolumn
      · exact fun hmem => hfresh f' hf' (List.mem_cons_of_mem _ hmem)

/-- The fields of an accepted entity have names of their own. -/
theorem nodup_names_of_load (h : load d registry defaults = .ok s) (he : e ∈ s.entities) :
    (e.fields.map (·.name)).Nodup :=
  (nodup_of_duplicateFaults (accepted_of_entity h he).duplicates).1.1

/-- The fields of an accepted entity have columns of their own. -/
theorem nodup_columns_of_load (h : load d registry defaults = .ok s) (he : e ∈ s.entities) :
    (e.fields.map (·.column)).Nodup :=
  (nodup_of_duplicateFaults (accepted_of_entity h he).duplicates).2.1

/-! ## 2. The base of a view -/

/-- **The base of an accepted view is there, and the view keeps the rules over it.** -/
theorem base_of_load (h : load d registry defaults = .ok s) (hv : v ∈ s.entities)
    (hview : v.viewOf = some name) :
    ∃ b ∈ s.entities, s.entity? name = some b ∧ viewFindings v (some b) = [] := by
  have hfound := (accepted_of_load h).ofViews v hv (by rw [Entity.isView, hview]; rfl)
  rw [hview, Option.bind_some] at hfound
  cases hbase : lastEntity? s.entities name with
  | none =>
    simp only [hbase, viewFindings, hview, reduceCtorEq] at hfound
  | some b =>
    rw [hbase] at hfound
    have hmem : b ∈ s.entities := List.mem_reverse.mp (List.mem_of_find?_eq_some hbase)
    have hname : b.name = name := by simpa using List.find?_some hbase
    exact ⟨b, hmem, hname ▸ entity?_of_load h hmem, hfound⟩

/-- A stored field of a view has a field of the base with its name, column and declared type. -/
theorem matched_of_viewFindings (hview : v.viewOf = some name)
    (h : viewFindings v (some b) = []) (hf : f ∈ v.fields) (hstored : f.role.isComputed = false) :
    ∃ g ∈ b.fields, g.name = f.name ∧ g.column = f.column ∧ g.shape.text = f.shape.text := by
  simp only [viewFindings, hview, List.append_eq_nil_iff, List.flatMap_eq_nil_iff,
    List.map_eq_nil_iff] at h
  have hfaults := h.2 f hf
  simp only [viewFieldFaults, List.append_eq_nil_iff, hstored, Bool.false_or] at hfaults
  have hmatch : matchesBase b f = true := by
    by_contra hno
    simp [hno] at hfaults
  rw [matchesBase, Entity.field?, Option.any_eq_true] at hmatch
  obtain ⟨g, hfind, hsame⟩ := hmatch
  simp only [Shape.sameType, Bool.and_eq_true, beq_iff_eq] at hsame
  exact ⟨g, List.mem_of_find?_eq_some hfind, by simpa using List.find?_some hfind, hsame⟩

/-- **An accepted view has no indexes.** -/
theorem indexes_of_view (h : load d registry defaults = .ok s) (hv : v ∈ s.entities)
    (hview : v.isView = true) : ∀ f ∈ v.fields, f.indexes = [] := by
  intro f hf
  obtain ⟨name, hname⟩ := Option.isSome_iff_exists.mp hview
  obtain ⟨b, -, -, hfound⟩ := base_of_load h hv hname
  simp only [viewFindings, hname, List.append_eq_nil_iff, List.flatMap_eq_nil_iff,
    List.map_eq_nil_iff] at hfound
  have hfaults := hfound.2 f hf
  simp only [viewFieldFaults, List.append_eq_nil_iff] at hfaults
  simpa using hfaults.1.1

/-! ## 3. What the base supplies -/

/-- **A base supplies what a view takes as a field**: it stores a column of that name, once for
each row, with the type that the column has in the view. -/
def Supplies (s : Schema) (b v : Entity) (f : Field) : Prop :=
  ∃ g ∈ b.fields, g.column = f.column ∧ g.role.isComputed = false ∧ g.role.isStatic = false
    ∧ s.columnType b g = s.columnType v f

/-- Decided by going through the fields of the base. -/
instance (s : Schema) (b v : Entity) (f : Field) : Decidable (Supplies s b v f) :=
  inferInstanceAs (Decidable (∃ g ∈ b.fields, g.column = f.column ∧ g.role.isComputed = false
    ∧ g.role.isStatic = false ∧ s.columnType b g = s.columnType v f))

/-- What a strategy makes of a declared type. -/
def storedType (strategy : Option Strategy) (declared : String) : String :=
  (strategy.bind Strategy.storedAs).getD declared

/-- **When a view selects only what its base stores.**  In an accepted batch the base of a view is
there and has, for each stored field of the view, a field of the same name, column and declared
type.  The base supplies the column exactly if that field is neither computed nor static, and the
strategies of the two fields store their one declared type alike. -/
theorem view_supplied_iff (h : load d registry defaults = .ok s) (hv : v ∈ s.entities)
    (hview : v.viewOf = some name) :
    ∃ b ∈ s.entities, s.entity? name = some b ∧
      ∀ f ∈ v.fields, f.role.isComputed = false →
        ∃ g ∈ b.fields, g.name = f.name ∧ g.column = f.column ∧ g.shape.text = f.shape.text ∧
          (Supplies s b v f ↔ g.role.isComputed = false ∧ g.role.isStatic = false ∧
            storedType (s.codec? b g) f.shape.text = storedType (s.codec? v f) f.shape.text) := by
  obtain ⟨b, hb, hbase, hfound⟩ := base_of_load h hv hview
  refine ⟨b, hb, hbase, ?_⟩
  intro f hf hstored
  obtain ⟨g, hg, hname, hcolumn, htext⟩ := matched_of_viewFindings hview hfound hf hstored
  have htype : s.columnType b g = storedType (s.codec? b g) f.shape.text := by
    rw [columnType, htext, storedType]
  refine ⟨g, hg, hname, hcolumn, htext, ?_, ?_⟩
  · -- a column belongs to one field only
    rintro ⟨g', hg', hcolumn', hcomputed, hstatic, hsame⟩
    obtain rfl : g' = g :=
      List.inj_on_of_nodup_map (nodup_columns_of_load h hb) hg' hg (hcolumn'.trans hcolumn.symm)
    exact ⟨hcomputed, hstatic, htype ▸ hsame⟩
  · rintro ⟨hcomputed, hstatic, hsame⟩
    exact ⟨g, hg, hcolumn, hcomputed, hstatic, htype.trans hsame⟩

/-- Readings of sensors with a static owner, a computed field and a level kept as a number, and a
view that takes all three as if they were plain columns. -/
def readingsByDay : Declaration where
  entities := [
    { name := "Reading"
      fields := [
        (Declaration.Field.typed "sensor" "bigint").inPartition 0,
        (Declaration.Field.typed "day" "date").inClustering 0 true,
        (Declaration.Field.typed "owner" "text").asStatic,
        (Declaration.Field.typed "level" "text").asEnumerated "crate::Level" .ordinal,
        (Declaration.Field.typed "written" "bigint").asComputed "writetime" ["level"] "written"] },
    { name := "ReadingByDay"
      viewOf := some "Reading"
      fields := [
        (Declaration.Field.typed "day" "date").inPartition 0,
        (Declaration.Field.typed "sensor" "bigint").inClustering 0 true,
        .typed "owner" "text",
        .typed "level" "text",
        .typed "written" "bigint"] }]

theorem view_supplied_iff_readings :
    ∃ s v b, load readingsByDay {} {} = .ok s ∧ v ∈ s.entities ∧ v.viewOf = some "Reading"
      ∧ s.entity? "Reading" = some b
      ∧ ∀ f ∈ v.fields, f.role.isComputed = false →
        ∃ g ∈ b.fields, g.name = f.name ∧ g.column = f.column ∧ g.shape.text = f.shape.text ∧
          (Supplies s b v f ↔ g.role.isComputed = false ∧ g.role.isStatic = false ∧
            storedType (s.codec? b g) f.shape.text = storedType (s.codec? v f) f.shape.text) := by
  have hready : ((load readingsByDay {} {}).toOption.bind fun s => s.entities[1]?.map fun v =>
      v.viewOf) = some (some "Reading") := by decide +kernel
  simp only [Option.bind_eq_some_iff, Option.map_eq_some_iff, Except.toOption_eq_some_iff] at hready
  obtain ⟨s, hload, v, hv, hview⟩ := hready
  have hmem := List.mem_of_getElem? hv
  obtain ⟨b, -, hbase, hfields⟩ := view_supplied_iff hload hmem hview
  exact ⟨s, v, b, hload, hmem, hview, hbase, hfields⟩

/-- **Not every view selects what its base stores.**  The view of the readings is accepted, and its
base supplies neither the static column, nor the one of another type, nor the computed one. -/
theorem view_unsupplied :
    ∃ s v b, load readingsByDay {} {} = .ok s ∧ v ∈ s.entities ∧ v.viewOf = some "Reading"
      ∧ s.entity? "Reading" = some b
      ∧ ∀ name ∈ ["owner", "level", "written"],
        ∃ f ∈ v.fields, f.name = name ∧ f.role.isComputed = false ∧ ¬Supplies s b v f := by
  have hready : ((load readingsByDay {} {}).toOption.bind fun s => s.entities[1]?.bind fun v =>
      (s.entity? "Reading").map fun b => (v.viewOf, decide (∀ name ∈ ["owner", "level", "written"],
        ∃ f ∈ v.fields, f.name = name ∧ f.role.isComputed = false ∧ ¬Supplies s b v f))) =
      some (some "Reading", true) := by decide +kernel
  simp only [Option.bind_eq_some_iff, Option.map_eq_some_iff, Except.toOption_eq_some_iff,
    Prod.mk.injEq, decide_eq_true_eq] at hready
  obtain ⟨s, hload, v, hv, b, hbase, hview, hfields⟩ := hready
  exact ⟨s, v, b, hload, List.mem_of_getElem? hv, hview, hbase, hfields⟩

end WideColumn.Schema
