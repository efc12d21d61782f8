/-
# What the name of a user type refers to

Wherever a batch writes a type, each name in it is read for itself: the shape that is made of the
text has, one after the other, the leaves that its names are read as (`ReadsByName`).  So it is
enough to ask what the name of a user type is read as, once for the whole batch.

It refers to the user type of that name, with two reservations.  A name that has a meaning of its
own in types, whatever its letter case, keeps that meaning: a user type `Date` is declared and made
like any other, but `Date` in a type is the scalar `date`.  And the first user type that goes by a
name, under the declared or the stored one and in any letter case, is the one that is found, so
nothing is said here of a user type that comes after another of its names.
-/
import WideColumn.Proofs.Schema.Resolved
import WideColumn.Proofs.Type.Names

namespace WideColumn.Schema

open WideColumn.Text
open WideColumn.TypeExpr (namesIn)

variable {d : Declaration} {registry : Registry} {defaults : Defaults} {s : Schema}
  {names : TypeNames} {naming : Naming} {text : String} {shape : Shape}
  {before after : List UserType} {u : UserType}

/-! ## 1. Types read name by name -/

/-- **A text is read as a shape name by name**: the leaves of the shape are what the names in the
text are read as. -/
def ReadAs (names : TypeNames) (text : String) (shape : Shape) : Prop :=
  shape.leaves = (namesIn text.toList).filterMap (Leaf.read? names)

/-- **All types that a batch writes are read name by name**: those of the fields of user types and
of entities, and those that functions take and return. -/
structure ReadsByName (d : Declaration) (s : Schema) (names : TypeNames) : Prop where
  userTypes : List.Forall₂ (fun du u => u.name = du.name ∧
    List.Forall₂ (fun df f => f.name = df.name ∧ ReadAs names df.type f.shape) du.fields u.fields)
    d.userTypes s.userTypes
  entities : List.Forall₂ (fun de e => e.name = de.name ∧
    List.Forall₂ (fun df f => f.name = df.name ∧
      ∀ text, df.type = some text → ReadAs names text f.shape) de.fields e.fields)
    d.entities s.entities
  functions : List.Forall₂ (fun df f => f.name = df.name ∧
    List.Forall₂ (fun dp p => p.1 = dp.name ∧ ReadAs names dp.type p.2) df.parameters f.parameters
      ∧ ReadAs names df.returns f.returns)
    d.functions s.functions

theorem readAs_of_unmarkedShape (h : unmarkedShape names text = .ok shape) :
    ReadAs names text shape := by
  rw [unmarkedShape, Except.bind_eq_ok_iff] at h
  obtain ⟨e, hparse, h⟩ := h
  have hleaves := TypeExpr.leaves_toShape (Except.mapError_eq_ok_iff.mp hparse) names
  split at h
  · rename_i hshape
    cases h
    rw [hshape] at hleaves
    exact hleaves
  · cases h

theorem readAs_of_plainShape (h : plainShape names text = .ok shape) : ReadAs names text shape := by
  rw [plainShape] at h
  split at h
  · rename_i e hparse
    cases h
    exact TypeExpr.leaves_toShape hparse names
  · cases h

theorem TypeField.readAs_of_ofDeclaration {df : Declaration.TypeField} {f : TypeField}
    (h : TypeField.ofDeclaration names naming df = .ok f) :
    f.name = df.name ∧ ReadAs names df.type f.shape := by
  rw [TypeField.ofDeclaration] at h
  split at h
  · rename_i hshape
    cases h
    exact ⟨rfl, readAs_of_unmarkedShape hshape⟩
  · cases h

theorem Field.readAs_of_ofDeclaration {df : Declaration.Field} {f : Field}
    (h : Field.ofDeclaration names naming df = .ok f) :
    f.name = df.name ∧ ∀ text, df.type = some text → ReadAs names text f.shape := by
  rw [Field.ofDeclaration] at h
  split at h
  · cases h
  · rename_i e htype
    simp only at h
    split at h
    · cases h
      refine ⟨rfl, fun text htext => ?_⟩
      rw [declaredType.eq_def, htext] at htype
      exact TypeExpr.leaves_toShape (Except.mapError_eq_ok_iff.mp htype) names
    · cases h

theorem UserType.readAs_of_ofDeclaration {declared : List Declaration.UserType}
    {du : Declaration.UserType} (h : UserType.ofDeclaration defaults declared du = .ok u) :
    u.name = du.name ∧ u.typeName = storedTypeName du ∧ List.Forall₂ (fun df f =>
      f.name = df.name ∧ ReadAs (declaredTypeNames declared) df.type f.shape)
      du.fields u.fields := by
  obtain ⟨fields, hfields, rfl⟩ := UserType.eq_of_ofDeclaration h
  refine ⟨rfl, rfl, ?_⟩
  exact (forall₂_of_collectAll (TypeField.ofDeclaration_ne_error_nil _ _) hfields).imp
    fun _ _ hmake => TypeField.readAs_of_ofDeclaration hmake

theorem Entity.readAs_of_ofDeclaration {types : List UserType} {de : Declaration.Entity}
    {e : Entity} (h : Entity.ofDeclaration defaults types de = .ok e) :
    e.name = de.name ∧ List.Forall₂ (fun df f => f.name = df.name ∧
      ∀ text, df.type = some text → ReadAs (typeNames types) text f.shape) de.fields e.fields := by
  obtain ⟨fields, hfields, rfl⟩ := Entity.eq_of_ofDeclaration h
  refine ⟨rfl, ?_⟩
  exact (forall₂_of_collectAll (Field.ofDeclaration_ne_error_nil _ _) hfields).imp
    fun _ _ hmake => Field.readAs_of_ofDeclaration hmake

/-- A parameter is never refused without a finding. -/
theorem map_plainShape_ne_error_nil (p : Declaration.Parameter) :
    (plainShape names p.type).map (fun shape => (p.name, shape)) ≠ .error [] := by
  intro h
  cases hplain : plainShape names p.type with
  | ok shape => rw [hplain] at h; cases h
  | error found =>
    rw [hplain] at h
    obtain rfl : found = [] := by injection h
    exact plainShape_ne_error_nil _ _ hplain

theorem Function.readAs_of_ofDeclaration {types : List UserType} {df : Declaration.Function}
    {f : Function} (h : Function.ofDeclaration defaults types df = .ok f) :
    f.name = df.name ∧ List.Forall₂ (fun dp p =>
      p.1 = dp.name ∧ ReadAs (typeNames types) dp.type p.2) df.parameters f.parameters
      ∧ ReadAs (typeNames types) df.returns f.returns := by
  rw [Function.ofDeclaration] at h
  simp only at h
  split at h
  · rename_i hparameters hreturns
    cases h
    refine ⟨rfl, ?_, readAs_of_plainShape hreturns⟩
    refine (forall₂_of_collect map_plainShape_ne_error_nil hparameters).imp fun dp p hmake => ?_
    obtain ⟨shape, hshape, heq⟩ := Except.map_eq_ok_iff.mp hmake
    cases heq
    exact ⟨rfl, readAs_of_plainShape hshape⟩
  · cases h
  · cases h

theorem Function.ofDeclaration_ne_error_nil (types : List UserType) (df : Declaration.Function) :
    Function.ofDeclaration defaults types df ≠ .error [] := by
  rw [Function.ofDeclaration]
  simp only
  split
  · exact nofun
  · rename_i hreturns hsome
    exact fun h => hsome (Except.error.inj h)
  · rename_i hreturns
    intro h
    obtain ⟨-, hnone⟩ := List.append_eq_nil_iff.mp (Except.error.inj h)
    rw [List.map_eq_nil_iff.mp hnone] at hreturns
    exact plainShape_ne_error_nil _ _ hreturns

/-! ## 2. An accepted batch -/

/-- An accepted batch was read without findings. -/
theorem extraction_of_load (h : load d registry defaults = .ok s) :
    (extraction d defaults).found = [] ∧ (extraction d defaults).userTypes = s.userTypes
      ∧ (extraction d defaults).entities = s.entities
      ∧ (extraction d defaults).functions = s.functions := by
  rw [load_eq] at h
  simp only at h
  split at h
  · rename_i hempty
    rw [List.isEmpty_iff, List.append_eq_nil_iff] at hempty
    split at h
    · cases h
      exact ⟨hempty.1, rfl, rfl, rfl⟩
    · cases h
  · cases h

/-- The names that user types go by are those that were declared. -/
theorem typeNames_eq {declared dus : List Declaration.UserType} {us : List UserType}
    (h : List.Forall₂ (fun du u => UserType.ofDeclaration defaults declared du = .ok u) dus us) :
    typeNames us = declaredTypeNames dus := by
  rw [typeNames, declaredTypeNames]
  induction h with
  | nil => rfl
  | cons hmake _ ih =>
    obtain ⟨hname, hstored, -⟩ := UserType.readAs_of_ofDeclaration hmake
    rw [List.map_cons, List.map_cons, ih, hname, hstored]

/-- **All types that an accepted batch writes are read name by name**, by one set of names. -/
theorem readsByName_of_load (h : load d registry defaults = .ok s) :
    ReadsByName d s (typeNames s.userTypes) := by
  have hloaded := loaded_of_load h
  obtain ⟨hread, htypes, -, hfunctions⟩ := extraction_of_load h
  simp only [extraction, List.append_eq_nil_iff, List.map_eq_nil_iff] at hread htypes hfunctions
  refine ⟨?userTypes, ?entities, ?functions⟩
  case userTypes =>
    refine (forall₂_userTypes_of_load h).imp fun du u hmake => ?_
    obtain ⟨hname, -, hfields⟩ := UserType.readAs_of_ofDeclaration hmake
    exact ⟨hname, typeNames_eq (forall₂_userTypes_of_load h) ▸ hfields⟩
  case entities =>
    have hall := forall₂_of_collect (Entity.ofDeclaration_ne_error_nil _ _)
      (congrArg Prod.fst hloaded.entities)
    rw [hloaded.entities] at hall
    exact hall.imp fun _ _ hmake => Entity.readAs_of_ofDeclaration hmake
  case functions =>
    have hall := forall₂_of_collect (Function.ofDeclaration_ne_error_nil _) hread.2
    rw [hfunctions, htypes] at hall
    exact hall.imp fun _ _ hmake => Function.readAs_of_ofDeclaration hmake

/-! ## 3. What the name of a user type is read as -/

/-- **A user type goes by a name** if that is its declared or its stored one, in any letter case. -/
def UserType.GoesBy (u : UserType) (name : String) : Prop :=
  lowerAscii u.name = lowerAscii name ∨ lowerAscii u.typeName = lowerAscii name

instance (u : UserType) (name : String) : Decidable (u.GoesBy name) :=
  inferInstanceAs (Decidable (_ ∨ _))

/-- The first user type that goes by a name is the one that is found. -/
theorem stored_typeNames (h : ∀ w ∈ before, ¬w.GoesBy u.name) :
    (typeNames (before ++ u :: after)).stored u.name = u.typeName := by
  induction before with
  | nil => simp [typeNames, TypeNames.stored]
  | cons w before ih =>
    obtain ⟨hfirst, hrest⟩ := List.forall_mem_cons.mp h
    have hskip : (typeNames (w :: before ++ u :: after)).stored u.name =
        (typeNames (before ++ u :: after)).stored u.name := by
      rw [UserType.GoesBy, not_or] at hfirst
      simp [typeNames, TypeNames.stored, hfirst]
    rw [hskip, ih hrest]

/-- The first user type with a stored name is the one that has it. -/
theorem userType?_append (h : ∀ w ∈ before, w.typeName ≠ u.typeName) :
    userType? (before ++ u :: after) u.typeName = some u := by
  have hnone : before.find? (·.typeName == u.typeName) = none :=
    List.find?_eq_none.mpr fun w hw => by simpa using h w hw
  rw [userType?, List.find?_append, hnone]
  simp

/-- **What the name of a user type refers to.**  In an accepted batch all types are read name by
name.  A name with a meaning of its own is never read as a user type, be there one of that name or
not.  Any other name of a user type is read as a reference to it, and the reference leads to it,
where no earlier user type goes by the name or is stored under the same one. -/
theorem name_refers (h : load d registry defaults = .ok s) :
    ReadsByName d s (typeNames s.userTypes) ∧
      ∀ before u after, s.userTypes = before ++ u :: after →
        (Leaf.isTypeWord u.name = true →
          ∀ n, Leaf.read? (typeNames s.userTypes) u.name ≠ some (.udt n)) ∧
        (Leaf.isTypeWord u.name = false →
          (∀ w ∈ before, ¬w.GoesBy u.name ∧ w.typeName ≠ u.typeName) →
          Leaf.read? (typeNames s.userTypes) u.name = some (.udt u.typeName) ∧
            userType? s.userTypes u.typeName = some u) := by
  refine ⟨readsByName_of_load h, ?_⟩
  intro before u after hsplit
  refine ⟨fun hword n => Leaf.read?_ne_udt hword n, ?_⟩
  intro hfree hbefore
  rw [hsplit, Leaf.read?_of_not_typeWord hfree,
    stored_typeNames fun w hw => (hbefore w hw).1]
  exact ⟨rfl, userType?_append fun w hw => (hbefore w hw).2⟩

/-- Visits, with one user type named like a scalar and another one stored under the name of a
third. -/
def visits : Declaration where
  userTypes := [
    { name := "Date", fields := [⟨"day", "int", none⟩] },
    { name := "Home", typeName := some "work", fields := [⟨"street", "text", none⟩] },
    { name := "Work", typeName := some "job", fields := [⟨"floor", "int", none⟩] },
    { name := "Note", fields := [⟨"place", "frozen<Home>", none⟩] }]
  entities := [
    { name := "Visit"
      fields := [
        (Declaration.Field.typed "id" "uuid").inPartition 0,
        .typed "day" "frozen<Date>",
        .typed "place" "frozen<Work>",
        .typed "notes" "map<int, frozen<Note>>"] }]
  functions := [{ name := "count", parameters := [⟨"notes", "list<Note>"⟩], returns := "int" }]

theorem name_refers_visits :
    ∃ s note before after date others, load visits {} {} = .ok s
      ∧ s.userTypes = before ++ note :: after ∧ note.name = "Note" ∧ before.length = 3
      ∧ Leaf.isTypeWord note.name = false
      ∧ (∀ w ∈ before, ¬w.GoesBy note.name ∧ w.typeName ≠ note.typeName)
      ∧ s.userTypes = date :: others ∧ date.name = "Date" ∧ Leaf.isTypeWord date.name = true
      ∧ ReadsByName visits s (typeNames s.userTypes)
      ∧ Leaf.read? (typeNames s.userTypes) note.name = some (.udt note.typeName)
      ∧ userType? s.userTypes note.typeName = some note
      ∧ ∀ n, Leaf.read? (typeNames s.userTypes) date.name ≠ some (.udt n) := by
  have hready : ((load visits {} {}).toOption.map fun s =>
      s.userTypes.map fun u => (u.name, u.typeName)) =
      some [("Date", "date"), ("Home", "work"), ("Work", "job"), ("Note", "note")] := by
    decide +kernel
  simp only [Option.map_eq_some_iff, Except.toOption_eq_some_iff, List.map_eq_cons_iff,
    List.map_eq_nil_iff, Prod.mk.injEq] at hready
  obtain ⟨s, hload, date, others, htypes, ⟨hdate, hdateStored⟩, home, rest, rfl,
    ⟨hhome, hhomeStored⟩, work, rest, rfl, ⟨hwork, hworkStored⟩, note, rest, rfl,
    ⟨hnote, hnoteStored⟩, rfl⟩ := hready
  have hfree : Leaf.isTypeWord note.name = false := by
    rw [hnote]
    decide +kernel
  have hword : Leaf.isTypeWord date.name = true := by
    rw [hdate]
    decide +kernel
  have hbefore : ∀ w ∈ [date, home, work],
      ¬w.GoesBy note.name ∧ w.typeName ≠ note.typeName := by
    simp only [List.forall_mem_cons, List.not_mem_nil, IsEmpty.forall_iff, implies_true, and_true,
      UserType.GoesBy, hdate, hdateStored, hhome, hhomeStored, hwork, hworkStored, hnote,
      hnoteStored]
    decide +kernel
  obtain ⟨hreads, hrefers⟩ := name_refers hload
  obtain ⟨hread, hfind⟩ := (hrefers [date, home, work] note [] htypes).2 hfree hbefore
  exact ⟨s, note, [date, home, work], [], date, [home, work, note], hload, htypes, hnote, rfl,
    hfree, hbefore, htypes, hdate, hword, hreads, hread, hfind, (hrefers [] date _ htypes).1 hword⟩

/-- **The name of a user type may refer to something else.**  Of the two user types that the fields
of a visit name, the first is read as a scalar and the second as another user type. -/
theorem name_refers_elsewhere :
    ∃ s visit date work, load visits {} {} = .ok s ∧ visit ∈ s.entities
      ∧ date ∈ s.userTypes ∧ date.name = "Date" ∧ work ∈ s.userTypes ∧ work.name = "Work"
      ∧ visits.entities.flatMap (·.fields.filterMap (·.type)) =
        ["uuid", "frozen<Date>", "frozen<Work>", "map<int, frozen<Note>>"]
      ∧ visit.fields.map (·.shape.leaves) =
        [[.scalar .uuid], [.scalar .date], [.udt "work"], [.scalar .int, .udt "note"]]
      ∧ work.typeName = "job"
      ∧ ∃ home, userType? s.userTypes "work" = some home ∧ home.name = "Home" := by
  have hready : ((load visits {} {}).toOption.bind fun s => s.entities[0]?.bind fun visit =>
      s.userTypes[0]?.bind fun date => s.userTypes[2]?.map fun work =>
        (date.name, work.name, visit.fields.map (·.shape.leaves), work.typeName,
          (userType? s.userTypes "work").map (·.name))) =
      some ("Date", "Work",
        [[.scalar .uuid], [.scalar .date], [.udt "work"], [.scalar .int, .udt "note"]], "job",
        some "Home") := by decide +kernel
  simp only [Option.bind_eq_some_iff, Option.map_eq_some_iff, Except.toOption_eq_some_iff,
    Prod.mk.injEq] at hready
  obtain ⟨s, hload, visit, hvisit, date, hdate, work, hwork, hdateName, hworkName, hleaves, hstored,
    hhome⟩ := hready
  exact ⟨s, visit, date, work, hload, List.mem_of_getElem? hvisit, List.mem_of_getElem? hdate,
    hdateName, List.mem_of_getElem? hwork, hworkName, rfl, hleaves, hstored, hhome⟩

end WideColumn.Schema
