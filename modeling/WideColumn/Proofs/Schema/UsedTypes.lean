/-
# The data types of user types

A user type USES those that its fields name, wherever they stand inside a field's shape.  No type
of an accepted batch contains itself, so a chain of types of which each uses the next never comes
back to where it was: it is shorter than there are types (`length_le_of_isChain`).

The data type of a user type is looked for by way of at most as many others as there are user
types.  Where it is not found, the types that it was looked for in make too long a chain
(`exists_isChain`), so in an accepted batch every user type has a data type
(`exists_record_of_load`), and a well-made one if no type has two fields under one name
(`wellMade_of_userDataTypeWithin?`).
-/
import Mathlib.Data.List.Chain
import Mathlib.Data.List.Perm.Subperm
import WideColumn.Proofs.Data.Bounds
import WideColumn.Proofs.Schema.Dependencies
import WideColumn.Proofs.Schema.Orderable
import WideColumn.Proofs.Schema.Pieces
import WideColumn.Proofs.Schema.Reached

namespace WideColumn.Schema

variable {types : List UserType} {u w : UserType} {us : List UserType} {levels : Nat}

/-! ## 1. Chains of user types -/

/-- **A user type names another one** somewhere in its fields. -/
def UserType.Uses (types : List UserType) (u w : UserType) : Prop :=
  ∃ name ∈ u.named, userType? types name = some w

theorem UserType.Uses.mem (h : UserType.Uses types u w) : w ∈ types := by
  obtain ⟨_, -, hw⟩ := h
  exact List.mem_of_find?_eq_some hw

theorem UserType.Uses.typeName_mem (h : UserType.Uses types u w) : w.typeName ∈ u.named := by
  obtain ⟨name, hname, hw⟩ := h
  rwa [typeName_of_userType? hw]

theorem reachesWithin_succ {target : String} : reachesWithin types target (levels + 1) u = true ↔
    target ∈ u.named
      ∨ ∃ w, UserType.Uses types u w ∧ reachesWithin types target levels w = true := by
  simp only [reachesWithin, List.any_eq_true, Bool.or_eq_true, beq_iff_eq, Option.any_eq_true,
    UserType.Uses, UserType.named, List.mem_flatMap]
  constructor
  · rintro ⟨f, hf, name, hname, rfl | ⟨w, hw, hreach⟩⟩
    · exact .inl ⟨f, hf, hname⟩
    · exact .inr ⟨w, ⟨name, ⟨f, hf, hname⟩, hw⟩, hreach⟩
  · rintro (⟨f, hf, hname⟩ | ⟨w, ⟨name, ⟨f, hf, hname⟩, hw⟩, hreach⟩)
    · exact ⟨f, hf, target, hname, .inl rfl⟩
    · exact ⟨f, hf, name, hname, .inr ⟨w, hw, hreach⟩⟩

/-- All that is on a chain is reached from where the chain starts. -/
theorem reachesWithin_of_isChain (h : (u :: us).IsChain (UserType.Uses types)) (hw : w ∈ us)
    (hlevels : us.length ≤ levels) : reachesWithin types w.typeName levels u = true := by
  induction us generalizing u levels with
  | nil => cases hw
  | cons v us ih =>
    obtain ⟨hv, hrest⟩ := List.isChain_cons_cons.mp h
    cases levels with
    | zero => cases hlevels
    | succ levels =>
      rw [reachesWithin_succ]
      rcases List.mem_cons.mp hw with rfl | hw
      · exact .inl hv.typeName_mem
      · exact .inr ⟨v, hv, ih hrest hw (Nat.le_of_succ_le_succ hlevels)⟩

/-- All that is on a chain is among the user types if its start is. -/
theorem mem_of_isChain (hu : u ∈ types) (h : (u :: us).IsChain (UserType.Uses types)) :
    ∀ w ∈ u :: us, w ∈ types := by
  induction us generalizing u with
  | nil => exact List.forall_mem_singleton.mpr hu
  | cons v us ih =>
    obtain ⟨hv, hrest⟩ := List.isChain_cons_cons.mp h
    exact List.forall_mem_cons.mpr ⟨hu, ih hv.mem hrest⟩

/-- A chain never comes back to where it was. -/
theorem nodup_of_isChain (hapart : ∀ u ∈ types, containsItself types u = false)
    (hmem : ∀ u ∈ us, u ∈ types) (h : us.IsChain (UserType.Uses types))
    (hlength : us.length ≤ types.length + 1) : us.Nodup := by
  induction us with
  | nil => exact List.nodup_nil
  | cons u us ih =>
    rw [List.forall_mem_cons] at hmem
    rw [List.length_cons, Nat.add_le_add_iff_right] at hlength
    refine List.nodup_cons.mpr ⟨fun hu => ?_, ih hmem.2 h.tail (Nat.le_succ_of_le hlength)⟩
    have hreach := reachesWithin_of_isChain h hu (Nat.le_succ_of_le hlength)
    exact absurd hreach (Bool.eq_false_iff.mp (hapart u hmem.1))

/-- **A chain has no more members than there are user types.** -/
theorem length_le_of_isChain (hapart : ∀ u ∈ types, containsItself types u = false)
    (hmem : ∀ u ∈ us, u ∈ types) (h : us.IsChain (UserType.Uses types)) :
    us.length ≤ types.length := by
  by_contra hlong
  -- a start of the chain is already too long
  have hstart : (us.take (types.length + 1)).length = types.length + 1 :=
    List.length_take_of_le (Nat.lt_of_not_le hlong)
  rw [← List.take_append_drop (types.length + 1) us] at h
  have hsubset : us.take (types.length + 1) ⊆ types := fun u hu => hmem u (List.mem_of_mem_take hu)
  have hnodup := nodup_of_isChain hapart hsubset h.left_of_append hstart.le
  have hfew := (List.Nodup.subperm hnodup hsubset).length_le
  omega

/-! ## 2. Data types -/

/-- The data type of a user type, by way of at most `levels` others. -/
def UserType.dataTypeWithin? (module : String) (types : List UserType) (levels : Nat)
    (u : UserType) : Option DataType :=
  (u.fields.mapM fun f =>
    (shapeDataType? (userDataTypeWithin? module types levels) f.shape).map fun t =>
      (f.column, t)).map (.record (module ++ "::" ++ u.name))

/-- **The data type of a user type**: that of the structure that is generated for it. -/
def UserType.dataType? (s : Schema) (module : String) (u : UserType) : Option DataType :=
  u.dataTypeWithin? module s.userTypes s.userTypes.length

section
variable {module name : String}

/-- The fields of a data type stand under the columns of the user type. -/
theorem names_of_mapM {fields : List TypeField} {fs : List (String × DataType)}
    {type? : TypeField → Option DataType}
    (h : fields.mapM (fun f => (type? f).map fun t => (f.column, t)) = some fs) :
    fs.map (·.1) = fields.map (·.column) := by
  refine Option.map_eq_of_mapM (fun f g hg => ?_) h
  obtain ⟨t, -, rfl⟩ := Option.map_eq_some_iff.mp hg
  rfl

theorem userDataTypeWithin?_succ : userDataTypeWithin? module types (levels + 1) name =
    (userType? types name).bind (UserType.dataTypeWithin? module types levels) := by
  rw [userDataTypeWithin?]
  cases userType? types name with
  | none => rfl
  | some u =>
    rw [Option.bind_eq_bind, Option.bind_some, Option.bind_some, UserType.dataTypeWithin?,
      Option.map_eq_bind]
    rfl

/-- What stands under its own name is what a shape of that name refers to. -/
theorem dataType?_udt {s : Schema} {p : Place} (h : userType? s.userTypes name = some u) :
    s.dataType? module (.udt p name) = u.dataType? s module := by
  rw [dataType?, shapeDataType?, userDataTypeWithin?_succ, h, Option.bind_some,
    UserType.dataType?]

section
variable (hnative : ∀ u ∈ types, ∀ f ∈ u.fields, ∃ text, nativeType types f.shape = .ok text)
  (hknown : ∀ u ∈ types, ∀ name ∈ u.named, ∃ w, userType? types name = some w)
include hnative

/-- A user type without a data type names one without a data type. -/
theorem exists_of_dataTypeWithin?_eq_none (hu : u ∈ types)
    (h : u.dataTypeWithin? module types levels = none) :
    ∃ name ∈ u.named, userDataTypeWithin? module types levels name = none := by
  by_contra hall
  push Not at hall
  have hfields : ∀ f ∈ u.fields, ∃ field,
      (shapeDataType? (userDataTypeWithin? module types levels) f.shape).map
        (fun t => (f.column, t)) = some field := by
    intro f hf
    obtain ⟨text, htext⟩ := hnative u hu f hf
    have hpass : leavesPass (fun _ => true)
        (fun name => (userDataTypeWithin? module types levels name).isSome) f.shape = true :=
      leavesPass_of_reaches types _ (fun _ _ => rfl) fun name hname =>
        Option.isSome_iff_ne_none.mpr (hall name (List.mem_flatMap.mpr ⟨f, hf, hname⟩))
    obtain ⟨t, ht⟩ := shapeDataType?_of_nativeType
      (fun name hname => Option.isSome_iff_exists.mp hname) f.shape htext hpass
    exact ⟨(f.column, t), by rw [ht, Option.map_some]⟩
  obtain ⟨fields, hmade⟩ := exists_mapM_eq_some hfields
  rw [UserType.dataTypeWithin?, hmade] at h
  cases h

include hknown

/-- **A data type that is not found was looked for along a chain** with as many uses as levels, and
one more. -/
theorem exists_isChain (hu : u ∈ types) (h : u.dataTypeWithin? module types levels = none) :
    ∃ us, us.length = levels + 1 ∧ (u :: us).IsChain (UserType.Uses types) := by
  induction levels generalizing u with
  | zero =>
    obtain ⟨name, hname, -⟩ := exists_of_dataTypeWithin?_eq_none hnative hu h
    obtain ⟨w, hw⟩ := hknown u hu name hname
    exact ⟨[w], rfl, List.isChain_pair.mpr ⟨name, hname, hw⟩⟩
  | succ levels ih =>
    obtain ⟨name, hname, hnone⟩ := exists_of_dataTypeWithin?_eq_none hnative hu h
    obtain ⟨w, hw⟩ := hknown u hu name hname
    rw [userDataTypeWithin?_succ, hw, Option.bind_some] at hnone
    obtain ⟨us, hlength, hchain⟩ := ih (List.mem_of_find?_eq_some hw) hnone
    exact ⟨w :: us, by rw [List.length_cons, hlength],
      List.isChain_cons_cons.mpr ⟨⟨name, hname, hw⟩, hchain⟩⟩

end

/-- **Every user type of an accepted batch has a data type**: a record with the columns of its
fields. -/
theorem exists_record_of_load {d : Declaration} {registry : Registry} {defaults : Defaults}
    {s : Schema} (h : load d registry defaults = .ok s) (module : String) (hu : u ∈ s.userTypes) :
    ∃ fs, u.dataType? s module = some (.record (module ++ "::" ++ u.name) fs)
      ∧ fs.map (·.1) = u.fields.map (·.column) := by
  have hknown : ∀ u ∈ s.userTypes, ∀ name ∈ u.named, ∃ w, userType? s.userTypes name = some w := by
    intro u hu name hname
    obtain ⟨f, hf, hname⟩ := List.mem_flatMap.mp hname
    exact exists_userType?_of_unknownTypes (unknownTypes_of_load h hu hf) name hname
  cases htype : u.dataType? s module with
  | none =>
    obtain ⟨us, hlength, hchain⟩ := exists_isChain (resolvable_of_load h).typeFields hknown hu htype
    have hshort := length_le_of_isChain (fun u hu => ((accepted_of_load h).ofUserTypes u hu).apart)
      (mem_of_isChain hu hchain) hchain
    rw [List.length_cons] at hshort
    omega
  | some t =>
    obtain ⟨fs, hfs, rfl⟩ := Option.map_eq_some_iff.mp htype
    exact ⟨fs, rfl, names_of_mapM hfs⟩

end

/-! ## 3. Data types that are read back -/

mutual

/-- The data type of a shape is well made if those of the user types that it names are. -/
theorem wellMade_of_shapeDataType? {udt : String → Option DataType}
    (hudt : ∀ name t, udt name = some t → t.WellMade) : ∀ (s : Shape) {t : DataType},
    shapeDataType? udt s = some t → t.WellMade
  | .scalar _ s, t, h => by
    rw [shapeDataType?] at h
    exact .scalar (isScalar_of_scalarDataType? h)
  | .counter _, t, h => by
    rw [shapeDataType?] at h
    cases h
    exact .scalar rfl
  | .list _ e, t, h => by
    rw [shapeDataType?] at h
    obtain ⟨t, ht, rfl⟩ := Option.map_eq_some_iff.mp h
    exact .list (wellMade_of_shapeDataType? hudt e ht)
  | .set _ e, t, h => by
    rw [shapeDataType?] at h
    obtain ⟨t, ht, rfl⟩ := Option.map_eq_some_iff.mp h
    exact .set (wellMade_of_shapeDataType? hudt e ht)
  | .map _ k v, t, h => by
    simp only [shapeDataType?, Option.bind_eq_bind, Option.bind_eq_some_iff] at h
    obtain ⟨tk, hk, tv, hv, h⟩ := h
    cases h
    exact .map (wellMade_of_shapeDataType? hudt k hk) (wellMade_of_shapeDataType? hudt v hv)
  | .tuple _ es, t, h => by
    rw [shapeDataType?] at h
    obtain ⟨ts, hts, rfl⟩ := Option.map_eq_some_iff.mp h
    exact .tuple (wellMade_of_shapeDataTypes? hudt es hts)
  | .udt _ name, t, h => by
    rw [shapeDataType?] at h
    exact hudt name t h

theorem wellMade_of_shapeDataTypes? {udt : String → Option DataType}
    (hudt : ∀ name t, udt name = some t → t.WellMade) : ∀ (ss : List Shape) {ts : List DataType},
    shapeDataTypes? udt ss = some ts → ∀ t ∈ ts, t.WellMade
  | [], ts, h => by
    rw [shapeDataTypes?] at h
    cases h
    exact nofun
  | s :: ss, ts, h => by
    simp only [shapeDataTypes?, Option.bind_eq_bind, Option.bind_eq_some_iff] at h
    obtain ⟨t, ht, ts, hts, h⟩ := h
    cases h
    exact List.forall_mem_cons.mpr
      ⟨wellMade_of_shapeDataType? hudt s ht, wellMade_of_shapeDataTypes? hudt ss hts⟩

end

section
variable {module : String} {fs : List (String × DataType)}

/-- Where the data types of user types are well made, so are those of the fields that use them. -/
theorem forall_wellMade_of_mapM {fields : List TypeField}
    (hudt : ∀ name t, userDataTypeWithin? module types levels name = some t → t.WellMade)
    (h : fields.mapM (fun f => (shapeDataType? (userDataTypeWithin? module types levels)
      f.shape).map fun t => (f.column, t)) = some fs) : ∀ f ∈ fs, f.2.WellMade := by
  refine Option.forall_mem_of_mapM h fun f g hg => ?_
  obtain ⟨t, ht, rfl⟩ := Option.map_eq_some_iff.mp hg
  exact wellMade_of_shapeDataType? hudt f.shape ht

/-- **The data types of user types are well made**, where none has two fields under one name. -/
theorem wellMade_of_userDataTypeWithin?
    (hcolumns : ∀ u ∈ types, (u.fields.map (·.column)).Nodup) :
    ∀ (levels : Nat) (name : String) (t : DataType),
      userDataTypeWithin? module types levels name = some t → t.WellMade
  | 0, _, _, h => by cases h
  | levels + 1, name, t, h => by
    rw [userDataTypeWithin?_succ] at h
    obtain ⟨u, hu, h⟩ := Option.bind_eq_some_iff.mp h
    obtain ⟨fs, hfs, rfl⟩ := Option.map_eq_some_iff.mp h
    refine .record ?_
      (forall_wellMade_of_mapM (wellMade_of_userDataTypeWithin? hcolumns levels) hfs)
    rw [names_of_mapM hfs]
    exact hcolumns u (List.mem_of_find?_eq_some hu)

/-- The fields of a user type have well-made data types, where no type has two fields under one
name. -/
theorem forall_wellMade_of_dataType? {s : Schema} {name : String}
    (hcolumns : ∀ u ∈ s.userTypes, (u.fields.map (·.column)).Nodup)
    (h : u.dataType? s module = some (.record name fs)) : ∀ f ∈ fs, f.2.WellMade := by
  obtain ⟨fs', hfs, heq⟩ := Option.map_eq_some_iff.mp h
  cases heq
  exact forall_wellMade_of_mapM (wellMade_of_userDataTypeWithin? hcolumns _) hfs

end

end WideColumn.Schema
