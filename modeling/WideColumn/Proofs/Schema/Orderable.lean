/-
# Shapes with an order have data

Whether a shape has a total order is decided by way of at most so many user types, and so is the
data type of a shape.  Neither bound is felt where user types are few enough:

* the user types that pass at one level pass at the next, so after as many levels as there are
  types NOTHING NEW PASSES (`passes_saturated`), and one level more decides alike
  (`orderableWithin_saturated`);
* where a shape passes within some levels, its data type is found within as many, provided that
  all the types that it names have a built-in type (`shapeDataType?_of_orderable`).

So an orderable shape of an accepted batch with a built-in type has a data type
(`dataType?_of_orderable`).
-/
import Mathlib.Order.Monotone.Basic
import WideColumn.Application
import WideColumn.Proofs.Schema.Resolved

namespace WideColumn.Schema

variable {types : List UserType}

/-! ## 1. Levels -/

section Levels

variable {α : Type} {as : List α}

/-- Where as many items pass a weaker test, they are the same. -/
theorem forall_of_countP_eq {p q : α → Bool} (hpq : ∀ a, p a = true → q a = true)
    (h : as.countP p = as.countP q) : ∀ a ∈ as, q a = true → p a = true := by
  have hsame : as.filter p = as.filter q := by
    refine (List.monotone_filter_right as hpq).eq_of_length ?_
    rwa [← List.countP_eq_length_filter, ← List.countP_eq_length_filter]
  intro a ha hq
  have hmem : a ∈ as.filter q := List.mem_filter.mpr ⟨ha, hq⟩
  rw [← hsame] at hmem
  exact (List.mem_filter.mp hmem).2

/-- **Beyond as many levels as there are items nothing new passes**, where a level that adds nothing
is the last one that could. -/
theorem passes_saturated {p : Nat → α → Bool}
    (hmono : ∀ n a, p n a = true → p (n + 1) a = true)
    (hlast : ∀ n, (∀ a ∈ as, p (n + 1) a = true → p n a = true) →
      ∀ a ∈ as, p (n + 2) a = true → p (n + 1) a = true)
    {n : Nat} (hn : as.length ≤ n) : ∀ a ∈ as, p n a = true → p as.length a = true := by
  have hle : ∀ {m n}, m ≤ n → ∀ a, p m a = true → p n a = true := by
    intro m n hmn a
    induction hmn with
    | refl => exact id
    | step _ ih => exact fun h => hmono _ a (ih h)
  have hcount : Monotone fun n => as.countP (p n) :=
    monotone_nat_of_le_succ fun n => List.countP_mono_left fun a _ => hmono n a
  have hstable : ∀ n, as.countP (p n) = as.countP (p (n + 1)) →
      as.countP (p (n + 1)) = as.countP (p (n + 2)) := by
    intro n heq
    refine Nat.le_antisymm (hcount (Nat.le_succ _)) (List.countP_mono_left fun a ha => ?_)
    exact hlast n (forall_of_countP_eq (hmono n) heq) a ha
  exact forall_of_countP_eq (hle hn)
    (Nat.stabilises_of_monotone hcount (fun _ => List.countP_le_length) hstable hn).symm

end Levels

/-! ## 2. Levels of user types -/

section Leaves

variable {scalar : Scalar → Bool} {udt udt' : String → Bool}

mutual

/-- Where more user types pass, more shapes do. -/
theorem leavesPass_mono (h : ∀ name, udt name = true → udt' name = true) :
    ∀ s, leavesPass scalar udt s = true → leavesPass scalar udt' s = true
  | .scalar _ s, hs => by simpa only [leavesPass] using hs
  | .counter _, _ => by simp only [leavesPass]
  | .list _ e, hs | .set _ e, hs => by
    simp only [leavesPass] at hs ⊢
    exact leavesPass_mono h e hs
  | .map _ k v, hs => by
    simp only [leavesPass, Bool.and_eq_true] at hs ⊢
    exact ⟨leavesPass_mono h k hs.1, leavesPass_mono h v hs.2⟩
  | .tuple _ es, hs => by
    simp only [leavesPass] at hs ⊢
    exact leavesPassAll_mono h es hs
  | .udt _ name, hs => by
    simp only [leavesPass] at hs ⊢
    exact h name hs

theorem leavesPassAll_mono (h : ∀ name, udt name = true → udt' name = true) :
    ∀ ss, leavesPassAll scalar udt ss = true → leavesPassAll scalar udt' ss = true
  | [], _ => by simp only [leavesPassAll]
  | s :: ss, hs => by
    simp only [leavesPassAll, Bool.and_eq_true] at hs ⊢
    exact ⟨leavesPass_mono h s hs.1, leavesPassAll_mono h ss hs.2⟩

end

end Leaves

/-- Whether all fields of a user type pass within some levels. -/
def passes (types : List UserType) (levels : Nat) (u : UserType) : Bool :=
  u.fields.all fun f => orderableWithin types levels f.shape

/-- Where the user types that pass at one level pass at another, so do the shapes of the level
after it. -/
theorem orderableWithin_succ_mono {m n : Nat}
    (h : ∀ u ∈ types, passes types m u = true → passes types n u = true) {s : Shape}
    (hs : orderableWithin types (m + 1) s = true) : orderableWithin types (n + 1) s = true := by
  rw [orderableWithin] at hs ⊢
  refine leavesPass_mono (fun name hname => ?_) s hs
  obtain ⟨u, hu, hpasses⟩ := (Option.any_eq_true _ _).mp hname
  exact (Option.any_eq_true _ _).mpr ⟨u, hu, h u (List.mem_of_find?_eq_some hu) hpasses⟩

/-- What passes within some levels passes within more. -/
theorem orderableWithin_mono : ∀ (levels : Nat) (s : Shape),
    orderableWithin types levels s = true → orderableWithin types (levels + 1) s = true
  | 0, s, h => by cases h
  | levels + 1, s, h => by
    refine orderableWithin_succ_mono (fun u _ hu => ?_) h
    refine List.all_eq_true.mpr fun f hf => ?_
    exact orderableWithin_mono levels f.shape (List.all_eq_true.mp hu f hf)

theorem passes_mono (levels : Nat) (u : UserType) (h : passes types levels u = true) :
    passes types (levels + 1) u = true :=
  List.all_eq_true.mpr fun f hf => orderableWithin_mono levels f.shape (List.all_eq_true.mp h f hf)

/-- **Beyond as many levels as there are user types no shape is new.** -/
theorem orderableWithin_saturated {s : Shape}
    (h : orderableWithin types (types.length + 2) s = true) :
    orderableWithin types (types.length + 1) s = true := by
  refine orderableWithin_succ_mono
    (passes_saturated passes_mono (fun n hnone u _ hu => ?_) (Nat.le_succ types.length)) h
  refine List.all_eq_true.mpr fun f hf => ?_
  exact orderableWithin_succ_mono hnone (List.all_eq_true.mp hu f hf)

/-! ## 3. Data types -/

section Shapes

variable {scalar : Scalar → Bool} {passing : String → Bool} {udt : String → Option DataType}

theorem scalarDataType?_of_scalarType {s : Scalar} {text : String} (h : scalarType s = .ok text) :
    ∃ t, scalarDataType? s = some t := by
  cases s <;> first | exact ⟨_, rfl⟩ | cases h

mutual

/-- A shape with a built-in type has a data type if its user types have. -/
theorem shapeDataType?_of_nativeType
    (hudt : ∀ name, passing name = true → ∃ t, udt name = some t) :
    ∀ (s : Shape) {text : String}, nativeType types s = .ok text →
      leavesPass scalar passing s = true → ∃ t, shapeDataType? udt s = some t
  | .scalar _ s, _, h, _ => by
    simp only [nativeType] at h
    simpa only [shapeDataType?] using scalarDataType?_of_scalarType h
  | .counter _, _, _, _ => ⟨.bigint, by simp only [shapeDataType?]⟩
  | .list _ e, _, h, hpass => by
    simp only [nativeType, leavesPass] at h hpass
    obtain ⟨_, he, -⟩ := Except.bind_eq_ok_iff.mp h
    obtain ⟨t, ht⟩ := shapeDataType?_of_nativeType hudt e he hpass
    exact ⟨.list t, by simp only [shapeDataType?, ht, Option.map_some]⟩
  | .set _ e, _, h, hpass => by
    simp only [nativeType, leavesPass] at h hpass
    obtain ⟨_, -, h⟩ := Except.bind_eq_ok_iff.mp h
    obtain ⟨_, he, -⟩ := Except.bind_eq_ok_iff.mp h
    obtain ⟨t, ht⟩ := shapeDataType?_of_nativeType hudt e he hpass
    exact ⟨.set t, by simp only [shapeDataType?, ht, Option.map_some]⟩
  | .map _ k v, _, h, hpass => by
    simp only [nativeType, leavesPass, Bool.and_eq_true] at h hpass
    obtain ⟨_, -, h⟩ := Except.bind_eq_ok_iff.mp h
    obtain ⟨_, hk, h⟩ := Except.bind_eq_ok_iff.mp h
    obtain ⟨_, hv, -⟩ := Except.bind_eq_ok_iff.mp h
    obtain ⟨t, ht⟩ := shapeDataType?_of_nativeType hudt k hk hpass.1
    obtain ⟨t', ht'⟩ := shapeDataType?_of_nativeType hudt v hv hpass.2
    exact ⟨.map t t', by simp only [shapeDataType?, ht, ht']; rfl⟩
  | .tuple _ es, _, h, hpass => by
    simp only [nativeType, leavesPass] at h hpass
    split at h
    · cases h
    · obtain ⟨_, hes, -⟩ := Except.map_eq_ok_iff.mp h
      obtain ⟨ts, hts⟩ := shapeDataTypes?_of_nativeTypes hudt es hes hpass
      exact ⟨.tuple ts, by simp only [shapeDataType?, hts, Option.map_some]⟩
  | .udt _ name, _, _, hpass => by
    simp only [leavesPass] at hpass
    simpa only [shapeDataType?] using hudt name hpass

theorem shapeDataTypes?_of_nativeTypes
    (hudt : ∀ name, passing name = true → ∃ t, udt name = some t) :
    ∀ (ss : List Shape) {texts : List String}, nativeTypes types ss = .ok texts →
      leavesPassAll scalar passing ss = true → ∃ ts, shapeDataTypes? udt ss = some ts
  | [], _, _, _ => ⟨[], by simp only [shapeDataTypes?]⟩
  | s :: ss, _, h, hpass => by
    simp only [nativeTypes, leavesPassAll, Bool.and_eq_true] at h hpass
    obtain ⟨_, hs, h⟩ := Except.bind_eq_ok_iff.mp h
    obtain ⟨_, hss, -⟩ := Except.bind_eq_ok_iff.mp h
    obtain ⟨t, ht⟩ := shapeDataType?_of_nativeType hudt s hs hpass.1
    obtain ⟨ts, hts⟩ := shapeDataTypes?_of_nativeTypes hudt ss hss hpass.2
    exact ⟨t :: ts, by simp only [shapeDataTypes?, ht, hts]; rfl⟩

end

end Shapes

/-- Steps that all give something give a row. -/
theorem exists_mapM_eq_some {α β : Type} {f : α → Option β} {as : List α}
    (h : ∀ a ∈ as, ∃ b, f a = some b) : ∃ bs, as.mapM f = some bs := by
  simpa only [← Option.isSome_iff_exists, Option.isSome_mapM_iff] using h

/-- **What passes within some levels has a data type found within as many**, where all fields of
user types have built-in types. -/
theorem shapeDataType?_of_orderable (module : String)
    (hfields : ∀ u ∈ types, ∀ f ∈ u.fields, ∃ text, nativeType types f.shape = .ok text)
    (levels : Nat) {s : Shape} {text : String} (hnative : nativeType types s = .ok text)
    (h : orderableWithin types levels s = true) :
    ∃ t, shapeDataType? (userDataTypeWithin? module types levels) s = some t := by
  induction levels generalizing s text with
  | zero => cases h
  | succ levels ih =>
    rw [orderableWithin] at h
    refine shapeDataType?_of_nativeType (fun name hname => ?_) s hnative h
    obtain ⟨u, hu, hpasses⟩ := (Option.any_eq_true _ _).mp hname
    have hfound : ∀ f ∈ u.fields, ∃ field,
        (shapeDataType? (userDataTypeWithin? module types levels) f.shape).map
          (fun t => (f.column, t)) = some field := by
      intro f hf
      obtain ⟨text, htext⟩ := hfields u (List.mem_of_find?_eq_some hu) f hf
      obtain ⟨t, ht⟩ := ih htext (List.all_eq_true.mp hpasses f hf)
      exact ⟨(f.column, t), by rw [ht, Option.map_some]⟩
    obtain ⟨fields, hall⟩ := exists_mapM_eq_some hfound
    refine ⟨.record (module ++ "::" ++ u.name) fields, ?_⟩
    rw [userDataTypeWithin?, hu, Option.bind_eq_bind, Option.bind_some, hall]
    rfl

/-- **An orderable shape with a built-in type has a data type.** -/
theorem dataType?_of_orderable {d : Declaration} {registry : Registry} {defaults : Defaults}
    {schema : Schema} (hload : load d registry defaults = .ok schema) (module : String) {s : Shape}
    {text : String} (hnative : nativeType schema.userTypes s = .ok text)
    (h : isOrderable schema.userTypes s = true) : ∃ t, schema.dataType? module s = some t :=
  shapeDataType?_of_orderable module (resolvable_of_load hload).typeFields _ hnative
    (orderableWithin_saturated h)

end WideColumn.Schema
