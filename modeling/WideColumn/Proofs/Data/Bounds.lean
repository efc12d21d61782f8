/-
# Which types have bounds

A range on a column has two bounds, and data can bound it only if their stored values are strictly
in order.  Data of every type are ordered, but stored maps and values of user types are not: no two
of them can be compared, be they equal or not.

That settles it for every shape.  A scalar has two values in order; of lists and of sets the empty
one comes before every other; and a tuple is compared by its first item before anything else.  So a
shape is BOUNDABLE unless it is a map or a user type, or a tuple that begins with one.  Data in
order can be found for every boundable shape (`exists_bounds_of_isBoundable`), and none at all for
any other (`compare?_of_not_isBoundable`).
-/
import WideColumn.Application
import WideColumn.Proofs.Data.RoundTrip
import WideColumn.Proofs.Except

namespace WideColumn

open WideColumn.Calendar WideColumn.Network WideColumn.Number

/-! ## 1. Data of every type -/

namespace Data

/-- Data that can bound a range of a type: of the type, in order, and stored in order. -/
structure Bounds (t : DataType) (a b : Data) : Prop where
  lower : a.HasType t
  upper : b.HasType t
  ordered : a.order b = .lt
  stored : a.encode.compare? b.encode = some .lt

/-- A day, and the one after it. -/
theorem exists_dates : ∃ a b : Date, a.order b = .lt :=
  ⟨⟨1970, 1, 1, by decide⟩, ⟨1970, 1, 2, by decide⟩, by decide⟩

theorem exists_times : ∃ a b : Time, a.order b = .lt :=
  ⟨⟨0, 0, by decide, by decide⟩, ⟨1, 0, by decide, by decide⟩, by decide⟩

theorem exists_timestamps : ∃ a b : Timestamp, a.order b = .lt := by
  obtain ⟨d, d', hd⟩ := exists_dates
  obtain ⟨t, -⟩ := exists_times
  exact ⟨⟨d, t⟩, ⟨d', t⟩, by rw [Timestamp.order, hd]; rfl⟩

/-- Data without parts that are no floating-point numbers are stored in their order. -/
theorem compare?_encode {t : DataType} {a b : Data} (ha : a.HasType t) (hb : b.HasType t)
    (hscalar : t.isScalar = true) (hfloat : t ≠ .float) (hdouble : t ≠ .double) :
    a.encode.compare? b.encode = some (a.order b) := by
  cases ha <;> first | (cases hscalar; done) | cases hb
  case float | double => contradiction
  all_goals simp only [encode, Value.compare?, order]

/-- **Every type without parts has bounds.** -/
theorem exists_bounds_of_isScalar {t : DataType} (h : t.isScalar = true) :
    ∃ a b, Bounds t a b := by
  by_cases hfloat : t = .float
  · subst hfloat
    exact ⟨.float ⟨0⟩, .float ⟨1⟩, .float _, .float _, by simp only [order]; decide,
      by simp only [encode, Value.compare?]; decide⟩
  by_cases hdouble : t = .double
  · subst hdouble
    exact ⟨.double ⟨0⟩, .double ⟨1⟩, .double _, .double _, by simp only [order]; decide,
      by simp only [encode, Value.compare?]; decide⟩
  obtain ⟨a, b, ha, hb, hab⟩ : ∃ a b, HasType a t ∧ HasType b t ∧ a.order b = .lt := by
    cases t with
    | text => exact ⟨_, _, .text "", .text "a", by simp only [order]; decide⟩
    | boolean => exact ⟨_, _, .boolean false, .boolean true, by simp only [order]; decide⟩
    | tinyint => exact ⟨_, _, .tinyint 0, .tinyint 1, by simp only [order]; decide⟩
    | smallint => exact ⟨_, _, .smallint 0, .smallint 1, by simp only [order]; decide⟩
    | int => exact ⟨_, _, .int 0, .int 1, by simp only [order]; decide⟩
    | bigint => exact ⟨_, _, .bigint 0, .bigint 1, by simp only [order]; decide⟩
    | blob => exact ⟨_, _, .blob [], .blob [0], by simp only [order]; decide⟩
    | uuid => exact ⟨_, _, .uuid ⟨0⟩, .uuid ⟨1⟩, by simp only [order]; decide⟩
    | inet => exact ⟨_, _, .inet (.v4 0), .inet (.v4 1), by simp only [order]; decide⟩
    | timestamp =>
      obtain ⟨a, b, hab⟩ := exists_timestamps
      exact ⟨_, _, .timestamp a, .timestamp b, by simpa only [order] using hab⟩
    | date =>
      obtain ⟨a, b, hab⟩ := exists_dates
      exact ⟨_, _, .date a, .date b, by simpa only [order] using hab⟩
    | time =>
      obtain ⟨a, b, hab⟩ := exists_times
      exact ⟨_, _, .time a, .time b, by simpa only [order] using hab⟩
    | float => exact absurd rfl hfloat
    | double => exact absurd rfl hdouble
    | option | list | set | map | tuple | record => cases h
  exact ⟨a, b, ha, hb, hab, by rw [compare?_encode ha hb h hfloat hdouble, hab]⟩

theorem exists_of_isScalar {t : DataType} (h : t.isScalar = true) : ∃ d, HasType d t := by
  obtain ⟨a, b, hab⟩ := exists_bounds_of_isScalar h
  exact ⟨a, hab.lower⟩

mutual

/-- **Every type has data.** -/
theorem exists_hasType : ∀ t : DataType, ∃ d, HasType d t
  | .option t => ⟨.absent, .absent t⟩
  | .list t => ⟨.list [], .list nofun⟩
  | .set t => ⟨.set [], .set nofun .nil⟩
  | .map k v => ⟨.map [], .map nofun nofun .nil⟩
  | .tuple ts => by
    obtain ⟨ds, hlength, hds⟩ := exists_hasTypes ts
    exact ⟨.tuple ds, .tuple hlength hds⟩
  | .record name fs => by
    obtain ⟨ds, hnames, hds⟩ := exists_fields fs
    exact ⟨.record ds, .record hnames hds⟩
  | .text | .boolean | .tinyint | .smallint | .int | .bigint | .float | .double | .blob | .uuid
  | .timestamp | .date | .time | .inet => exists_of_isScalar rfl

theorem exists_hasTypes : ∀ ts : List DataType,
    ∃ ds : List Data, ds.length = ts.length ∧ ∀ p ∈ ds.zip ts, HasType p.1 p.2
  | [] => ⟨[], rfl, nofun⟩
  | t :: ts => by
    obtain ⟨d, hd⟩ := exists_hasType t
    obtain ⟨ds, hlength, hds⟩ := exists_hasTypes ts
    exact ⟨d :: ds, congrArg (· + 1) hlength, List.forall_mem_cons.mpr ⟨hd, hds⟩⟩

theorem exists_fields : ∀ fs : List (String × DataType),
    ∃ ds : List (String × Data), ds.map (·.1) = fs.map (·.1)
      ∧ ∀ p ∈ ds.zip fs, HasType p.1.2 p.2.2
  | [] => ⟨[], rfl, nofun⟩
  | (n, t) :: fs => by
    obtain ⟨d, hd⟩ := exists_hasType t
    obtain ⟨ds, hnames, hds⟩ := exists_fields fs
    exact ⟨(n, d) :: ds, congrArg (n :: ·) hnames, List.forall_mem_cons.mpr ⟨hd, hds⟩⟩

end

/-! ## 2. Bounds of types with parts -/

namespace Bounds

variable {t : DataType} {a b d : Data}

/-- The empty list comes before every other. -/
theorem list (h : d.HasType t) : Bounds (.list t) (.list []) (.list [d]) where
  lower := .list nofun
  upper := .list (List.forall_mem_singleton.mpr h)
  ordered := by simp only [order, orderItems]
  stored := by simp only [encode, encodeItems, Value.compare?, Value.compareItems?]

theorem set (h : d.HasType t) : Bounds (.set t) (.set []) (.set [d]) where
  lower := .set nofun .nil
  upper := .set (List.forall_mem_singleton.mpr h) (List.pairwise_singleton _ _)
  ordered := by simp only [order, orderItems]
  stored := by simp only [encode, encodeItems, Value.compare?, Value.compareItems?]

/-- Tuples are in order where their first items are. -/
theorem tuple {ds : List Data} {ts : List DataType} (h : Bounds t a b)
    (hlength : ds.length = ts.length) (hds : ∀ p ∈ ds.zip ts, HasType p.1 p.2) :
    Bounds (.tuple (t :: ts)) (.tuple (a :: ds)) (.tuple (b :: ds)) where
  lower := .tuple (congrArg (· + 1) hlength) (List.forall_mem_cons.mpr ⟨h.lower, hds⟩)
  upper := .tuple (congrArg (· + 1) hlength) (List.forall_mem_cons.mpr ⟨h.upper, hds⟩)
  ordered := by simp only [order, orderItems, h.ordered, Ordering.then]
  stored := by simp only [encode, encodeItems, Value.compare?, Value.compareItems?, h.stored]

end Bounds

end Data

/-! ## 3. Shapes -/

namespace Shape

mutual

/-- Whether data of the shape can bound a range. -/
def isBoundable : Shape → Bool
  | scalar .. | counter _ | list .. | set .. => true
  | map .. | udt .. => false
  | tuple _ es => firstIsBoundable es

/-- Whether there is a first shape, and its data can bound a range. -/
def firstIsBoundable : List Shape → Bool
  | [] => false
  | e :: _ => isBoundable e

end

end Shape

namespace Schema

open Data

variable {types : List UserType} {udt : String → Option DataType}

theorem shapeDataType?_of_scalar? {s : Shape} {c : Scalar} (h : s.scalar? = some c) :
    shapeDataType? udt s = scalarDataType? c := by
  cases s <;> cases h
  rw [shapeDataType?]

theorem shapeDataType?_of_udtName? {s : Shape} {name : String} (h : s.udtName? = some name) :
    shapeDataType? udt s = udt name := by
  cases s <;> cases h
  rw [shapeDataType?]

theorem isScalar_of_scalarDataType? {s : Scalar} {t : DataType}
    (h : scalarDataType? s = some t) : t.isScalar = true := by
  cases s <;> cases h <;> rfl

mutual

/-- **Data of a boundable shape can bound a range.** -/
theorem exists_bounds_of_isBoundable : ∀ (s : Shape) {t : DataType}, s.isBoundable = true →
    shapeDataType? udt s = some t → ∃ a b, Bounds t a b
  | .scalar _ s, t, _, ht => by
    simp only [shapeDataType?] at ht
    exact exists_bounds_of_isScalar (isScalar_of_scalarDataType? ht)
  | .counter _, t, _, ht => by
    simp only [shapeDataType?, Option.some.injEq] at ht
    subst ht
    exact exists_bounds_of_isScalar rfl
  | .list _ e, t, _, ht => by
    simp only [shapeDataType?, Option.map_eq_some_iff] at ht
    obtain ⟨t', -, rfl⟩ := ht
    obtain ⟨d, hd⟩ := exists_hasType t'
    exact ⟨_, _, .list hd⟩
  | .set _ e, t, _, ht => by
    simp only [shapeDataType?, Option.map_eq_some_iff] at ht
    obtain ⟨t', -, rfl⟩ := ht
    obtain ⟨d, hd⟩ := exists_hasType t'
    exact ⟨_, _, .set hd⟩
  | .map .., _, h, _ | .udt .., _, h, _ => by
    simp only [Shape.isBoundable, Bool.false_eq_true] at h
  | .tuple _ es, t, h, ht => by
    simp only [shapeDataType?, Option.map_eq_some_iff] at ht
    obtain ⟨ts, hts, rfl⟩ := ht
    simp only [Shape.isBoundable] at h
    exact exists_bounds_of_firstIsBoundable es h hts

theorem exists_bounds_of_firstIsBoundable : ∀ (es : List Shape) {ts : List DataType},
    Shape.firstIsBoundable es = true → shapeDataTypes? udt es = some ts →
      ∃ a b, Bounds (.tuple ts) a b
  | [], _, h, _ => by simp only [Shape.firstIsBoundable, Bool.false_eq_true] at h
  | e :: es, ts, h, hts => by
    simp only [shapeDataTypes?, Option.bind_eq_bind, Option.bind_eq_some_iff] at hts
    obtain ⟨t, ht, ts', -, hts⟩ := hts
    cases hts
    simp only [Shape.firstIsBoundable] at h
    obtain ⟨a, b, hab⟩ := exists_bounds_of_isBoundable e h ht
    obtain ⟨ds, hlength, hds⟩ := exists_hasTypes ts'
    exact ⟨_, _, hab.tuple hlength hds⟩

end

mutual

/-- **Stored data of any other shape are never in order.** -/
theorem compare?_of_not_isBoundable
    (hudt : ∀ name t, udt name = some t → ∃ n fs, t = .record n fs) :
    ∀ (s : Shape) {text : String} {t : DataType} {a b : Data}, s.isBoundable = false →
      nativeType types s = .ok text → shapeDataType? udt s = some t → a.HasType t → b.HasType t →
        a.encode.compare? b.encode = none
  | .scalar .., _, _, _, _, h, _, _, _, _ | .counter _, _, _, _, _, h, _, _, _, _
  | .list .., _, _, _, _, h, _, _, _, _ | .set .., _, _, _, _, h, _, _, _, _ => by
    simp only [Shape.isBoundable, Bool.true_eq_false] at h
  | .map _ k v, _, t, a, b, _, _, ht, ha, hb => by
    simp only [shapeDataType?, Option.bind_eq_bind, Option.bind_eq_some_iff] at ht
    obtain ⟨tk, -, tv, -, ht⟩ := ht
    cases ht
    cases hb
    rw [encode, Value.compare?_map]
  | .udt _ name, _, t, a, b, _, _, ht, ha, hb => by
    simp only [shapeDataType?] at ht
    obtain ⟨n, fs, rfl⟩ := hudt name t ht
    cases hb
    rw [encode, Value.compare?_udt]
  | .tuple _ es, _, t, a, b, h, hnative, ht, ha, hb => by
    simp only [shapeDataType?, Option.map_eq_some_iff] at ht
    obtain ⟨ts, hts, rfl⟩ := ht
    simp only [Shape.isBoundable] at h
    simp only [nativeType] at hnative
    split at hnative
    · cases hnative
    · rename_i hfew
      have hsome : es ≠ [] := by
        rintro rfl
        exact hfew rfl
      obtain ⟨texts, htexts, -⟩ := Except.map_eq_ok_iff.mp hnative
      cases ha with
      | tuple hlength has =>
        cases hb with
        | tuple hlength' hbs =>
          simp only [encode, Value.compare?]
          exact compareItems?_of_not_firstIsBoundable hudt es hsome h htexts hts hlength
            hlength' has hbs

theorem compareItems?_of_not_firstIsBoundable
    (hudt : ∀ name t, udt name = some t → ∃ n fs, t = .record n fs) :
    ∀ (es : List Shape) {texts : List String} {ts : List DataType} {as bs : List Data},
      es ≠ [] → Shape.firstIsBoundable es = false → nativeTypes types es = .ok texts →
      shapeDataTypes? udt es = some ts → as.length = ts.length → bs.length = ts.length →
      (∀ p ∈ as.zip ts, HasType p.1 p.2) → (∀ p ∈ bs.zip ts, HasType p.1 p.2) →
        Value.compareItems? (encodeItems as) (encodeItems bs) = none
  | [], _, _, _, _, hne, _, _, _, _, _, _, _ => absurd rfl hne
  | e :: es, _, _, as, bs, _, h, hnative, hts, hlength, hlength', has, hbs => by
    simp only [shapeDataTypes?, Option.bind_eq_bind, Option.bind_eq_some_iff] at hts
    obtain ⟨t, ht, ts, -, hts⟩ := hts
    cases hts
    simp only [Shape.firstIsBoundable] at h
    simp only [nativeTypes] at hnative
    obtain ⟨text, htext, -⟩ := Except.bind_eq_ok_iff.mp hnative
    obtain ⟨a, as, rfl⟩ := List.exists_cons_of_length_eq_add_one hlength
    obtain ⟨b, bs, rfl⟩ := List.exists_cons_of_length_eq_add_one hlength'
    have hfirst := compare?_of_not_isBoundable hudt e h htext ht
      (has (a, t) List.mem_cons_self) (hbs (b, t) List.mem_cons_self)
    simp only [encodeItems, Value.compareItems?, hfirst]

end

/-- The data type of a user type is that of a record. -/
theorem isRecord_of_userDataTypeWithin? {module name : String} {levels : Nat} {t : DataType}
    (h : userDataTypeWithin? module types levels name = some t) :
    ∃ n fs, t = .record n fs := by
  cases levels with
  | zero => cases h
  | succ levels =>
    simp only [userDataTypeWithin?, Option.bind_eq_bind, Option.bind_eq_some_iff] at h
    obtain ⟨u, -, fs, -, h⟩ := h
    cases h
    exact ⟨_, _, rfl⟩

end Schema

end WideColumn
