/-
# Stored data keep their order

Data have a natural order, by which sets are kept and by which a program tells the lower of two
bounds.  Stored values have another, which is partial.  On the types that are made of scalars by
lists, sets and tuples, to any depth, floating-point numbers apart, they are ONE ORDER
(`alike_of_ordered`).

The natural order is told here once more, by what decides it (`Precedes`): numbers by their size,
texts by their bytes, moments from the larger unit to the smaller, rows by the first items that
differ, and a row before every longer one that it begins.  So it is known of the order of stored
values that it is this one, and not only that it agrees with how data are compared.

Floating-point numbers are out because a NaN has a place among data and none among stored values,
and optional data because absence is stored as null, which is in order with nothing.
-/
import WideColumn.Proofs.Data.Bounds
import WideColumn.Proofs.Key.Range
import WideColumn.Proofs.Query.Call
import WideColumn.Proofs.Value.TextOrder

namespace WideColumn

open WideColumn.Calendar WideColumn.Network WideColumn.Key

/-! ## 1. The natural order -/

/-- Years decide before months, and months before days. -/
def Calendar.Date.Precedes (a b : Date) : Prop :=
  a.year < b.year
    ∨ a.year = b.year ∧ (a.month < b.month ∨ a.month = b.month ∧ a.day < b.day)

/-- Seconds decide before fractions. -/
def Calendar.Time.Precedes (a b : Time) : Prop :=
  a.second < b.second ∨ a.second = b.second ∧ a.nano < b.nano

/-- Dates decide before times. -/
def Calendar.Timestamp.Precedes (a b : Timestamp) : Prop :=
  a.date.Precedes b.date ∨ a.date = b.date ∧ a.time.Precedes b.time

/-- Addresses of version four come before those of version six. -/
inductive Network.Address.Precedes : Address → Address → Prop
  | v4 {a b : BitVec 32} (h : a < b) : Precedes (v4 a) (v4 b)
  | versions (a : BitVec 32) (b : BitVec 128) : Precedes (v4 a) (v6 b)
  | v6 {a b : BitVec 128} (h : a < b) : Precedes (v6 a) (v6 b)

namespace Data

/-- **The natural order of data** of one type. -/
inductive Precedes : Data → Data → Prop
  | text {s t : String} (h : Value.bytesOf s < Value.bytesOf t) : Precedes (text s) (text t)
  | boolean : Precedes (boolean false) (boolean true)
  | tinyint {m n : Int8} (h : m < n) : Precedes (tinyint m) (tinyint n)
  | smallint {m n : Int16} (h : m < n) : Precedes (smallint m) (smallint n)
  | int {m n : Int32} (h : m < n) : Precedes (int m) (int n)
  | bigint {m n : Int64} (h : m < n) : Precedes (bigint m) (bigint n)
  | blob {as bs : List UInt8} (h : as < bs) : Precedes (blob as) (blob bs)
  | uuid {u v : Uuid} (h : u.bits < v.bits) : Precedes (uuid u) (uuid v)
  | timestamp {s t : Timestamp} (h : s.Precedes t) : Precedes (timestamp s) (timestamp t)
  | date {d e : Date} (h : d.Precedes e) : Precedes (date d) (date e)
  | time {s t : Time} (h : s.Precedes t) : Precedes (time s) (time t)
  | inet {a b : Address} (h : a.Precedes b) : Precedes (inet a) (inet b)
  /-- The first items that differ decide, and a row comes before any longer one it begins. -/
  | list {as bs : List Data} (h : List.Lex Precedes as bs) : Precedes (list as) (list bs)
  | set {as bs : List Data} (h : List.Lex Precedes as bs) : Precedes (set as) (set bs)
  | tuple {as bs : List Data} (h : List.Lex Precedes as bs) : Precedes (tuple as) (tuple bs)

end Data

/-- **An ordered type**: a scalar that is no floating-point number, or lists, sets and tuples of
ordered types. -/
inductive DataType.Ordered : DataType → Prop
  | scalar {t : DataType} (h : t.isScalar = true) (hfloat : t ≠ .float) (hdouble : t ≠ .double) :
    Ordered t
  | list {t : DataType} (h : Ordered t) : Ordered (list t)
  | set {t : DataType} (h : Ordered t) : Ordered (set t)
  | tuple {ts : List DataType} (h : ∀ t ∈ ts, Ordered t) : Ordered (tuple ts)

/-! ## 2. Leaves -/

theorem Calendar.Date.order_eq_lt_iff {a b : Date} : a.order b = .lt ↔ a.Precedes b := by
  simp only [Date.order, Date.Precedes, Ordering.then_eq_lt, Ordering.then_eq_eq,
    Int.compare_eq_lt, Int.compare_eq_eq, Nat.compare_eq_lt, Nat.compare_eq_eq]
  omega

theorem Calendar.Time.order_eq_lt_iff {a b : Time} : a.order b = .lt ↔ a.Precedes b := by
  simp only [Time.order, Time.Precedes, Ordering.then_eq_lt, Nat.compare_eq_lt,
    Nat.compare_eq_eq]

theorem Calendar.Timestamp.order_eq_lt_iff {a b : Timestamp} :
    a.order b = .lt ↔ a.Precedes b := by
  simp only [Timestamp.order, Timestamp.Precedes, Ordering.then_eq_lt, Date.order_eq_lt_iff,
    Date.order_eq_iff, Time.order_eq_lt_iff]

theorem Network.Address.order_eq_lt_iff {a b : Address} : a.order b = .lt ↔ a.Precedes b := by
  constructor
  · intro h
    cases a <;> cases b <;> simp only [Address.order, Nat.compare_eq_lt, reduceCtorEq] at h
    · exact .v4 (BitVec.lt_def.mpr h)
    · exact .versions _ _
    · exact .v6 (BitVec.lt_def.mpr h)
  · rintro (h | _ | h)
    · exact Nat.compare_eq_lt.mpr (BitVec.lt_def.mp h)
    · rfl
    · exact Nat.compare_eq_lt.mpr (BitVec.lt_def.mp h)

namespace Data

/-- The natural order of data without parts. -/
theorem order_eq_lt_iff_of_isScalar {t : DataType} {a b : Data} (ha : a.HasType t)
    (hb : b.HasType t) (h : t.isScalar = true) (hfloat : t ≠ .float) (hdouble : t ≠ .double) :
    a.order b = .lt ↔ a.Precedes b := by
  cases ha <;> first | (cases h; done) | cases hb
  case float | double => contradiction
  all_goals simp only [order]
  case text => exact Value.orderText_eq_lt_iff.trans ⟨.text, by rintro ⟨⟩; assumption⟩
  case boolean a b =>
    constructor
    · intro h
      cases a <;> cases b <;> first | exact .boolean | cases h
    · rintro ⟨⟩
      rfl
  case tinyint =>
    rw [Int.compare_eq_lt, ← Int8.lt_iff_toInt_lt]
    exact ⟨.tinyint, by rintro ⟨⟩; assumption⟩
  case smallint =>
    rw [Int.compare_eq_lt, ← Int16.lt_iff_toInt_lt]
    exact ⟨.smallint, by rintro ⟨⟩; assumption⟩
  case int =>
    rw [Int.compare_eq_lt, ← Int32.lt_iff_toInt_lt]
    exact ⟨.int, by rintro ⟨⟩; assumption⟩
  case bigint =>
    rw [Int.compare_eq_lt, ← Int64.lt_iff_toInt_lt]
    exact ⟨.bigint, by rintro ⟨⟩; assumption⟩
  case blob => exact Value.orderBytes_eq_lt_iff.trans ⟨.blob, by rintro ⟨⟩; assumption⟩
  case uuid =>
    rw [Uuid.order, Nat.compare_eq_lt, ← BitVec.lt_def]
    exact ⟨.uuid, by rintro ⟨⟩; assumption⟩
  case timestamp => exact Timestamp.order_eq_lt_iff.trans ⟨.timestamp, by rintro ⟨⟩; assumption⟩
  case date => exact Date.order_eq_lt_iff.trans ⟨.date, by rintro ⟨⟩; assumption⟩
  case time => exact Time.order_eq_lt_iff.trans ⟨.time, by rintro ⟨⟩; assumption⟩
  case inet => exact Address.order_eq_lt_iff.trans ⟨.inet, by rintro ⟨⟩; assumption⟩

theorem order_eq_eq_iff_of_isScalar {t : DataType} {a b : Data} (ha : a.HasType t)
    (hb : b.HasType t) (h : t.isScalar = true) (hfloat : t ≠ .float) (hdouble : t ≠ .double) :
    a.order b = .eq ↔ a = b := by
  cases ha <;> first | (cases h; done) | cases hb
  case float | double => contradiction
  all_goals
    simp only [order, Std.LawfulEqCmp.compare_eq_iff_eq, Int64.toInt_inj, Int32.toInt_inj,
      Int16.toInt_inj, Int8.toInt_inj, Value.orderBool_eq_iff, Value.orderText_eq_iff,
      Value.orderBytes_eq_iff, Date.order_eq_iff, Time.order_eq_iff, Timestamp.order_eq_iff,
      Address.order_eq_iff, Uuid.order_eq_iff, text.injEq, boolean.injEq, tinyint.injEq,
      smallint.injEq, int.injEq, bigint.injEq, blob.injEq, uuid.injEq, timestamp.injEq, date.injEq,
      time.injEq, inet.injEq]

/-! ## 3. Rows -/

/-- **Two data are ordered alike** if their stored values compare as they do, and both as the
natural order says. -/
structure Alike (a b : Data) : Prop where
  stored : a.encode.compare? b.encode = some (a.order b)
  lt_iff : a.order b = .lt ↔ a.Precedes b
  eq_iff : a.order b = .eq ↔ a = b

/-- The same for rows of items. -/
structure AlikeItems (as bs : List Data) : Prop where
  stored : Value.compareItems? (encodeItems as) (encodeItems bs) = some (orderItems as bs)
  lt_iff : orderItems as bs = .lt ↔ List.Lex Precedes as bs
  eq_iff : orderItems as bs = .eq ↔ as = bs

/-- Rows are ordered alike if their items are, place by place. -/
theorem alikeItems_of_forall : ∀ {as bs : List Data}, (∀ p ∈ as.zip bs, Alike p.1 p.2) →
    AlikeItems as bs
  | [], [], _ => ⟨by simp [encodeItems, Value.compareItems?, orderItems], by simp [orderItems],
      by simp [orderItems]⟩
  | [], _ :: _, _ => ⟨by simp [encodeItems, Value.compareItems?, orderItems], by simp [orderItems],
      by simp [orderItems]⟩
  | _ :: _, [], _ => ⟨by simp [encodeItems, Value.compareItems?, orderItems], by simp [orderItems],
      by simp [orderItems]⟩
  | a :: as, b :: bs, h => by
    rw [List.zip_cons_cons, List.forall_mem_cons] at h
    obtain ⟨hfirst, hrest⟩ := h
    have ih := alikeItems_of_forall hrest
    refine ⟨?_, ?_, ?_⟩
    · simp only [encodeItems, Value.compareItems?, orderItems, hfirst.stored, ih.stored]
      cases a.order b <;> rfl
    · rw [orderItems, Ordering.then_eq_lt, hfirst.lt_iff, hfirst.eq_iff, ih.lt_iff,
        List.cons_lex_cons_iff]
    · rw [orderItems, Ordering.then_eq_eq, hfirst.eq_iff, ih.eq_iff, List.cons.injEq]

variable {as bs : List Data}

theorem AlikeItems.list (h : AlikeItems as bs) : Alike (list as) (list bs) where
  stored := by simp only [encode, Value.compare?, order, h.stored]
  lt_iff := by
    simp only [order]
    exact h.lt_iff.trans ⟨.list, fun | .list h => h⟩
  eq_iff := by simp only [order, h.eq_iff, list.injEq]

theorem AlikeItems.set (h : AlikeItems as bs) : Alike (set as) (set bs) where
  stored := by simp only [encode, Value.compare?, order, h.stored]
  lt_iff := by
    simp only [order]
    exact h.lt_iff.trans ⟨.set, fun | .set h => h⟩
  eq_iff := by simp only [order, h.eq_iff, set.injEq]

theorem AlikeItems.tuple (h : AlikeItems as bs) : Alike (tuple as) (tuple bs) where
  stored := by simp only [encode, Value.compare?, order, h.stored]
  lt_iff := by
    simp only [order]
    exact h.lt_iff.trans ⟨.tuple, fun | .tuple h => h⟩
  eq_iff := by simp only [order, h.eq_iff, tuple.injEq]

/-! ## 4. Types -/

/-- Slots at one place of two tuples are of one type. -/
theorem exists_type_of_mem_zip {α τ : Type} : ∀ {as bs : List α} {ts : List τ},
    as.length = ts.length → bs.length = ts.length → ∀ p ∈ as.zip bs,
      ∃ t ∈ ts, (p.1, t) ∈ as.zip ts ∧ (p.2, t) ∈ bs.zip ts
  | [], _, _, _, _, _, hp => by cases hp
  | _ :: _, [], _, _, _, _, hp => by cases hp
  | a :: as, b :: bs, t :: ts, has, hbs, p, hp => by
    rw [List.zip_cons_cons, List.mem_cons] at hp
    rcases hp with rfl | hp
    · exact ⟨t, List.mem_cons_self, List.mem_cons_self, List.mem_cons_self⟩
    · obtain ⟨t', ht', hleft, hright⟩ :=
        exists_type_of_mem_zip (Nat.succ.inj has) (Nat.succ.inj hbs) p hp
      exact ⟨t', List.mem_cons_of_mem t ht', List.mem_cons_of_mem _ hleft,
        List.mem_cons_of_mem _ hright⟩

/-- **Data of an ordered type are ordered alike.** -/
theorem alike_of_ordered {t : DataType} (ht : t.Ordered) :
    ∀ {a b : Data}, a.HasType t → b.HasType t → Alike a b := by
  induction ht with
  | scalar h hfloat hdouble =>
    intro a b ha hb
    exact ⟨compare?_encode ha hb h hfloat hdouble,
      order_eq_lt_iff_of_isScalar ha hb h hfloat hdouble,
      order_eq_eq_iff_of_isScalar ha hb h hfloat hdouble⟩
  | list _ ih =>
    intro a b ha hb
    cases ha with
    | list has =>
      cases hb with
      | list hbs =>
        refine (alikeItems_of_forall fun p hp => ?_).list
        exact ih (has _ (List.of_mem_zip hp).1) (hbs _ (List.of_mem_zip hp).2)
  | set _ ih =>
    intro a b ha hb
    cases ha with
    | set has =>
      cases hb with
      | set hbs =>
        refine (alikeItems_of_forall fun p hp => ?_).set
        exact ih (has _ (List.of_mem_zip hp).1) (hbs _ (List.of_mem_zip hp).2)
  | tuple _ ih =>
    intro a b ha hb
    cases ha with
    | tuple hlength has =>
      cases hb with
      | tuple hlength' hbs =>
        refine (alikeItems_of_forall fun p hp => ?_).tuple
        obtain ⟨t, ht, hleft, hright⟩ := exists_type_of_mem_zip hlength hlength' p hp
        exact ih t ht (has _ hleft) (hbs _ hright)

/-- A stored set of ordered elements stands in strictly increasing order. -/
theorem pairwise_encodeItems {t : DataType} (ht : t.Ordered) {ds : List Data}
    (h : (set ds).HasType (.set t)) :
    (encodeItems ds).Pairwise fun v w => v.compare? w = some .lt := by
  cases h with
  | set hds hincreasing =>
    rw [encodeItems_eq_map, List.pairwise_map]
    refine hincreasing.imp_of_mem fun ha hb hlt => ?_
    rw [(alike_of_ordered ht (hds _ ha) (hds _ hb)).stored, hlt]

theorem isOption_of_ordered {t : DataType} (ht : t.Ordered) : t.isOption = false := by
  cases ht with
  | scalar h => cases t <;> first | rfl | cases h
  | list | set | tuple => rfl

/-! ## 5. Bounds -/

/-- A query with two bounds on a column, in data that the built-in codec of a type encodes. -/
def boundedQuery (q : Query) (t : DataType) (column : String) (position : Nat)
    (lowerText : String) (lower : Data) (upperText : String) (upper : Data) : Query :=
  q.relateRange position lowerText ⟨lower.spoken, (Codec.native t).encodeColumn column lower⟩
    upperText ⟨upper.spoken, (Codec.native t).encodeColumn column upper⟩

theorem failure_boundedQuery {q : Query} (hq : q.failure = none) (t : DataType) (column : String)
    (position : Nat) (lowerText : String) (lower : Data) (upperText : String) (upper : Data) :
    (boundedQuery q t column position lowerText lower upperText upper).failure =
      if lower.encode.lt upper.encode then none else some (.range (.nonMonotonic position)) := by
  have hcall := Query.failure_call q (.relateRange position lowerText
    ⟨lower.spoken, (Codec.native t).encodeColumn column lower⟩ upperText
    ⟨upper.spoken, (Codec.native t).encodeColumn column upper⟩)
  rw [boundedQuery]
  rw [Query.call, hq] at hcall
  rw [hcall]
  cases hlt : lower.encode.lt upper.encode <;>
    simp [Query.Call.failure?, Query.outOfOrder, Codec.encodeColumn, Codec.native,
      Operand.failure?, hlt]

/-- The stored value of data that are not optional is no component left open. -/
theorem absent_encode {t : DataType} (ht : t.Ordered) {d : Data} (hd : d.HasType t) :
    Component.absent (some d.encode) = false := by
  have hne := hd.encode_ne_null (isOption_of_ordered ht)
  revert hne
  cases d.encode <;> simp [Component.absent, Value.isNull]

/-- Two sides of a range that share all but their last components, which are stored data. -/
theorem resolve_bounds {t : DataType} (ht : t.Ordered) {lower upper : Data}
    (hlower : lower.HasType t) (hupper : upper.HasType t) {c : Option Value}
    {cs : List (Option Value)}
    (hcs : ∀ a ∈ c :: cs, Component.absent a = false ∧ Component.same a a = true) :
    resolve (c :: cs ++ [some lower.encode]) (c :: cs ++ [some upper.encode]) =
      if lower.encode.lt upper.encode then
        .ok ⟨c :: cs, some (some lower.encode), some (some upper.encode)⟩
      else .error (.nonMonotonic (cs.length + 1)) := by
  have hpresent : ∀ a ∈ c :: cs ++ (some (some lower.encode)).toList
      ++ (some (some upper.encode)).toList, Component.absent a = false := by
    simp only [Option.toList_some, List.forall_mem_append, List.forall_mem_singleton]
    exact ⟨⟨fun a ha => (hcs a ha).1, absent_encode ht hlower⟩, absent_encode ht hupper⟩
  have hresolve := @resolve_of_shared _ _ _ _ (some (some lower.encode)) (some (some upper.encode))
    [] [] hpresent (fun a ha => (hcs a ha).2) (Or.inl (Option.some_ne_none _)) nofun nofun
  simp only [List.append_nil, Option.toList_some] at hresolve
  rw [hresolve, boundsOutOfOrder]
  simp only [Component.order?, Value.lt]
  by_cases hlt : lower.encode.compare? upper.encode = some .lt <;> simp [hlt]

/-- **Storing data keeps their order.**  Data of an ordered type compare as stored values exactly
as they do as data, and that is the natural order: one precedes the other, or they are the same.
So a stored set is strictly increasing, and two bounds are accepted, by a query as by a slice,
exactly if the lower one precedes the upper one. -/
theorem encoding_keeps_order {t : DataType} (ht : t.Ordered) {x y : Data} (hx : x.HasType t)
    (hy : y.HasType t) :
    x.encode.compare? y.encode = some (x.order y)
      ∧ (x.order y = .lt ↔ x.Precedes y) ∧ (x.order y = .eq ↔ x = y)
      ∧ (x.order y = .gt ↔ y.Precedes x)
      ∧ (∀ t' ds, t = .set t' → x = set ds →
        (encodeItems ds).Pairwise fun v w => v.compare? w = some .lt)
      ∧ (∀ (q : Query) (column lowerText upperText : String) (position : Nat), q.failure = none →
        ∀ bounded, bounded = boundedQuery q t column position lowerText x upperText y →
          (x.Precedes y → bounded.statement = .ok bounded.render)
          ∧ (¬x.Precedes y → bounded.statement = .error (.range (.nonMonotonic position))))
      ∧ ∀ (c : Option Value) (cs : List (Option Value)),
        (∀ a ∈ c :: cs, Component.absent a = false ∧ Component.same a a = true) →
          (x.Precedes y → resolve (c :: cs ++ [some x.encode]) (c :: cs ++ [some y.encode]) =
            .ok ⟨c :: cs, some (some x.encode), some (some y.encode)⟩)
          ∧ (¬x.Precedes y → resolve (c :: cs ++ [some x.encode]) (c :: cs ++ [some y.encode]) =
            .error (.nonMonotonic (cs.length + 1))) := by
  have halike := alike_of_ordered ht hx hy
  have hlt : x.encode.lt y.encode = true ↔ x.Precedes y := by
    rw [Value.lt, halike.stored, beq_iff_eq, Option.some.injEq, halike.lt_iff]
  refine ⟨halike.stored, halike.lt_iff, halike.eq_iff, ?_, ?_, ?_, ?_⟩
  · rw [← (alike_of_ordered ht hy hx).lt_iff, ← order_swap y x, Ordering.swap_eq_gt]
  · rintro t' ds rfl rfl
    cases ht with
    | scalar h => cases h
    | set ht => exact pairwise_encodeItems ht hx
  · rintro q column lowerText upperText position hq bounded rfl
    have hfailure := failure_boundedQuery hq t column position lowerText x upperText y
    constructor
    · intro h
      rw [if_pos (hlt.mpr h)] at hfailure
      rw [Query.statement, hfailure]
    · intro h
      rw [if_neg (mt hlt.mp h)] at hfailure
      rw [Query.statement, hfailure]
  · intro c cs hcs
    have hresolve := resolve_bounds ht hx hy hcs
    constructor
    · intro h
      rw [hresolve, if_pos (hlt.mpr h)]
    · intro h
      rw [hresolve, if_neg (mt hlt.mp h)]

/-- A day with the numbers of the readings taken on it. -/
def readingsOf (day : String) (numbers : List Int32) : Data :=
  .tuple [.text day, .set (numbers.map .int)]

/-- Two rows of days with readings, the same up to the second reading of the only day. -/
theorem encoding_keeps_order_readings :
    (list [readingsOf "mon" [1, 2]]).encode.compare? (list [readingsOf "mon" [1, 3]]).encode =
        some .lt
      ∧ ∀ bounded, bounded = boundedQuery (.on .select "log") (.list (.tuple [.text, .set .int]))
          "days" 1 "days >= ?" (list [readingsOf "mon" [1, 2]]) "days <= ?"
          (list [readingsOf "mon" [1, 3]]) →
        bounded.statement = .ok bounded.render := by
  have hordered : (DataType.list (.tuple [.text, .set .int])).Ordered := by
    refine .list (.tuple ?_)
    rw [List.forall_mem_cons, List.forall_mem_singleton]
    exact ⟨.scalar rfl nofun nofun, .set (.scalar rfl nofun nofun)⟩
  have htype : ∀ n, (Data.int 1).order (.int n) = .lt →
      (list [readingsOf "mon" [1, n]]).HasType (.list (.tuple [.text, .set .int])) := by
    refine fun n hn => .list (List.forall_mem_singleton.mpr (.tuple rfl ?_))
    rw [List.zip_cons_cons, List.zip_cons_cons, List.zip_nil_left, List.forall_mem_cons,
      List.forall_mem_singleton]
    refine ⟨.text _, .set ?_ (by simpa using hn)⟩
    exact List.forall_mem_cons.mpr ⟨.int 1, List.forall_mem_singleton.mpr (.int n)⟩
  have hprecedes : (list [readingsOf "mon" [1, 2]]).Precedes (list [readingsOf "mon" [1, 3]]) :=
    .list (.rel (.tuple (.cons (.rel (.set (.cons (.rel (.int (by decide)))))))))
  obtain ⟨hstored, hlt, -, -, -, hbounded, -⟩ := encoding_keeps_order hordered
    (htype 2 (by simp only [order]; decide)) (htype 3 (by simp only [order]; decide))
  refine ⟨by rw [hstored, hlt.mpr hprecedes], fun bounded h => ?_⟩
  exact (hbounded (.on .select "log") "days" "days >= ?" "days <= ?" 1 rfl bounded h).1 hprecedes

end Data

end WideColumn
