/-
# The order of values agrees with their equality

Two relations on values meet wherever a key is cut: EQUALITY of contents, by which a component
fixes its column to one value, and the partial ORDER, by which a bound cuts the column that
varies.  They agree as far as the order reaches:

* a comparison comes out equal exactly where the two values are equal (`compare?_eq_iff_equals`),
  so an ordered pair is never both;
* equal values compare alike with every third value (`compare?_congr`), so that a component may be
  exchanged for an equal one without moving any bound.

The second fact is more than the first with transitivity: equal values are also UNORDERED with the
same values, which transitivity says nothing about.

Values of one kind that have no parts are always ordered, and their order can be turned around
(`Date.order_swap` and the others of section 4); data are put in order by it.
-/
import WideColumn.Value.Order

namespace WideColumn

open WideColumn.Calendar WideColumn.Network WideColumn.Number

/-! ## 1. The leaves -/

namespace Calendar

theorem Date.order_eq_iff (a b : Date) : a.order b = .eq ↔ a = b := by
  obtain ⟨y, m, d, _⟩ := a
  obtain ⟨y', m', d', _⟩ := b
  simp only [Date.order, Ordering.then_eq_eq, Std.LawfulEqCmp.compare_eq_iff_eq, Date.mk.injEq,
    and_assoc]

theorem Time.order_eq_iff (a b : Time) : a.order b = .eq ↔ a = b := by
  obtain ⟨s, n, _, _⟩ := a
  obtain ⟨s', n', _, _⟩ := b
  simp only [Time.order, Ordering.then_eq_eq, Std.LawfulEqCmp.compare_eq_iff_eq, Time.mk.injEq]

theorem Timestamp.order_eq_iff (a b : Timestamp) : a.order b = .eq ↔ a = b := by
  obtain ⟨d, t⟩ := a
  obtain ⟨d', t'⟩ := b
  simp only [Timestamp.order, Ordering.then_eq_eq, Date.order_eq_iff, Time.order_eq_iff,
    Timestamp.mk.injEq]

end Calendar

theorem Network.Address.order_eq_iff (a b : Address) : a.order b = .eq ↔ a = b := by
  cases a <;> cases b <;>
    simp [Address.order, Std.LawfulEqCmp.compare_eq_iff_eq, BitVec.toNat_inj]

theorem Uuid.order_eq_iff (a b : Uuid) : a.order b = .eq ↔ a = b := by
  obtain ⟨bits⟩ := a
  obtain ⟨bits'⟩ := b
  simp only [Uuid.order, Std.LawfulEqCmp.compare_eq_iff_eq, BitVec.toNat_inj, Uuid.mk.injEq]

namespace Number.Binary

variable {f : Format}

theorem equals_iff (x y : Binary f) : x.equals y = true ↔ x.compare? y = some .eq := by
  rw [equals, beq_iff_eq]

/-- Equal numbers are not NaN and share their rank. -/
theorem rank_eq_of_equals {x y : Binary f} (h : x.equals y = true) :
    x.isNaN = false ∧ y.isNaN = false ∧ x.rank = y.rank := by
  rw [equals_iff, compare?] at h
  split at h
  · exact absurd h (by simp)
  · rename_i hnan
    simp only [Bool.not_eq_true, Bool.or_eq_false_iff] at hnan
    exact ⟨hnan.1, hnan.2, Std.LawfulEqCmp.compare_eq_iff_eq.mp (Option.some.inj h)⟩

theorem compare?_congr {x y : Binary f} (h : x.equals y = true) (z : Binary f) :
    z.compare? x = z.compare? y := by
  obtain ⟨hx, hy, hr⟩ := rank_eq_of_equals h
  simp only [compare?, hx, hy, hr]

theorem compare?_eq_iff_equals {x y : Binary f} {o : Ordering} (h : x.compare? y = some o) :
    o = .eq ↔ x.equals y = true := by
  rw [equals_iff, h, Option.some.injEq]

end Number.Binary

namespace Value

theorem orderBytes_eq_iff : ∀ as bs : List UInt8, orderBytes as bs = .eq ↔ as = bs
  | [], [] => by simp [orderBytes]
  | [], _ :: _ => by simp [orderBytes]
  | _ :: _, [] => by simp [orderBytes]
  | a :: as, b :: bs => by
    simp only [orderBytes, Ordering.then_eq_eq, Std.LawfulEqCmp.compare_eq_iff_eq,
      orderBytes_eq_iff as bs, List.cons.injEq, UInt8.toNat_inj]

theorem orderChars_eq_iff : ∀ as bs : List Char, orderChars as bs = .eq ↔ as = bs
  | [], [] => by simp [orderChars]
  | [], _ :: _ => by simp [orderChars]
  | _ :: _, [] => by simp [orderChars]
  | a :: as, b :: bs => by
    simp only [orderChars, Ordering.then_eq_eq, Std.LawfulEqCmp.compare_eq_iff_eq,
      orderChars_eq_iff as bs, List.cons.injEq, Char.toNat_inj]

theorem orderText_eq_iff (a b : String) : orderText a b = .eq ↔ a = b := by
  rw [orderText, orderChars_eq_iff, String.toList_inj]

theorem orderBool_eq_iff (a b : Bool) : orderBool a b = .eq ↔ a = b := by
  cases a <;> cases b <;> decide

/-! ## 2. Equal values compare alike -/

/-! Nothing is ordered with a map or a value of a user type. -/

theorem compare?_map (c : Value) (m : List (Value × Value)) : c.compare? (map m) = none := by
  cases c <;> rfl

theorem compare?_udt (c : Value) (fs : List (String × Value)) : c.compare? (udt fs) = none := by
  cases c <;> rfl

mutual

/-- **Equal values compare alike with every third value**, and are unordered with the same. -/
theorem compare?_congr {a b : Value} (h : a.equals b = true) (c : Value) :
    c.compare? a = c.compare? b := by
  fun_cases equals a b
  all_goals simp only [equals, Bool.false_eq_true, beq_iff_eq] at h
  -- numbers, whose equality is not that of their bits
  case case6 x y | case7 x y =>
    cases c <;> simp only [compare?]
    exact Binary.compare?_congr h _
  -- rows of items
  case case10 as bs | case13 as bs | case19 as bs =>
    cases c <;> simp only [compare?]
    exact compareItems?_congr h _
  -- kinds without an order
  case case11 m n => rw [compare?_map, compare?_map]
  case case12 => rfl
  case case20 m n => rw [compare?_udt, compare?_udt]
  -- all others are equal only if they are the same
  all_goals rw [h]
termination_by sizeOf a

/-- The same for rows of items. -/
theorem compareItems?_congr : ∀ {as bs : List Value}, equalItems as bs = true →
    ∀ cs, compareItems? cs as = compareItems? cs bs
  | [], [], _, _ => rfl
  | [], _ :: _, h, _ => by simp [equalItems] at h
  | _ :: _, [], h, _ => by simp [equalItems] at h
  | a :: as, b :: bs, h, [] => by simp only [compareItems?]
  | a :: as, b :: bs, h, c :: cs => by
    simp only [equalItems, Bool.and_eq_true] at h
    simp only [compareItems?]
    rw [compare?_congr h.1 c, compareItems?_congr h.2 cs]
termination_by as => sizeOf as

end

/-! ## 3. Equality is the middle of the order -/

mutual

/-- **An ordered pair compares as equal exactly where it is equal.** -/
theorem compare?_eq_iff_equals {a b : Value} {o : Ordering} (h : a.compare? b = some o) :
    o = .eq ↔ a.equals b = true := by
  fun_cases compare? a b
  all_goals simp only [compare?, Option.some.injEq, reduceCtorEq] at h
  case case6 x y | case7 x y =>
    rw [equals]
    exact Binary.compare?_eq_iff_equals h
  case case16 as bs | case17 as bs | case18 as bs =>
    rw [equals]
    exact compareItems?_eq_iff_equals h
  all_goals
    rw [← h, equals, beq_iff_eq]
    simp only [Std.LawfulEqCmp.compare_eq_iff_eq, Int64.toInt_inj, Int32.toInt_inj,
      Int16.toInt_inj, Int8.toInt_inj, orderBool_eq_iff, orderText_eq_iff, orderBytes_eq_iff,
      Date.order_eq_iff, Time.order_eq_iff, Timestamp.order_eq_iff, Address.order_eq_iff,
      Uuid.order_eq_iff]
termination_by sizeOf a

/-- The same for rows of items. -/
theorem compareItems?_eq_iff_equals : ∀ {as bs : List Value} {o : Ordering},
    compareItems? as bs = some o → (o = .eq ↔ equalItems as bs = true)
  | [], [], o, h => by
    simp only [compareItems?, Option.some.injEq] at h
    simp [equalItems, ← h]
  | [], _ :: _, o, h => by
    simp only [compareItems?, Option.some.injEq] at h
    simp [equalItems, ← h]
  | _ :: _, [], o, h => by
    simp only [compareItems?, Option.some.injEq] at h
    simp [equalItems, ← h]
  | a :: as, b :: bs, o, h => by
    simp only [compareItems?] at h
    rw [equalItems, Bool.and_eq_true]
    split at h
    · rename_i heq
      rw [compareItems?_eq_iff_equals h, ← compare?_eq_iff_equals heq]
      simp
    · rename_i hne
      have heq := compare?_eq_iff_equals h
      have ho : o ≠ .eq := fun e => hne (e ▸ h)
      rw [← heq]
      simp [ho]
termination_by as => sizeOf as

end

end Value

/-! ## 4. The leaves, turned around -/

namespace Calendar

theorem Date.order_swap (a b : Date) : (a.order b).swap = b.order a := by
  simp only [Date.order, Ordering.swap_then, Int.compare_swap, Nat.compare_swap]

theorem Time.order_swap (a b : Time) : (a.order b).swap = b.order a := by
  simp only [Time.order, Ordering.swap_then, Nat.compare_swap]

theorem Timestamp.order_swap (a b : Timestamp) : (a.order b).swap = b.order a := by
  simp only [Timestamp.order, Ordering.swap_then, Date.order_swap, Time.order_swap]

end Calendar

theorem Network.Address.order_swap (a b : Address) : (a.order b).swap = b.order a := by
  cases a <;> cases b <;> simp [Address.order, Nat.compare_swap]

theorem Uuid.order_swap (a b : Uuid) : (a.order b).swap = b.order a := by
  simp only [Uuid.order, Nat.compare_swap]

namespace Value

theorem orderBytes_swap : ∀ as bs : List UInt8, (orderBytes as bs).swap = orderBytes bs as
  | [], [] | [], _ :: _ | _ :: _, [] => rfl
  | a :: as, b :: bs => by
    simp only [orderBytes, Ordering.swap_then, Nat.compare_swap, orderBytes_swap as bs]

theorem orderChars_swap : ∀ as bs : List Char, (orderChars as bs).swap = orderChars bs as
  | [], [] | [], _ :: _ | _ :: _, [] => rfl
  | a :: as, b :: bs => by
    simp only [orderChars, Ordering.swap_then, Nat.compare_swap, orderChars_swap as bs]

theorem orderText_swap (a b : String) : (orderText a b).swap = orderText b a :=
  orderChars_swap a.toList b.toList

theorem orderBool_swap (a b : Bool) : (orderBool a b).swap = orderBool b a :=
  Nat.compare_swap _ _

end Value

end WideColumn
