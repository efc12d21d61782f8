/-
# The order of values is a strict partial order

A comparison of two values may have no answer, and it goes down into rows whose items may again
have none, so no law of an order comes for free.  Three of them hold of all values:

* a comparison can be TURNED AROUND, answer or none (`compare?_swap`);
* BEFORE is transitive (`compare?_lt_trans`): whichever of two rows of items is decided first, the
  other one agrees with its first and third row up to there;
* values that compare as equal are EXCHANGEABLE (`compare?_congr_left`, `compare?_congr`): they
  compare alike with every third value, be it in order with them or not.

The last of these is what transitivity of rows rests on, and the agreement of the order with
equality is what it rests on in turn.
-/
import WideColumn.Proofs.Value.Order

namespace WideColumn

open WideColumn.Calendar WideColumn.Network WideColumn.Number

/-! ## 1. The leaves -/

/-- The order of a part orders the whole. -/
theorem transCmp_of_part {α β : Type} {cmp : β → β → Ordering} [Std.TransCmp cmp] (part : α → β) :
    Std.TransCmp fun a b => cmp (part a) (part b) where
  eq_swap := Std.OrientedCmp.eq_swap
  isLE_trans := Std.TransCmp.isLE_trans

namespace Calendar

instance : Std.TransCmp Date.order :=
  inferInstanceAs (Std.TransCmp
    (compareLex (compareLex (compareOn Date.year) (compareOn Date.month)) (compareOn Date.day)))

instance : Std.TransCmp Time.order :=
  inferInstanceAs (Std.TransCmp (compareLex (compareOn Time.second) (compareOn Time.nano)))

instance : Std.TransCmp Timestamp.order := by
  have hdate : Std.TransCmp fun a b : Timestamp => a.date.order b.date :=
    transCmp_of_part Timestamp.date
  have htime : Std.TransCmp fun a b : Timestamp => a.time.order b.time :=
    transCmp_of_part Timestamp.time
  exact inferInstanceAs (Std.TransCmp
    (compareLex (fun a b : Timestamp => a.date.order b.date) fun a b => a.time.order b.time))

end Calendar

instance : Std.TransCmp Uuid.order :=
  inferInstanceAs (Std.TransCmp (compareOn fun u : Uuid => u.bits.toNat))

/-- Addresses of version four come before those of version six. -/
instance : Std.TransCmp Address.order where
  eq_swap {a b} := (Address.order_swap b a).symm
  isLE_trans {a b c} hab hbc := by
    cases a <;> cases b <;> cases c <;> simp only [Address.order] at hab hbc ⊢
    all_goals first
      | exact Std.TransCmp.isLE_trans hab hbc
      | rfl
      | cases hab; done
      | cases hbc

namespace Number.Binary

variable {f : Format}

/-- Two numbers are ordered if neither is a NaN, and then as their ranks are. -/
theorem compare?_eq_some_iff {x y : Binary f} {o : Ordering} :
    x.compare? y = some o ↔ x.isNaN = false ∧ y.isNaN = false ∧ compare x.rank y.rank = o := by
  rw [compare?]
  cases x.isNaN <;> cases y.isNaN <;> simp

theorem compare?_swap (x y : Binary f) : (x.compare? y).map Ordering.swap = y.compare? x := by
  simp only [compare?, Bool.or_comm y.isNaN]
  split
  · rfl
  · rw [Option.map_some, Int.compare_swap]

theorem compare?_lt_trans {x y z : Binary f} (hxy : x.compare? y = some .lt)
    (hyz : y.compare? z = some .lt) : x.compare? z = some .lt := by
  rw [compare?_eq_some_iff] at hxy hyz ⊢
  exact ⟨hxy.1, hyz.2.1, Std.TransCmp.lt_trans hxy.2.2 hyz.2.2⟩

end Number.Binary

namespace Value

/-! Rows of bytes and of characters compare item by item, as lists do. -/

theorem orderBytes_eq_compareLex : orderBytes = List.compareLex (compareOn UInt8.toNat) := by
  funext as bs
  fun_induction orderBytes as bs with
  | case1 | case2 | case3 => rfl
  | case4 a as b bs ih => rw [List.compareLex_cons_cons, ← ih]; rfl

theorem orderChars_eq_compareLex : orderChars = List.compareLex (compareOn Char.toNat) := by
  funext as bs
  fun_induction orderChars as bs with
  | case1 | case2 | case3 => rfl
  | case4 a as b bs ih => rw [List.compareLex_cons_cons, ← ih]; rfl

instance : Std.TransCmp orderBytes := by
  rw [orderBytes_eq_compareLex]
  infer_instance

instance : Std.TransCmp orderChars := by
  rw [orderChars_eq_compareLex]
  infer_instance

instance : Std.TransCmp orderText := transCmp_of_part String.toList

instance : Std.TransCmp orderBool :=
  inferInstanceAs (Std.TransCmp (compareOn Bool.toNat))

/-! ## 2. The order turned around -/

mutual

/-- **A comparison can be turned around**, and has an answer either way or neither. -/
theorem compare?_swap (a b : Value) : (a.compare? b).map Ordering.swap = b.compare? a := by
  fun_cases compare? a b
  case case6 x y | case7 x y =>
    simp only [compare?]
    exact Binary.compare?_swap x y
  case case16 as bs | case17 as bs | case18 as bs =>
    simp only [compare?]
    exact compareItems?_swap as bs
  case case19 =>
    -- what has no order one way has none the other way
    fun_cases compare? b a
    case case19 => rfl
    all_goals exfalso; solve_by_elim
  all_goals
    simp only [compare?, Option.map_some, Int.compare_swap, orderBool_swap, orderText_swap,
      orderBytes_swap, Date.order_swap, Time.order_swap, Timestamp.order_swap, Address.order_swap,
      Uuid.order_swap]
termination_by sizeOf a

/-- The same for rows of items. -/
theorem compareItems?_swap : ∀ as bs : List Value,
    (compareItems? as bs).map Ordering.swap = compareItems? bs as
  | [], [] | [], _ :: _ | _ :: _, [] => rfl
  | a :: as, b :: bs => by
    simp only [compareItems?]
    rw [← compare?_swap a b, ← compareItems?_swap as bs]
    cases a.compare? b with
    | none => rfl
    | some o => cases o <;> rfl
termination_by as => sizeOf as

end

theorem compare?_eq_some_swap {a b : Value} {o : Ordering} (h : a.compare? b = some o) :
    b.compare? a = some o.swap := by
  rw [← compare?_swap a b, h, Option.map_some]

/-- No value lies before itself. -/
theorem compare?_self_ne_lt (a : Value) : a.compare? a ≠ some .lt := by
  intro h
  have hswap := compare?_eq_some_swap h
  rw [h] at hswap
  cases hswap

/-! ## 3. Exchange of equal values -/

theorem equals_of_compare? {a b : Value} (h : a.compare? b = some .eq) : a.equals b = true :=
  (compare?_eq_iff_equals h).mp rfl

/-- Values that compare as equal stand in one relation to every third value. -/
theorem compare?_congr_left {a b : Value} (h : a.compare? b = some .eq) (c : Value) :
    a.compare? c = b.compare? c := by
  rw [← compare?_swap c a, ← compare?_swap c b, compare?_congr (equals_of_compare? h) c]

/-! ## 4. Before is transitive -/

/-- A row lies before another if its first item does, or if these are equal and the rest does. -/
theorem compareItems?_cons_eq_lt_iff {a b : Value} {as bs : List Value} :
    compareItems? (a :: as) (b :: bs) = some .lt ↔
      a.compare? b = some .lt ∨ a.compare? b = some .eq ∧ compareItems? as bs = some .lt := by
  rw [compareItems?]
  cases a.compare? b with
  | none => simp
  | some o => cases o <;> simp

mutual

/-- **What lies before a value lies before all that come after it.** -/
theorem compare?_lt_trans {a b c : Value} (hab : a.compare? b = some .lt)
    (hbc : b.compare? c = some .lt) : a.compare? c = some .lt := by
  fun_cases compare? a b
  all_goals simp only [compare?, Option.some.injEq, reduceCtorEq] at hab
  all_goals cases c <;> simp only [compare?, Option.some.injEq, reduceCtorEq] at hbc ⊢
  case case6 | case7 => exact Binary.compare?_lt_trans hab hbc
  case case16 | case17 | case18 => exact compareItems?_lt_trans hab hbc
  all_goals exact Std.TransCmp.lt_trans hab hbc
termination_by sizeOf a

/-- The same for rows of items. -/
theorem compareItems?_lt_trans : ∀ {as bs cs : List Value}, compareItems? as bs = some .lt →
    compareItems? bs cs = some .lt → compareItems? as cs = some .lt
  | [], _ :: _, _ :: _, _, _ => rfl
  | _, [], [], _, hbc => by simp [compareItems?] at hbc
  | [], _ :: _, [], _, hbc => by simp [compareItems?] at hbc
  | [], [], _, hab, _ | _ :: _, [], _, hab, _ => by simp [compareItems?] at hab
  | _ :: _, _ :: _, [], _, hbc => by simp [compareItems?] at hbc
  | a :: as, b :: bs, c :: cs, hab, hbc => by
    rw [compareItems?_cons_eq_lt_iff] at hab hbc ⊢
    rcases hab with hab | ⟨hab, hrest⟩
    · rcases hbc with hbc | ⟨hbc, -⟩
      · exact Or.inl (compare?_lt_trans hab hbc)
      · exact Or.inl (compare?_congr (equals_of_compare? hbc) a ▸ hab)
    · rw [compare?_congr_left hab c]
      rcases hbc with hbc | ⟨hbc, hrest'⟩
      · exact Or.inl hbc
      · exact Or.inr ⟨hbc, compareItems?_lt_trans hrest hrest'⟩
termination_by as => sizeOf as

end

/-- Whatever way two comparisons go, they go on in that way. -/
theorem compare?_trans {a b c : Value} {o : Ordering} (hab : a.compare? b = some o)
    (hbc : b.compare? c = some o) : a.compare? c = some o := by
  cases o with
  | lt => exact compare?_lt_trans hab hbc
  | eq => rw [compare?_congr_left hab, hbc]
  | gt =>
    have hca := compare?_lt_trans (compare?_eq_some_swap hbc) (compare?_eq_some_swap hab)
    exact compare?_eq_some_swap hca

/-! ## 5. All laws -/

/-- **The order of values is a strict partial order, and agrees with their equality.**  It can be
turned around, and nothing lies before itself; two values compare as equal exactly if they are
equal and are ordered at all; before is transitive, and remains true when either value is exchanged
for one that compares as equal to it. -/
theorem order_is_strict_partial (a b c : Value) :
    (a.compare? b = some .lt ↔ b.compare? a = some .gt)
      ∧ (a.compare? b = some .eq ↔ b.compare? a = some .eq)
      ∧ (a.compare? b = some .eq ↔ a.equals b = true ∧ (a.compare? b).isSome = true)
      ∧ a.compare? a ≠ some .lt
      ∧ (a.compare? b = some .lt → b.compare? c = some .lt → a.compare? c = some .lt)
      ∧ (a.compare? b = some .lt → a.compare? c = some .eq → c.compare? b = some .lt)
      ∧ (a.compare? b = some .lt → b.compare? c = some .eq → a.compare? c = some .lt) := by
  refine ⟨⟨compare?_eq_some_swap, compare?_eq_some_swap⟩,
    ⟨compare?_eq_some_swap, compare?_eq_some_swap⟩, ⟨fun h => ?_, fun ⟨hequal, hsome⟩ => ?_⟩,
    compare?_self_ne_lt a, compare?_lt_trans, fun hab hac => ?_, fun hab hbc => ?_⟩
  · exact ⟨equals_of_compare? h, by rw [h]; rfl⟩
  · obtain ⟨o, ho⟩ := Option.isSome_iff_exists.mp hsome
    rw [ho, (compare?_eq_iff_equals ho).mpr hequal]
  · rw [← compare?_congr_left hac b, hab]
  · rw [← compare?_congr (equals_of_compare? hbc) a, hab]

/-- Three rows of numbers: the first begins the second up to the sign of a zero, the second goes on
with a NaN and the third with null, which nothing is in order with. -/
theorem order_is_strict_partial_rows :
    (list [double ⟨0x8000000000000000#64⟩]).compare? (list [double ⟨1⟩, null]) = some .lt
      ∧ (list [double ⟨0⟩]).compare?
        (list [double ⟨0⟩, double ⟨0x7ff8000000000000#64⟩]) = some .lt := by
  have hbegins : (list [double ⟨0x8000000000000000#64⟩]).compare?
      (list [double ⟨0⟩, double ⟨0x7ff8000000000000#64⟩]) = some .lt := by decide
  have hbefore : (list [double ⟨0⟩, double ⟨0x7ff8000000000000#64⟩]).compare?
      (list [double ⟨1⟩, null]) = some .lt := by decide
  have hzeros :
      (list [double ⟨0x8000000000000000#64⟩]).compare? (list [double ⟨0⟩]) = some .eq := by decide
  obtain ⟨-, -, -, -, htrans, -, -⟩ := order_is_strict_partial
    (list [double ⟨0x8000000000000000#64⟩]) (list [double ⟨0⟩, double ⟨0x7ff8000000000000#64⟩])
    (list [double ⟨1⟩, null])
  obtain ⟨-, -, -, -, -, hexchange, -⟩ := order_is_strict_partial
    (list [double ⟨0x8000000000000000#64⟩]) (list [double ⟨0⟩, double ⟨0x7ff8000000000000#64⟩])
    (list [double ⟨0⟩])
  exact ⟨htrans hbegins hbefore, hexchange hbegins hzeros⟩

end Value

end WideColumn
