/-
# The order of data, and rows that keep to it

Sets and maps hold their contents in increasing order, and decoding builds them by putting one
element after the other into its place.  Two facts make a row that is already in order come out
as it went in:

* the order can be TURNED AROUND: what comes before another thing has that thing after it
  (`order_swap`);
* so an element that all others come before is put at the end of them, and a row whose elements
  increase is gathered into a set, or a map, of just these elements (`setOf_of_increasing`,
  `mapOf_of_increasing`).
-/
import WideColumn.Data
import WideColumn.Proofs.Value.Order

namespace WideColumn.Data

open WideColumn.Calendar WideColumn.Network

/-! ## 1. The order turned around -/

/-- Data of different kinds are ordered as their kinds. -/
theorem order_of_kind_ne {a b : Data} (h : a.kind ≠ b.kind) :
    a.order b = compare a.kind b.kind := by
  fun_cases order a b
  case case21 => rfl
  all_goals exact absurd rfl h

mutual

/-- **The order can be turned around.** -/
theorem order_swap (a b : Data) : (a.order b).swap = b.order a := by
  by_cases hkind : a.kind = b.kind
  · cases a <;> cases b
    all_goals first | (cases hkind; done) | simp only [order]
    case text.text a b => exact Value.orderText_swap a b
    case boolean.boolean a b => exact Value.orderBool_swap a b
    case blob.blob a b => exact Value.orderBytes_swap a b
    case uuid.uuid a b => exact a.order_swap b
    case timestamp.timestamp a b => exact a.order_swap b
    case date.date a b => exact a.order_swap b
    case time.time a b => exact a.order_swap b
    case inet.inet a b => exact a.order_swap b
    case present.present a b => exact order_swap a b
    case list.list as bs | set.set as bs | tuple.tuple as bs => exact orderItems_swap as bs
    case map.map as bs => exact orderEntries_swap as bs
    case record.record as bs => exact orderFields_swap as bs
    -- numbers, and absence with itself
    case absent.absent => exact Nat.compare_swap _ _
    all_goals exact Int.compare_swap _ _
  · rw [order_of_kind_ne hkind, order_of_kind_ne (Ne.symm hkind), Nat.compare_swap]
termination_by sizeOf a

/-- The same for rows of items. -/
theorem orderItems_swap : ∀ as bs : List Data, (orderItems as bs).swap = orderItems bs as
  | [], [] | [], _ :: _ | _ :: _, [] => by simp [orderItems]
  | a :: as, b :: bs => by
    simp only [orderItems, Ordering.swap_then, order_swap a b, orderItems_swap as bs]
termination_by as => sizeOf as

/-- The same for entries. -/
theorem orderEntries_swap :
    ∀ as bs : List (Data × Data), (orderEntries as bs).swap = orderEntries bs as
  | [], [] | [], _ :: _ | _ :: _, [] => by simp [orderEntries]
  | (k, v) :: as, (l, w) :: bs => by
    simp only [orderEntries, Ordering.swap_then, order_swap k l, order_swap v w,
      orderEntries_swap as bs]
termination_by as => sizeOf as

/-- The same for fields. -/
theorem orderFields_swap :
    ∀ as bs : List (String × Data), (orderFields as bs).swap = orderFields bs as
  | [], [] | [], _ :: _ | _ :: _, [] => by simp [orderFields]
  | (_, v) :: as, (_, w) :: bs => by
    simp only [orderFields, Ordering.swap_then, order_swap v w, orderFields_swap as bs]
termination_by as => sizeOf as

end

theorem order_eq_gt {a b : Data} (h : b.order a = .lt) : a.order b = .gt := by
  rw [← order_swap b a, h, Ordering.swap_lt]

/-! ## 2. Rows in increasing order -/

/-- What is put last behind all that comes before it stays where it stood. -/
theorem foldl_eq_append {α : Type} {before : α → α → Prop} {put : List α → α → List α}
    (hput : ∀ xs x, (∀ y ∈ xs, before y x) → put xs x = xs ++ [x]) :
    ∀ {front xs : List α}, (front ++ xs).Pairwise before → xs.foldl put front = front ++ xs
  | front, [], _ => by simp
  | front, x :: xs, h => by
    have hlast : ∀ y ∈ front, before y x := fun y hy =>
      (List.pairwise_append.mp h).2.2 y hy x List.mem_cons_self
    have hrest : ((front ++ [x]) ++ xs).Pairwise before := by simpa using h
    rw [List.foldl_cons, hput front x hlast, foldl_eq_append hput hrest, List.append_assoc,
      List.singleton_append]

/-- An element that all others come before is put last. -/
theorem insert_of_forall_lt {d : Data} {es : List Data} (h : ∀ e ∈ es, e.order d = .lt) :
    insert d es = es ++ [d] := by
  induction es with
  | nil => rfl
  | cons e es ih =>
    rw [List.forall_mem_cons] at h
    simp only [insert, order_eq_gt h.1, ih h.2, List.cons_append]

/-- An entry whose key all other keys come before is put last. -/
theorem insertEntry_of_forall_lt {e : Data × Data} {es : List (Data × Data)}
    (h : ∀ f ∈ es, f.1.order e.1 = .lt) : insertEntry e es = es ++ [e] := by
  induction es with
  | nil => rfl
  | cons f es ih =>
    rw [List.forall_mem_cons] at h
    simp only [insertEntry, order_eq_gt h.1, ih h.2, List.cons_append]

/-- **Elements in increasing order are gathered into a set as they stand.** -/
theorem setOf_of_increasing {ds : List Data} (h : ds.Pairwise fun a b => a.order b = .lt) :
    setOf ds = set ds := by
  rw [setOf, foldl_eq_append (fun _ _ => insert_of_forall_lt) (by simpa using h), List.nil_append]

/-- **Entries with keys in increasing order are gathered into a map as they stand.** -/
theorem mapOf_of_increasing {es : List (Data × Data)}
    (h : es.Pairwise fun a b => a.1.order b.1 = .lt) : mapOf es = map es := by
  rw [mapOf, foldl_eq_append (fun _ _ => insertEntry_of_forall_lt) (by simpa using h),
    List.nil_append]

end WideColumn.Data
