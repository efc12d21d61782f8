/-
# Which data are in a total order

Sets and maps are kept by the order of data, so two things are asked of that order.  It has to be
TRANSITIVE, or a place in a row would not say what comes before it; and it has to TELL DATA APART,
or an element would be lost to another one that only ranks with it.

The first holds of all data.  Comparing goes through parts, and a comparison of three rows is
settled at the first place where two of them part, so what is kept from place to place is more than
transitivity: how the three comparisons of three things hang together (`Follows`).

The second holds on a type as soon as no floating-point number is part of it: these are the types
that sets and maps admit (`DataType.Total`, `order_eq_eq_iff`).
-/
import WideColumn.Proofs.Data.Encoding

namespace WideColumn

/-! ## 1. Three comparisons -/

/-- **How three comparisons hang together**, of a first thing with a second, of the second with a
third, and of the first with the third: things of one rank compare alike with the third, and two
comparisons that go one way go on that way. -/
structure Follows (ab bc ac : Ordering) : Prop where
  left : ab = .eq → ac = bc
  right : bc = .eq → ac = ab
  along : ab = bc → ac = ab

namespace Follows

variable {ab bc ac ab' bc' ac' : Ordering}

theorem of_transCmp {α : Type} (cmp : α → α → Ordering) [Std.TransCmp cmp] (a b c : α) :
    Follows (cmp a b) (cmp b c) (cmp a c) where
  left := Std.TransCmp.congr_left
  right h := (Std.TransCmp.congr_right h).symm
  along h := by
    cases hab : cmp a b with
    | lt => exact Std.TransCmp.lt_trans hab (h ▸ hab)
    | eq => exact Std.TransCmp.eq_trans hab (h ▸ hab)
    | gt => exact Std.TransCmp.gt_trans hab (h ▸ hab)

/-- What comes second counts only where the first ranks all three alike. -/
theorem andThen (h : Follows ab bc ac) (h' : ab = .eq → bc = .eq → Follows ab' bc' ac') :
    Follows (ab.then ab') (bc.then bc') (ac.then ac') := by
  cases hab : ab with
  | eq =>
    obtain rfl : ac = bc := h.left hab
    cases hbc : ac with
    | eq => exact h' hab hbc
    | lt | gt => exact ⟨fun _ => rfl, nofun, fun heq => heq.symm⟩
  | lt | gt =>
    cases hbc : bc with
    | eq =>
      obtain rfl : ac = ab := h.right hbc
      rw [hab]
      exact ⟨nofun, fun _ => rfl, fun _ => rfl⟩
    | lt | gt =>
      refine ⟨nofun, nofun, fun heq => ?_⟩
      first
        | (cases heq; done)
        | (have hac : ac = ab := h.along (hab.trans hbc.symm)
           rw [hac, hab]
           rfl)

end Follows

namespace Data

/-! ## 2. The order is transitive -/

/-- Kinds come before contents. -/
theorem order_eq_then (a b : Data) : a.order b = (compare a.kind b.kind).then (a.order b) := by
  by_cases hkind : a.kind = b.kind
  · rw [Nat.compare_eq_eq.mpr hkind]
    rfl
  · rw [order_of_kind_ne hkind]
    cases h : compare a.kind b.kind with
    | eq => exact absurd (Nat.compare_eq_eq.mp h) hkind
    | lt | gt => rfl

mutual

/-- **The comparisons of any three data hang together.** -/
theorem order_follows (a b c : Data) : Follows (a.order b) (b.order c) (a.order c) := by
  rw [order_eq_then a b, order_eq_then b c, order_eq_then a c]
  refine (Follows.of_transCmp (compareOn kind) a b c).andThen fun hab hbc => ?_
  replace hab : a.kind = b.kind := Nat.compare_eq_eq.mp hab
  replace hbc : b.kind = c.kind := Nat.compare_eq_eq.mp hbc
  cases a <;> cases b
  all_goals first | (cases hab; done) | cases c
  all_goals first | (cases hbc; done) | simp only [order]
  case present.present.present a b c => exact order_follows a b c
  case list.list.list as bs cs | set.set.set as bs cs | tuple.tuple.tuple as bs cs =>
    exact orderItems_follows as bs cs
  case map.map.map as bs cs => exact orderEntries_follows as bs cs
  case record.record.record as bs cs => exact orderFields_follows as bs cs
  case absent.absent.absent => exact ⟨fun _ => rfl, fun _ => rfl, fun _ => rfl⟩
  case text.text.text => exact .of_transCmp Value.orderText _ _ _
  case boolean.boolean.boolean => exact .of_transCmp Value.orderBool _ _ _
  case blob.blob.blob => exact .of_transCmp Value.orderBytes _ _ _
  case uuid.uuid.uuid => exact .of_transCmp Uuid.order _ _ _
  case timestamp.timestamp.timestamp => exact .of_transCmp Calendar.Timestamp.order _ _ _
  case date.date.date => exact .of_transCmp Calendar.Date.order _ _ _
  case time.time.time => exact .of_transCmp Calendar.Time.order _ _ _
  case inet.inet.inet => exact .of_transCmp Network.Address.order _ _ _
  all_goals exact .of_transCmp (compare : Int → Int → Ordering) _ _ _
termination_by sizeOf a

/-- The same for rows of items. -/
theorem orderItems_follows : ∀ as bs cs : List Data,
    Follows (orderItems as bs) (orderItems bs cs) (orderItems as cs)
  | [], [], [] | [], [], _ :: _ | [], _ :: _, [] | [], _ :: _, _ :: _ | _ :: _, [], []
  | _ :: _, [], _ :: _ | _ :: _, _ :: _, [] => by
    constructor <;> simp +contextual [orderItems]
  | a :: as, b :: bs, c :: cs => by
    simp only [orderItems]
    exact (order_follows a b c).andThen fun _ _ => orderItems_follows as bs cs
termination_by as => sizeOf as

/-- The same for entries. -/
theorem orderEntries_follows : ∀ as bs cs : List (Data × Data),
    Follows (orderEntries as bs) (orderEntries bs cs) (orderEntries as cs)
  | [], [], [] | [], [], _ :: _ | [], _ :: _, [] | [], _ :: _, _ :: _ | _ :: _, [], []
  | _ :: _, [], _ :: _ | _ :: _, _ :: _, [] => by
    constructor <;> simp +contextual [orderEntries]
  | (k, v) :: as, (l, w) :: bs, (m, x) :: cs => by
    simp only [orderEntries]
    have hentry := (order_follows k l m).andThen fun _ _ => order_follows v w x
    exact hentry.andThen fun _ _ => orderEntries_follows as bs cs
termination_by as => sizeOf as

/-- The same for fields. -/
theorem orderFields_follows : ∀ as bs cs : List (String × Data),
    Follows (orderFields as bs) (orderFields bs cs) (orderFields as cs)
  | [], [], [] | [], [], _ :: _ | [], _ :: _, [] | [], _ :: _, _ :: _ | _ :: _, [], []
  | _ :: _, [], _ :: _ | _ :: _, _ :: _, [] => by
    constructor <;> simp +contextual [orderFields]
  | (_, v) :: as, (_, w) :: bs, (_, x) :: cs => by
    simp only [orderFields]
    exact (order_follows v w x).andThen fun _ _ => orderFields_follows as bs cs
termination_by as => sizeOf as

end

/-- **The order of data is transitive**, and can be turned around. -/
instance : Std.TransCmp order where
  eq_swap {a b} := (order_swap b a).symm
  isLE_trans {a b c} hab hbc := by
    have h := order_follows a b c
    cases heq : a.order b with
    | eq => rwa [h.left heq]
    | gt => rw [heq] at hab; cases hab
    | lt =>
      cases heq' : b.order c with
      | eq => rwa [h.right heq']
      | lt => rw [h.along (heq.trans heq'.symm), heq]; rfl
      | gt => rw [heq'] at hbc; cases hbc

theorem order_self (a : Data) : a.order a = .eq := Std.ReflCmp.compare_self

end Data

/-! ## 3. Data told apart -/

/-- **A type in a total order**: no floating-point number is part of it. -/
inductive DataType.Total : DataType → Prop
  | scalar {t : DataType} (h : t.isScalar = true) (hfloat : t ≠ .float) (hdouble : t ≠ .double) :
    Total t
  | option {t : DataType} (h : Total t) : Total (option t)
  | list {t : DataType} (h : Total t) : Total (list t)
  | set {t : DataType} (h : Total t) : Total (set t)
  | map {k v : DataType} (hk : Total k) (hv : Total v) : Total (map k v)
  | tuple {ts : List DataType} (h : ∀ t ∈ ts, Total t) : Total (tuple ts)
  | record {name : String} {fs : List (String × DataType)} (h : ∀ f ∈ fs, Total f.2) :
    Total (record name fs)

namespace Data

/-- Rows rank alike only if they are the same, if that holds of their items place by place. -/
theorem orderItems_eq_eq_iff : ∀ {as bs : List Data},
    (∀ p ∈ as.zip bs, p.1.order p.2 = .eq ↔ p.1 = p.2) → (orderItems as bs = .eq ↔ as = bs)
  | [], [], _ | [], _ :: _, _ | _ :: _, [], _ => by simp [orderItems]
  | a :: as, b :: bs, h => by
    rw [List.zip_cons_cons, List.forall_mem_cons] at h
    rw [orderItems, Ordering.then_eq_eq, h.1, orderItems_eq_eq_iff h.2, List.cons.injEq]

theorem orderEntries_eq_eq_iff : ∀ {as bs : List (Data × Data)},
    (∀ p ∈ as.zip bs, p.1.1.order p.2.1 = .eq ↔ p.1.1 = p.2.1) →
    (∀ p ∈ as.zip bs, p.1.2.order p.2.2 = .eq ↔ p.1.2 = p.2.2) →
      (orderEntries as bs = .eq ↔ as = bs)
  | [], [], _, _ | [], _ :: _, _, _ | _ :: _, [], _, _ => by simp [orderEntries]
  | a :: as, b :: bs, hk, hv => by
    rw [List.zip_cons_cons, List.forall_mem_cons] at hk hv
    rw [orderEntries, Ordering.then_eq_eq, Ordering.then_eq_eq, hk.1, hv.1,
      orderEntries_eq_eq_iff hk.2 hv.2, List.cons.injEq, Prod.ext_iff]

/-- Fields are told apart by their data, their names being those of one type. -/
theorem orderFields_eq_eq_iff : ∀ {as bs : List (String × Data)},
    as.map (·.1) = bs.map (·.1) → (∀ p ∈ as.zip bs, p.1.2.order p.2.2 = .eq ↔ p.1.2 = p.2.2) →
      (orderFields as bs = .eq ↔ as = bs)
  | [], [], _, _ => by simp [orderFields]
  | a :: as, b :: bs, hnames, h => by
    rw [List.map_cons, List.map_cons, List.cons.injEq] at hnames
    rw [List.zip_cons_cons, List.forall_mem_cons] at h
    rw [orderFields, Ordering.then_eq_eq, h.1, orderFields_eq_eq_iff hnames.2 h.2,
      List.cons.injEq, Prod.ext_iff]
    exact ⟨fun h => ⟨⟨hnames.1, h.1⟩, h.2⟩, fun h => ⟨h.1.2, h.2⟩⟩

/-- **Data of one total type rank alike only if they are the same.** -/
theorem order_eq_eq_iff {t : DataType} (ht : t.Total) :
    ∀ {a b : Data}, a.HasType t → b.HasType t → (a.order b = .eq ↔ a = b) := by
  induction ht with
  | scalar h hfloat hdouble =>
    intro a b ha hb
    exact order_eq_eq_iff_of_isScalar ha hb h hfloat hdouble
  | option _ ih =>
    intro a b ha hb
    cases ha with
    | absent => cases hb <;> simp [order, kind]
    | present ha =>
      cases hb with
      | absent => simp [order, kind]
      | present hb => rw [order, ih ha hb, present.injEq]
  | list _ ih =>
    intro a b ha hb
    cases ha with
    | list has =>
      cases hb with
      | list hbs =>
        rw [order, list.injEq]
        exact orderItems_eq_eq_iff fun p hp =>
          ih (has _ (List.of_mem_zip hp).1) (hbs _ (List.of_mem_zip hp).2)
  | set _ ih =>
    intro a b ha hb
    cases ha with
    | set has =>
      cases hb with
      | set hbs =>
        rw [order, set.injEq]
        exact orderItems_eq_eq_iff fun p hp =>
          ih (has _ (List.of_mem_zip hp).1) (hbs _ (List.of_mem_zip hp).2)
  | map _ _ ihk ihv =>
    intro a b ha hb
    cases ha with
    | map hask hasv =>
      cases hb with
      | map hbsk hbsv =>
        rw [order, map.injEq]
        refine orderEntries_eq_eq_iff (fun p hp => ?_) fun p hp => ?_
        · exact ihk (hask _ (List.of_mem_zip hp).1) (hbsk _ (List.of_mem_zip hp).2)
        · exact ihv (hasv _ (List.of_mem_zip hp).1) (hbsv _ (List.of_mem_zip hp).2)
  | tuple _ ih =>
    intro a b ha hb
    cases ha with
    | tuple hlength has =>
      cases hb with
      | tuple hlength' hbs =>
        rw [order, tuple.injEq]
        refine orderItems_eq_eq_iff fun p hp => ?_
        obtain ⟨t, ht, hleft, hright⟩ := exists_type_of_mem_zip hlength hlength' p hp
        exact ih t ht (has _ hleft) (hbs _ hright)
  | record _ ih =>
    intro a b ha hb
    cases ha with
    | record hnames has =>
      cases hb with
      | record hnames' hbs =>
        rw [order, record.injEq]
        refine orderFields_eq_eq_iff (hnames.trans hnames'.symm) fun p hp => ?_
        obtain ⟨f, hf, hleft, hright⟩ := exists_type_of_mem_zip
          (by simpa using congrArg List.length hnames)
          (by simpa using congrArg List.length hnames') p hp
        exact ih f hf (has _ hleft) (hbs _ hright)

end Data

end WideColumn
