/-
# What is gathered

A set and a map are read by putting what is stored, one thing after the other, into a row that is
kept in increasing order; what ranks with a thing already there takes its place.  Sets do this with
elements and maps with entries, by their keys, so it is described here once, for things with keys
(`put`, `gathered`):

* the row INCREASES strictly throughout (`increasing_gathered`);
* what stands in it in the end is what nothing put in later ranks with (`mem_gathered`).

A row in strictly increasing order is determined by what stands in it (`eq_of_increasing`).
So nothing that was gathered depends on the order it came in, beyond which of the things with one
key came last.
-/
import Mathlib.Data.List.Induction
import WideColumn.Proofs.Data.TotalOrder

namespace WideColumn.Data

variable {α : Type}

/-- **Things in strictly increasing order** of their keys. -/
def Increasing (key : α → Data) (as : List α) : Prop :=
  as.Pairwise fun a b => (key a).order (key b) = .lt

/-- Puts a thing into a row in increasing order of keys, in place of one with an equal key. -/
def put (key : α → Data) (a : α) : List α → List α
  | [] => [a]
  | b :: bs =>
    match (key a).order (key b) with
    | .lt => a :: b :: bs
    | .eq => a :: bs
    | .gt => b :: put key a bs

/-- **What is left of a row of things** when each has been put where it belongs. -/
def gathered (key : α → Data) (as : List α) : List α :=
  as.foldl (fun bs a => put key a bs) []

/-! ## 1. Sets and maps are gathered -/

theorem insert_eq_put (d : Data) (es : List Data) : insert d es = put id d es := by
  induction es with
  | nil => rfl
  | cons e es ih =>
    cases h : d.order e <;> simp [insert, put, h, ih]

theorem insertEntry_eq_put (e : Data × Data) (fs : List (Data × Data)) :
    insertEntry e fs = put Prod.fst e fs := by
  induction fs with
  | nil => rfl
  | cons f fs ih =>
    cases h : e.1.order f.1 <;> simp [insertEntry, put, h, ih]

theorem setOf_eq_gathered (ds : List Data) : setOf ds = set (gathered id ds) := by
  simp only [setOf, gathered, insert_eq_put]

theorem mapOf_eq_gathered (es : List (Data × Data)) : mapOf es = map (gathered Prod.fst es) := by
  simp only [mapOf, gathered, insertEntry_eq_put]

/-! ## 2. Putting one thing into its place -/

variable {key : α → Data} {a x : α} {as bs : List α}

theorem order_lt_of_lt_of_increasing {b : α} (hb : (key a).order (key b) = .lt)
    (h : Increasing key (b :: bs)) : ∀ x ∈ b :: bs, (key a).order (key x) = .lt :=
  List.forall_mem_cons.mpr ⟨hb, fun _ hx =>
    Std.TransCmp.lt_trans hb ((List.pairwise_cons.mp h).1 _ hx)⟩

theorem order_lt_of_eq_of_increasing {b : α} (hb : (key a).order (key b) = .eq)
    (h : Increasing key (b :: bs)) : ∀ x ∈ bs, (key a).order (key x) = .lt := fun x hx => by
  rw [(order_follows (key a) (key b) (key x)).left hb]
  exact (List.pairwise_cons.mp h).1 x hx

/-- What stands in the row then is the thing itself, and all that did not rank with it. -/
theorem mem_put (h : Increasing key as) :
    x ∈ put key a as ↔ x = a ∨ x ∈ as ∧ (key a).order (key x) ≠ .eq := by
  induction as with
  | nil => simp [put]
  | cons b bs ih =>
    rw [put]
    cases hb : (key a).order (key b) with
    | lt =>
      have hlt := order_lt_of_lt_of_increasing hb h
      rw [List.mem_cons]
      refine or_congr_right ⟨fun hx => ⟨hx, ?_⟩, And.left⟩
      rw [hlt x hx]
      nofun
    | eq =>
      have hlt := order_lt_of_eq_of_increasing hb h
      rw [List.mem_cons, List.mem_cons]
      refine or_congr_right ⟨fun hx => ⟨.inr hx, ?_⟩, ?_⟩
      · rw [hlt x hx]
        nofun
      · rintro ⟨rfl | hx, hne⟩
        · exact absurd hb hne
        · exact hx
    | gt =>
      rw [List.mem_cons, ih (List.pairwise_cons.mp h).2, List.mem_cons]
      constructor
      · rintro (rfl | rfl | ⟨hx, hne⟩)
        · refine .inr ⟨.inl rfl, ?_⟩
          rw [hb]
          nofun
        · exact .inl rfl
        · exact .inr ⟨.inr hx, hne⟩
      · rintro (rfl | ⟨rfl | hx, hne⟩)
        · exact .inr (.inl rfl)
        · exact .inl rfl
        · exact .inr (.inr ⟨hx, hne⟩)

/-- The row keeps increasing. -/
theorem increasing_put (h : Increasing key as) : Increasing key (put key a as) := by
  induction as with
  | nil => exact List.pairwise_singleton _ _
  | cons b bs ih =>
    obtain ⟨hfirst, hrest⟩ := List.pairwise_cons.mp h
    rw [put]
    cases hb : (key a).order (key b) with
    | lt => exact List.pairwise_cons.mpr ⟨order_lt_of_lt_of_increasing hb h, h⟩
    | eq => exact List.pairwise_cons.mpr ⟨order_lt_of_eq_of_increasing hb h, hrest⟩
    | gt =>
      refine List.pairwise_cons.mpr ⟨fun x hx => ?_, ih hrest⟩
      rcases (mem_put hrest).mp hx with rfl | ⟨hx, -⟩
      · rw [← order_swap, hb, Ordering.swap_gt]
      · exact hfirst x hx

/-! ## 3. All of a row -/

theorem gathered_concat (as : List α) (a : α) :
    gathered key (as ++ [a]) = put key a (gathered key as) := by
  rw [gathered, List.foldl_append, List.foldl_cons, List.foldl_nil, gathered]

theorem increasing_gathered (key : α → Data) (as : List α) : Increasing key (gathered key as) := by
  induction as using List.reverseRecOn with
  | nil => exact .nil
  | append_singleton as a ih =>
    rw [gathered_concat]
    exact increasing_put ih

/-- **What is left of a row**: what nothing after it ranks with. -/
theorem mem_gathered : x ∈ gathered key as ↔
    ∃ front back, as = front ++ x :: back ∧ ∀ b ∈ back, (key b).order (key x) ≠ .eq := by
  induction as using List.reverseRecOn with
  | nil => simp [gathered]
  | append_singleton as a ih =>
    rw [gathered_concat, mem_put (increasing_gathered key as), ih]
    constructor
    · rintro (rfl | ⟨⟨front, back, rfl, hback⟩, hne⟩)
      · exact ⟨as, [], rfl, nofun⟩
      · refine ⟨front, back ++ [a], by simp, ?_⟩
        rw [List.forall_mem_append, List.forall_mem_singleton]
        exact ⟨hback, hne⟩
    · rintro ⟨front, back, heq, hback⟩
      rcases List.eq_nil_or_concat back with rfl | ⟨back, b, rfl⟩
      · exact .inl (List.singleton_inj.mp (List.append_inj' heq rfl).2).symm
      · rw [List.concat_eq_append, ← List.cons_append, ← List.append_assoc] at heq
        obtain ⟨rfl, hlast⟩ := List.append_inj' heq rfl
        obtain rfl : a = b := List.singleton_inj.mp hlast
        rw [List.concat_eq_append, List.forall_mem_append, List.forall_mem_singleton] at hback
        exact .inr ⟨⟨front, back, rfl, hback.1⟩, hback.2⟩

theorem mem_of_mem_gathered (h : x ∈ gathered key as) : x ∈ as := by
  obtain ⟨front, back, rfl, -⟩ := mem_gathered.mp h
  exact List.mem_append_right _ List.mem_cons_self

/-- No key is lost. -/
theorem exists_mem_gathered (key : α → Data) (ha : a ∈ as) :
    ∃ b ∈ gathered key as, (key a).order (key b) = .eq := by
  induction as using List.reverseRecOn with
  | nil => cases ha
  | append_singleton as c ih =>
    simp only [gathered_concat, mem_put (increasing_gathered key as)]
    rw [List.mem_append, List.mem_singleton] at ha
    rcases ha with ha | rfl
    · obtain ⟨b, hb, hab⟩ := ih ha
      by_cases hcb : (key c).order (key b) = .eq
      · refine ⟨c, .inl rfl, ?_⟩
        rwa [(order_follows (key a) (key b) (key c)).left hab, ← order_swap, Ordering.swap_eq_eq]
      · exact ⟨b, .inr ⟨hb, hcb⟩, hab⟩
    · exact ⟨a, .inl rfl, order_self _⟩

theorem Increasing.nodup (h : Increasing key as) : as.Nodup := by
  refine h.imp fun hlt heq => ?_
  rw [heq, order_self] at hlt
  cases hlt

/-- **A row in increasing order is determined by what stands in it.** -/
theorem eq_of_increasing (key : α → Data) (has : Increasing key as) (hbs : Increasing key bs)
    (h : ∀ x, x ∈ as ↔ x ∈ bs) : as = bs := by
  have hperm : as.Perm bs := (List.perm_ext_iff_of_nodup has.nodup hbs.nodup).mpr h
  refine hperm.eq_of_pairwise (fun a b _ _ hab hba => ?_) has hbs
  rw [order_eq_gt hba] at hab
  cases hab

end WideColumn.Data
