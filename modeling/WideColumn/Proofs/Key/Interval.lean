/-
# A range selects exactly its interval

A START and an END mean an interval of rows: one partition, and in it the rows whose clustering
values lie lexicographically between the two, where each side counts only as many columns as it
has components.  Resolution cuts the two sides into components fixed by equality and bounds on one
column, and the relations made of that have to select the same rows.

* THE INTERVAL is said here of the two sides alone (`Interval`), with no word of fixed components.
* THE RELATIONS are read one by one on the cells of a row (`Relation.holds`).

The two are tied column by column (`within_cons_iff`): where the sides agree on a column, lying
between them is to equal either and to lie between what is left of both; and equal components cut
the column at the same place (`Value.compare?_congr`), so it does not matter that the relation
names the component of the start alone.  A bounding mode only decides about rows that equal the
last component of a side that bounds the column by itself.
-/
import WideColumn.Key.Predicate
import WideColumn.Proofs.Key.Range
import WideColumn.Proofs.Value.Order

namespace WideColumn.Key

/-! ## 1. Relations on a row, and intervals -/

/-- Whether a cell stands to a bound value as a comparison says. -/
def Operator.holds (o : Operator) (cell bound : Value) : Bool :=
  match o with
  | .eq => cell.equals bound
  | .gt => (cell.compare? bound).any Ordering.isGT
  | .ge => (cell.compare? bound).any Ordering.isGE
  | .lt => (cell.compare? bound).any Ordering.isLT
  | .le => (cell.compare? bound).any Ordering.isLE

/-- Whether a row, told by the cells in its columns, satisfies a relation. -/
def Relation.holds (r : Relation) (row : String → Value) : Bool :=
  r.operator.holds (row r.column) r.value

/-- Partition values as one value: the only one, or a tuple of all. -/
def partitionKey : List Value → Value
  | [v] => v
  | vs => .tuple vs

/-- The values of a side up to its first component that is left open. -/
def presentValues (side : List (Option Value)) : List Value :=
  (presentOf side).map componentValue

/-- The lexicographic order of values against bounds, as many places as there are bounds. -/
def orderAgainst? (vs bounds : List Value) : Option Ordering :=
  Value.compareItems? (vs.take bounds.length) bounds

/-- Whether values lie lexicographically between two rows of bounds, both included. -/
def LiesBetween (lower upper vs : List Value) : Prop :=
  (orderAgainst? vs lower).any Ordering.isGE = true
    ∧ (orderAgainst? vs upper).any Ordering.isLE = true

/-- Whether values equal the last component of a side that bounds its column by itself, as a side
does that is at least as deep as the other. -/
def atOwnBound (own other vs : List Value) : Bool :=
  other.length ≤ own.length && (vs.zip own)[own.length - 1]?.any fun (v, b) => v.equals b

/-- Whether a bounding mode lets a side's own bound belong to the range. -/
def Bounding.includes : Bounding → Side → Bool
  | inclusive, _ => true
  | exclusive, _ => false
  | inclusiveStart, side => side == .start
  | inclusiveEnd, side => side == .stop

/-- Whether values equal an own bound that the bounding mode excludes. -/
def MeetsExcluded (bounding : Bounding) (lower upper vs : List Value) : Prop :=
  (bounding.includes .start = false ∧ atOwnBound lower upper vs = true)
    ∨ (bounding.includes .stop = false ∧ atOwnBound upper lower vs = true)

/-- What two sides mean: a partition, and rows of clustering bounds from below and from above. -/
structure Interval where
  partition : Value
  lower : List Value
  upper : List Value

/-- The interval of two sides that both tell a partition. -/
def Interval.of? (start stop : List (Option Value)) : Option Interval :=
  match presentValues start, presentValues stop with
  | p :: lower, _ :: upper => some ⟨p, lower, upper⟩
  | _, _ => none

/-- Whether a row belongs to an interval with both bounds included. -/
def Interval.Contains (i : Interval) (partition : Value) (clustering : List Value) : Prop :=
  partition.equals i.partition = true ∧ LiesBetween i.lower i.upper clustering

/-- Whether values have an order with the bounds at their places. -/
def ComparableWith (vs bounds : List Value) : Prop :=
  ∀ p ∈ vs.zip bounds, (p.1.compare? p.2).isSome = true

/-! ## 2. One column -/

theorem comparableWith_cons {v b : Value} {vs bs : List Value} :
    ComparableWith (v :: vs) (b :: bs) ↔ (v.compare? b).isSome = true ∧ ComparableWith vs bs := by
  simp [ComparableWith]

theorem orderAgainst?_nil (vs : List Value) : orderAgainst? vs [] = some .eq := by
  simp [orderAgainst?, Value.compareItems?]

theorem orderAgainst?_cons (v b : Value) (vs bs : List Value) :
    orderAgainst? (v :: vs) (b :: bs) =
      if v.compare? b = some .eq then orderAgainst? vs bs else v.compare? b := by
  simp only [orderAgainst?, List.length_cons, List.take_succ_cons, Value.compareItems?]
  split
  · rename_i h; rw [if_pos h]
  · rename_i h; rw [if_neg h]

theorem orderAgainst?_singleton (v b : Value) (vs : List Value) :
    orderAgainst? (v :: vs) [b] = v.compare? b := by
  rw [orderAgainst?_cons, orderAgainst?_nil]
  split
  · rename_i h; exact h.symm
  · rfl

theorem startOperator_holds_iff {v b : Value} (bounding : Bounding)
    (h : (v.compare? b).isSome = true) :
    bounding.startOperator.holds v b = true ↔
      (v.compare? b).any Ordering.isGE = true ∧
        ¬(bounding.includes .start = false ∧ v.equals b = true) := by
  obtain ⟨o, ho⟩ := Option.isSome_iff_exists.mp h
  rw [← Value.compare?_eq_iff_equals ho]
  cases bounding <;> cases o <;>
    simp [Bounding.startOperator, Bounding.includes, Operator.holds, ho]

theorem endOperator_holds_iff {v b : Value} (bounding : Bounding)
    (h : (v.compare? b).isSome = true) :
    bounding.endOperator.holds v b = true ↔
      (v.compare? b).any Ordering.isLE = true ∧
        ¬(bounding.includes .stop = false ∧ v.equals b = true) := by
  obtain ⟨o, ho⟩ := Option.isSome_iff_exists.mp h
  rw [← Value.compare?_eq_iff_equals ho]
  cases bounding <;> cases o <;>
    simp [Bounding.endOperator, Bounding.includes, Operator.holds, ho]

theorem atOwnBound_cons {a b v : Value} {own other vs : List Value} (h : own ≠ [] ∨ other ≠ []) :
    atOwnBound (a :: own) (b :: other) (v :: vs) = atOwnBound own other vs := by
  cases own with
  | nil =>
    have hlen : 0 < other.length := List.length_pos_iff.mpr (h.resolve_left (by simp))
    simp [atOwnBound, Nat.not_le.mpr hlen]
  | cons c own => simp [atOwnBound]

/-- **Below a column that both sides fix, an interval is what is left of it.** -/
theorem within_cons_iff {bounding : Bounding} {a b v : Value} {lower upper vs : List Value}
    (hab : a.equals b = true) (hv : (v.compare? a).isSome = true) (h : lower ≠ [] ∨ upper ≠ []) :
    LiesBetween (a :: lower) (b :: upper) (v :: vs)
        ∧ ¬MeetsExcluded bounding (a :: lower) (b :: upper) (v :: vs) ↔
      v.equals a = true ∧ LiesBetween lower upper vs ∧ ¬MeetsExcluded bounding lower upper vs := by
  obtain ⟨o, ho⟩ := Option.isSome_iff_exists.mp hv
  have hb : v.compare? b = some o := by rw [← Value.compare?_congr hab v, ho]
  simp only [LiesBetween, MeetsExcluded, orderAgainst?_cons, atOwnBound_cons h,
    atOwnBound_cons h.symm, ← Value.compare?_eq_iff_equals ho, ho, hb]
  cases o <;> simp [and_assoc]

/-! ## 3. The clustering columns -/

/-- A column that is fixed adds an equality in front of the others. -/
theorem clusteringRelations_cons_eq_ok_iff {c : ClusteringColumn} {cs : List ClusteringColumn}
    {bounding : Bounding} {a : Option Value} {fixed : List (Option Value)}
    {r : Range (Option Value)} {rels : List Relation} :
    clusteringRelations (c :: cs) bounding (a :: fixed) r = .ok rels ↔
      ∃ rels', clusteringRelations cs bounding fixed r = .ok rels'
        ∧ rels = ⟨c.name, .eq, componentValue a⟩ :: rels' := by
  simp only [clusteringRelations, List.length_cons]
  generalize (if (r.lower.isSome || r.upper.isSome) = true then 1 else 0) = bounds
  by_cases h : cs.length < fixed.length + bounds
  · rw [if_pos h, if_pos (by omega)]
    simp
  · rw [if_neg h, if_neg (by omega)]
    simp [equalities, eq_comm]

theorem clusteringRelations_nil_cons_ne_ok {bounding : Bounding} {a : Option Value}
    {fixed : List (Option Value)} {r : Range (Option Value)} {rels : List Relation} :
    clusteringRelations [] bounding (a :: fixed) r ≠ .ok rels := by
  rw [clusteringRelations, List.length_nil, List.length_cons]
  simp only
  rw [if_pos (by omega)]
  exact fun h => nomatch h

/-- Where nothing is left to fix, a column is needed only for bounds. -/
theorem clusteringRelations_nil {clustering : List ClusteringColumn} {bounding : Bounding}
    {r : Range (Option Value)}
    (h : clustering = [] → r.lower = none ∧ r.upper = none) :
    clusteringRelations clustering bounding [] r =
      .ok (clustering.head?.toList.flatMap fun c => boundRelations bounding c.name r) := by
  cases clustering with
  | nil =>
    obtain ⟨hl, hu⟩ := h rfl
    simp [clusteringRelations, equalities, hl, hu]
  | cons c cs =>
    simp only [clusteringRelations, List.length_nil, List.length_cons]
    rw [if_neg (by split <;> omega)]
    simp [equalities]

/-- The bounds on a column hold of a row exactly if its value lies within them. -/
theorem boundRelations_hold_iff (bounding : Bounding) {column : String} {l u : Option Value}
    {fixed : List (Option Value)} {row : String → Value} {vs : List Value}
    (hl : ComparableWith (row column :: vs) l.toList)
    (hu : ComparableWith (row column :: vs) u.toList) :
    (∀ q ∈ boundRelations bounding column ⟨fixed, l.map some, u.map some⟩, q.holds row = true) ↔
      LiesBetween l.toList u.toList (row column :: vs)
        ∧ ¬MeetsExcluded bounding l.toList u.toList (row column :: vs) := by
  cases l with
  | none =>
    cases u with
    | none => simp [boundRelations, LiesBetween, MeetsExcluded, orderAgainst?_nil, atOwnBound]
    | some b =>
      have hb := (comparableWith_cons.mp hu).1
      simp [boundRelations, Relation.holds, endOperator_holds_iff bounding hb, LiesBetween,
        MeetsExcluded, orderAgainst?_nil, orderAgainst?_singleton, atOwnBound]
  | some a =>
    have ha := (comparableWith_cons.mp hl).1
    cases u with
    | none =>
      simp [boundRelations, Relation.holds, startOperator_holds_iff bounding ha, LiesBetween,
        MeetsExcluded, orderAgainst?_nil, orderAgainst?_singleton, atOwnBound]
    | some b =>
      have hb := (comparableWith_cons.mp hu).1
      simp [boundRelations, Relation.holds, startOperator_holds_iff bounding ha,
        endOperator_holds_iff bounding hb, LiesBetween, MeetsExcluded, orderAgainst?_singleton,
        atOwnBound]
      exact and_and_and_comm

/-- The clustering relations of bounds alone. -/
theorem clusteringRelations_of_bounds {clustering : List ClusteringColumn} {l u : Option Value}
    {fixed : List (Option Value)} {rels₀ : List Relation}
    (h₀ : clusteringRelations clustering .inclusive [] ⟨fixed, l.map some, u.map some⟩ = .ok rels₀)
    (bounding : Bounding) :
    ∃ rels, clusteringRelations clustering bounding [] ⟨fixed, l.map some, u.map some⟩ = .ok rels
      ∧ ∀ row : String → Value,
        ComparableWith (clustering.map (row ·.name)) l.toList →
        ComparableWith (clustering.map (row ·.name)) u.toList →
        ((∀ q ∈ rels, q.holds row = true) ↔
          LiesBetween l.toList u.toList (clustering.map (row ·.name))
            ∧ ¬MeetsExcluded bounding l.toList u.toList (clustering.map (row ·.name))) := by
  refine ⟨_, clusteringRelations_nil ?_, ?_⟩
  · rintro rfl
    cases l <;> cases u <;> simp_all [clusteringRelations]
  · intro row hl hu
    cases clustering with
    | nil =>
      obtain rfl : l = none := by cases l <;> simp_all [clusteringRelations]
      obtain rfl : u = none := by cases u <;> simp_all [clusteringRelations]
      simp [LiesBetween, MeetsExcluded, orderAgainst?_nil, atOwnBound]
    | cons c cs => simpa using boundRelations_hold_iff bounding hl hu

/-! ## 4. Whole ranges -/

/-- **The clustering relations of a resolved range hold of exactly the rows between its sides**,
but for those that equal an excluded bound. -/
theorem Resolves.clusteringRelations_hold_iff {as bs : List (Option Value)}
    {r : Range (Option Value)} (h : Resolves as bs r) (has : ∀ a ∈ as, a.isSome = true)
    (hbs : ∀ b ∈ bs, b.isSome = true) {clustering : List ClusteringColumn} {rels₀ : List Relation}
    (h₀ : clusteringRelations clustering .inclusive r.fixed r = .ok rels₀) (bounding : Bounding) :
    ∃ rels, clusteringRelations clustering bounding r.fixed r = .ok rels
      ∧ ∀ row : String → Value,
        ComparableWith (clustering.map (row ·.name)) (as.map componentValue) →
        ComparableWith (clustering.map (row ·.name)) (bs.map componentValue) →
        ((∀ q ∈ rels, q.holds row = true) ↔
          LiesBetween (as.map componentValue) (bs.map componentValue)
              (clustering.map (row ·.name))
            ∧ ¬MeetsExcluded bounding (as.map componentValue) (bs.map componentValue)
              (clustering.map (row ·.name))) := by
  induction h generalizing clustering rels₀ with
  | nothing => exact clusteringRelations_of_bounds (l := none) (u := none) h₀ bounding
  | lower a =>
    obtain ⟨v, rfl⟩ := Option.isSome_iff_exists.mp (has a (by simp))
    exact clusteringRelations_of_bounds (l := some v) (u := none) h₀ bounding
  | upper b =>
    obtain ⟨w, rfl⟩ := Option.isSome_iff_exists.mp (hbs b (by simp))
    exact clusteringRelations_of_bounds (l := none) (u := some w) h₀ bounding
  | @both a b lt =>
    obtain ⟨v, rfl⟩ := Option.isSome_iff_exists.mp (has a (by simp))
    obtain ⟨w, rfl⟩ := Option.isSome_iff_exists.mp (hbs b (by simp))
    exact clusteringRelations_of_bounds (l := some v) (u := some w) h₀ bounding
  | @fix a b as bs r same more _ ih =>
    obtain ⟨v, rfl⟩ := Option.isSome_iff_exists.mp (has a (by simp))
    obtain ⟨w, rfl⟩ := Option.isSome_iff_exists.mp (hbs b (by simp))
    have hmore : as.map componentValue ≠ [] ∨ bs.map componentValue ≠ [] := by simpa using more
    cases clustering with
    | nil => exact absurd h₀ clusteringRelations_nil_cons_ne_ok
    | cons c cs =>
      obtain ⟨rels₀, h₀, -⟩ := clusteringRelations_cons_eq_ok_iff.mp h₀
      obtain ⟨rels, hrels, holds⟩ := ih (fun a ha => has a (List.mem_cons_of_mem _ ha))
        (fun b hb => hbs b (List.mem_cons_of_mem _ hb)) h₀
      refine ⟨_, clusteringRelations_cons_eq_ok_iff.mpr ⟨rels, hrels, rfl⟩, ?_⟩
      intro row hlower hupper
      obtain ⟨hv, hlower⟩ := comparableWith_cons.mp hlower
      obtain ⟨-, hupper⟩ := comparableWith_cons.mp hupper
      rw [List.forall_mem_cons, holds row hlower hupper]
      exact (within_cons_iff same hv hmore).symm

theorem equalities_hold_iff (row : String → Value) : ∀ {columns : List String}
    {values : List Value}, values.length = columns.length →
    ((∀ q ∈ equalities columns values, q.holds row = true) ↔
      Value.equalItems (columns.map row) values = true)
  | [], [], _ => by simp [equalities, Value.equalItems]
  | column :: columns, v :: values, h => by
    have ih := equalities_hold_iff row (Nat.succ.inj h)
    have hcons : equalities (column :: columns) (v :: values) =
        ⟨column, .eq, v⟩ :: equalities columns values := rfl
    rw [hcons, List.forall_mem_cons, ih, List.map_cons, Value.equalItems, Bool.and_eq_true]
    rfl

theorem partitionKey_eq_tuple {vs : List Value} (h : vs.length ≠ 1) :
    partitionKey vs = .tuple vs := by
  rw [partitionKey]
  rintro v rfl
  exact h rfl

/-- Other than one partition column take a tuple of as many values. -/
theorem partitionRelations_eq_ok {columns : List String} {p : Value} {rels : List Relation}
    (hcolumns : columns.length ≠ 1) (h : partitionRelations columns p = .ok rels) :
    ∃ items, p = .tuple items ∧ items.length = columns.length
      ∧ rels = equalities columns items := by
  rw [partitionRelations.eq_def] at h
  split at h
  · exact absurd rfl hcolumns
  · split at h
    · rename_i hlen
      exact ⟨_, rfl, beq_iff_eq.mp hlen, (Except.ok.inj h).symm⟩
    · cases h
  · cases h

/-- As many values as there are partition columns become equalities, alone or as a tuple. -/
theorem partitionRelations_partitionKey {columns : List String} {vs : List Value}
    (h : vs.length = columns.length) :
    partitionRelations columns (partitionKey vs) = .ok (equalities columns vs) := by
  by_cases hone : columns.length = 1
  · obtain ⟨column, rfl⟩ := List.length_eq_one_iff.mp hone
    obtain ⟨v, rfl⟩ := List.length_eq_one_iff.mp (h.trans hone)
    rfl
  · have hnot : ∀ column, columns ≠ [column] := by
      rintro column rfl
      exact hone rfl
    rw [partitionKey_eq_tuple (h ▸ hone), partitionRelations.eq_2 _ _ hnot,
      if_pos (by simpa using h)]

/-- The relations of the partition columns hold of exactly the rows of one partition. -/
theorem partitionRelations_hold_iff {columns : List String} {p : Value} {rels : List Relation}
    (h : partitionRelations columns p = .ok rels) (row : String → Value) :
    (∀ q ∈ rels, q.holds row = true) ↔ (partitionKey (columns.map row)).equals p = true := by
  by_cases hone : columns.length = 1
  · obtain ⟨column, rfl⟩ := List.length_eq_one_iff.mp hone
    obtain rfl : [⟨column, .eq, p⟩] = rels := Except.ok.inj h
    simp [Relation.holds, Operator.holds, partitionKey]
  · obtain ⟨items, rfl, hlen, rfl⟩ := partitionRelations_eq_ok hone h
    rw [partitionKey_eq_tuple (by simpa using hone), Value.equals]
    exact equalities_hold_iff row hlen

theorem isSome_of_mem_presentOf {side : List (Option Value)} {a : Option Value}
    (h : a ∈ presentOf side) : a.isSome = true := by
  have hpresent : ∀ c ∈ presentOf side, (!Component.absent c) = true :=
    List.all_eq_true.mp List.all_takeWhile
  cases a with
  | none => exact absurd (hpresent none h) (by simp [Component.absent])
  | some v => rfl

/-- **A range selects exactly the rows of its interval**: the relations made of it in any bounding
mode hold of a row exactly if the row lies in the interval of the two sides and meets no bound
that the mode excludes, and with both sides empty of every row.  Rows need an order only with the
components at the places of their own clustering values. -/
theorem predicate_selects_interval {start stop : List (Option Value)}
    {range : Range (Option Value)} {partitionColumns : List String}
    {clustering : List ClusteringColumn} {direction : Direction} {p₀ : Predicate}
    (hrange : resolve start stop = .ok range)
    (h₀ : range.predicate partitionColumns clustering .inclusive direction = .ok p₀)
    (bounding : Bounding) :
    ∃ p, range.predicate partitionColumns clustering bounding direction = .ok p
      ∧ ∀ row : String → Value,
        (∀ i, Interval.of? start stop = some i →
          ComparableWith (clustering.map (row ·.name)) i.lower
            ∧ ComparableWith (clustering.map (row ·.name)) i.upper) →
        ((∀ q ∈ p.relations, q.holds row = true) ↔
          start = [] ∧ stop = [] ∨
          ∃ i, Interval.of? start stop = some i
            ∧ i.Contains (partitionKey (partitionColumns.map row)) (clustering.map (row ·.name))
            ∧ ¬MeetsExcluded bounding i.lower i.upper (clustering.map (row ·.name))) := by
  rcases resolve_eq_ok_iff.mp hrange with ⟨rfl, rfl, rfl⟩ | ⟨hne, -, -, a, as, b, bs, r, hs, he, -,
    hsteps, rfl⟩
  · exact ⟨_, rfl, fun _ _ => by simp⟩
  · obtain ⟨first, hfirst, hothers⟩ := Except.bind_eq_ok_iff.mp h₀
    obtain ⟨others, hothers, -⟩ := Except.bind_eq_ok_iff.mp hothers
    obtain ⟨rels, hrels, holds⟩ := hsteps.clusteringRelations_hold_iff
      (fun c hc => isSome_of_mem_presentOf (hs ▸ List.mem_cons_of_mem _ hc))
      (fun c hc => isSome_of_mem_presentOf (he ▸ List.mem_cons_of_mem _ hc)) hothers bounding
    have hof : Interval.of? start stop =
        some ⟨componentValue a, as.map componentValue, bs.map componentValue⟩ := by
      simp [Interval.of?, presentValues, hs, he]
    refine ⟨⟨first ++ rels, clustering.map (·.orderItem direction)⟩, ?_, ?_⟩
    · exact Except.bind_eq_ok_iff.mpr ⟨first, hfirst, Except.bind_eq_ok_iff.mpr ⟨rels, hrels, rfl⟩⟩
    · intro row hcomparable
      obtain ⟨hlower, hupper⟩ := hcomparable _ hof
      simp only [List.forall_mem_append, partitionRelations_hold_iff hfirst row,
        holds row hlower hupper, hne, false_or, hof, Option.some.injEq, exists_eq_left',
        Interval.Contains, and_assoc]

/-- Beyond an excluded bound on the second of two clustering columns there is the next row, but
not the row at the bound. -/
theorem predicate_selects_interval_beyond_three :
    ∃ p, Range.predicate ⟨[some (.int 1), some (.int 2)], some (some (.int 3)), none⟩ ["k"]
        [⟨"c", true⟩, ⟨"d", false⟩] .exclusive .ascending = .ok p
      ∧ (∀ q ∈ p.relations, q.holds
        (fun | "k" => .int 1 | "c" => .int 2 | _ => .int 4) = true)
      ∧ ¬(∀ q ∈ p.relations, q.holds
        (fun | "k" => .int 1 | "c" => .int 2 | _ => .int 3) = true) := by
  have hsame (i : Int32) : (Value.int i).equals (.int i) = true := by simp [Value.equals]
  have hrange : resolve [some (Value.int 1), some (.int 2), some (.int 3)]
      [some (.int 1), some (.int 2)] =
        .ok ⟨[some (.int 1), some (.int 2)], some (some (.int 3)), none⟩ :=
    resolve_eq_ok_iff.mpr <| Or.inr ⟨by simp, rfl, rfl, _, _, _, _, _, rfl, rfl, hsame 1,
      .fix (hsame 2) (Or.inl (List.cons_ne_nil _ _)) (.lower _), rfl⟩
  have hof : Interval.of? [some (Value.int 1), some (.int 2), some (.int 3)]
      [some (.int 1), some (.int 2)] = some ⟨.int 1, [.int 2, .int 3], [.int 2]⟩ := rfl
  obtain ⟨p, hp, h⟩ :=
    @predicate_selects_interval _ _ _ ["k"] [⟨"c", true⟩, ⟨"d", false⟩] .ascending _ hrange
      (by rfl) .exclusive
  simp only [hof, Option.some.injEq, forall_eq', exists_eq_left', ComparableWith] at h
  refine ⟨p, hp, (h _ (by decide)).mpr (Or.inr ⟨⟨hsame 1, ?_⟩, ?_⟩), fun hall => ?_⟩
  · simp only [LiesBetween]
    decide
  · simp [MeetsExcluded, atOwnBound, Value.equals]
  · rcases (h _ (by decide)).mp hall with ⟨hempty, -⟩ | ⟨-, hnot⟩
    · cases hempty
    · exact hnot (Or.inl ⟨rfl, hsame 3⟩)

end WideColumn.Key
