/-
# A pager keeps the order of its scan

The statement of a slice orders the rows by every clustering column, and the pager watches the one
that the range leaves varying, in the direction that ORDER BY gives it (`start_order`).  What it
compares is a row with the last one before it that has the column, so its check is one of
NEIGHBOURS.

Values that are pairwise comparable make this a check of the whole scan: the order of a scan is
transitive (`InOrder.trans`), so neighbours in order are all in order (`pairwise_inOrder`).  The
pager fails at the first row that lies BEHIND (`BehindAt`), wherever the pages end.
-/
import WideColumn.Proofs.Mapping.Failure
import WideColumn.Proofs.Pager.Stop
import WideColumn.Proofs.Value.StrictOrder

namespace WideColumn

open WideColumn.Key

/-! ## 1. Values in the order of a scan -/

namespace Value

/-- Whether a value may come before another in a scan; equal ones may. -/
def InOrder (ascending : Bool) (a b : Value) : Prop :=
  a.compare? b = some .eq ∨ a.compare? b = some (if ascending then .lt else .gt)

variable {ascending : Bool}

theorem InOrder.trans {a b c : Value} (hab : a.InOrder ascending b) (hbc : b.InOrder ascending c) :
    a.InOrder ascending c := by
  rcases hab with hab | hab
  · rw [InOrder, compare?_congr_left hab]
    exact hbc
  · rcases hbc with hbc | hbc
    · exact Or.inr (compare?_congr (equals_of_compare? hbc) a ▸ hab)
    · exact Or.inr (compare?_trans hab hbc)

theorem InOrder.comparable {a b : Value} (h : a.InOrder ascending b) :
    (a.compare? b).isSome := by
  rcases h with h | h <;> rw [h] <;> rfl

instance : Trans (InOrder ascending) (InOrder ascending) (InOrder ascending) := ⟨InOrder.trans⟩

end Value

namespace Tracked

variable {ascending : Bool} {previous current : Value}

theorem backwards_eq_true_iff : backwards ascending current previous = true ↔
    current.compare? previous = some (if ascending then .lt else .gt) := by
  rw [backwards]
  cases current.compare? previous with
  | none => simp
  | some o => cases o <;> cases ascending <;> simp

/-- Of two comparable values the later one lies behind or they are in order. -/
theorem inOrder_iff_not_backwards (hcomparable : (previous.compare? current).isSome) :
    previous.InOrder ascending current ↔ backwards ascending current previous = false := by
  obtain ⟨o, ho⟩ := Option.isSome_iff_exists.mp hcomparable
  rw [Value.InOrder, backwards, ho, Value.compare?_eq_some_swap ho]
  cases o <;> cases ascending <;> decide

/-- **Neighbours in order are all in order**, if all can be compared. -/
theorem pairwise_inOrder {vs : List Value}
    (hforward : vs.IsChain fun previous current => backwards ascending current previous = false)
    (hcomparable : vs.Pairwise fun a b => (a.compare? b).isSome) :
    vs.Pairwise (Value.InOrder ascending) := by
  rw [← List.isChain_iff_pairwise, List.isChain_iff_getElem]
  rw [List.isChain_iff_getElem] at hforward
  rw [List.pairwise_iff_getElem] at hcomparable
  intro i hi
  have hneighbours := hcomparable i (i + 1) (Nat.lt_of_succ_lt hi) hi (Nat.lt_succ_self i)
  exact (inOrder_iff_not_backwards hneighbours).mpr (hforward i hi)

end Tracked

/-! ## 2. Rows that lie behind -/

/-- The values of a column in rows, in order; rows that lack the column have none. -/
def valuesOf (column : String) (rows : List Row) : List Value :=
  rows.filterMap (·.get? column)

/-- **A row lies behind**: its value of the column is strictly behind the last one before it. -/
structure BehindAt (column : String) (ascending : Bool) (rows : List Row) (n : Nat)
    (previous current : Value) : Prop where
  cell : (rows[n]?.bind (·.get? column)) = some current
  last : (valuesOf column (rows.take n)).getLast? = some previous
  behind : current.compare? previous = some (if ascending then .lt else .gt)

/-- The first row that lies behind. -/
def FirstBehind (column : String) (ascending : Bool) (rows : List Row) (n : Nat)
    (previous current : Value) : Prop :=
  BehindAt column ascending rows n previous current
    ∧ ∀ k < n, ∀ previous' current', ¬BehindAt column ascending rows k previous' current'

section Behind

variable {column : String} {ascending : Bool} {rows before : List Row} {n : Nat}
  {previous current : Value}

/-- Whether a row lies behind is settled by the rows up to it. -/
theorem behindAt_append_iff (rest : List Row) (h : n < before.length) :
    BehindAt column ascending (before ++ rest) n previous current ↔
      BehindAt column ascending before n previous current := by
  have hcell : (before ++ rest)[n]? = before[n]? := List.getElem?_append_left h
  have htake : (before ++ rest).take n = before.take n := List.take_append_of_le_length h.le
  constructor
  · rintro ⟨h₁, h₂, h₃⟩
    exact ⟨hcell ▸ h₁, htake ▸ h₂, h₃⟩
  · rintro ⟨h₁, h₂, h₃⟩
    exact ⟨hcell.symm ▸ h₁, htake.symm ▸ h₂, h₃⟩

theorem BehindAt.lt_length (h : BehindAt column ascending rows n previous current) :
    n < rows.length := by
  by_contra hn
  have hcell := h.cell
  rw [List.getElem?_eq_none (Nat.le_of_not_lt hn)] at hcell
  cases hcell

/-- If a row lies behind, there is a first one that does. -/
theorem exists_firstBehind (h : BehindAt column ascending rows n previous current) :
    ∃ k ≤ n, ∃ previous' current', FirstBehind column ascending rows k previous' current' := by
  induction n using Nat.strongRecOn generalizing previous current with
  | _ n ih =>
    by_cases hfirst : ∀ k < n, ∀ previous' current',
        ¬BehindAt column ascending rows k previous' current'
    · exact ⟨n, Nat.le_refl n, previous, current, h, hfirst⟩
    · push Not at hfirst
      obtain ⟨k, hk, previous', current', hbehind⟩ := hfirst
      obtain ⟨j, hj, hfirst⟩ := ih k hk hbehind
      exact ⟨j, hj.trans hk.le, hfirst⟩

theorem FirstBehind.unique {k : Nat} {previous' current' : Value}
    (h : FirstBehind column ascending rows n previous current)
    (h' : FirstBehind column ascending rows k previous' current') :
    k = n ∧ previous' = previous ∧ current' = current := by
  obtain rfl : k = n := by
    rcases Nat.lt_trichotomy k n with hlt | heq | hgt
    · exact absurd h'.1 (h.2 k hlt _ _)
    · exact heq
    · exact absurd h.1 (h'.2 n hgt _ _)
  exact ⟨rfl, Option.some.inj (h'.1.last.symm.trans h.1.last),
    Option.some.inj (h'.1.cell.symm.trans h.1.cell)⟩

end Behind

namespace Tracked

variable {t : Tracked} {rows : List Row}

theorem forward_iff_isChain (hlast : t.last = none) : t.Forward rows ↔
    (valuesOf t.column rows).IsChain
      fun previous current => backwards t.ascending current previous = false := by
  rw [Forward, hlast]
  rfl

/-- One row more goes forward unless it lies behind. -/
theorem forward_concat_iff (hlast : t.last = none) {row : Row} :
    t.Forward (rows ++ [row]) ↔ t.Forward rows ∧ ∀ previous current,
      ¬BehindAt t.column t.ascending (rows ++ [row]) rows.length previous current := by
  have hcell : (rows ++ [row])[rows.length]?.bind (·.get? t.column) = row.get? t.column := by simp
  have hseen : valuesOf t.column ((rows ++ [row]).take rows.length) =
      rows.filterMap (·.get? t.column) := by rw [List.take_left, valuesOf]
  simp only [Forward, hlast, Option.toList_none, List.nil_append, List.filterMap_append,
    List.isChain_append]
  refine and_congr_right fun _ => ?_
  cases hrow : row.get? t.column with
  | none =>
    -- a row that lacks the column is neither checked nor behind
    constructor
    · intro _ previous current h
      rw [← hcell, h.cell] at hrow
      cases hrow
    · intro _
      simp [hrow]
  | some current =>
    simp only [List.filterMap_cons, hrow, List.filterMap_nil, List.isChain_singleton, true_and,
      List.head?_cons, Option.mem_some_iff, forall_eq']
    constructor
    · intro hforward previous current' h
      obtain rfl : current = current' := Option.some.inj (hrow.symm.trans (hcell ▸ h.cell))
      have hback := backwards_eq_true_iff.mpr h.behind
      rw [hforward previous (hseen ▸ h.last)] at hback
      cases hback
    · intro h previous hprevious
      rw [← Bool.not_eq_true, backwards_eq_true_iff]
      exact fun hbehind => h previous current ⟨hcell.trans hrow, hseen ▸ hprevious, hbehind⟩

/-- **Rows go forward exactly if none lies behind.** -/
theorem forward_iff (hlast : t.last = none) : t.Forward rows ↔
    ∀ n previous current, ¬BehindAt t.column t.ascending rows n previous current := by
  induction rows using List.reverseRecOn with
  | nil =>
    refine ⟨fun _ n previous current h => ?_, fun _ => ?_⟩
    · cases h.cell
    · simp [Forward, hlast]
  | append_singleton rows row ih =>
    rw [forward_concat_iff hlast, ih]
    constructor
    · rintro ⟨hrows, hrow⟩ n previous current h
      have hn := h.lt_length
      rw [List.length_append, List.length_singleton] at hn
      rcases Nat.lt_or_eq_of_le (Nat.le_of_lt_succ hn) with hn | rfl
      · exact hrows n _ _ ((behindAt_append_iff [row] hn).mp h)
      · exact hrow _ _ h
    · intro h
      exact ⟨fun n previous current hbehind =>
        h n _ _ ((behindAt_append_iff [row] hbehind.lt_length).mpr hbehind), h rows.length⟩

end Tracked

/-! ## 3. Where a pager stops for the order -/

/-- **A pager stops at the first row that lies behind**, or else after all rows. -/
theorem Stops.cases_behind {t : Tracked} (hlast : t.last = none) {rows given : List Row}
    {failure : Option StoreError} {stop : Option Error}
    (h : Stops (some t) rows failure given stop) :
    (given = rows ∧ stop = failure.map .store
        ∧ ∀ n previous current, ¬BehindAt t.column t.ascending rows n previous current)
      ∨ ∃ previous current, FirstBehind t.column t.ascending rows given.length previous current
        ∧ given = rows.take given.length
        ∧ stop = some (.pageOutOfOrder t.column previous.spoken current.spoken
          (Tracked.directionName t.ascending)) := by
  cases h with
  | told hforward => exact Or.inl ⟨rfl, rfl, (Tracked.forward_iff hlast).mp (hforward t rfl)⟩
  | @backwards _ htracked _ after row hrows hforward current previous hcurrent hprevious hback =>
    cases htracked
    subst hrows
    have hseen : (valuesOf t.column given).getLast? = some previous := by
      rw [← hprevious, Tracked.seen, hlast]
      rfl
    refine Or.inr ⟨previous, current, ⟨⟨?_, ?_, ?_⟩, ?_⟩, ?_, rfl⟩
    · simpa using hcurrent
    · rw [List.take_left]
      exact hseen
    · exact Tracked.backwards_eq_true_iff.mp hback
    · intro k hk previous' current' hbehind
      exact (Tracked.forward_iff hlast).mp hforward k _ _
        ((behindAt_append_iff (row :: after) hk).mp hbehind)
    · exact (List.take_left).symm

namespace Pager

variable {m : Mapping} {p p' : Pager} {session session' : Session}

/-- Whether a call gives the failure of a row out of order. -/
def OutOfOrder (r : Option (Except Error m.Record)) : Prop :=
  ∃ column previous current direction,
    r = some (.error (.pageOutOfOrder column previous current direction))

theorem not_outOfOrder_ofRow (row : Row) : ¬OutOfOrder (some (m.ofRow row)) := by
  rintro ⟨_, _, _, _, h⟩
  obtain ⟨_, _, _, hread⟩ := m.ofRow_failsAs row _ (Option.some.inj h)
  cases hread

theorem not_outOfOrder_store (failure : Option StoreError) :
    ¬OutOfOrder (m := m) ((failure.map Error.store).map Except.error) := by
  rintro ⟨_, _, _, _, h⟩
  cases failure <;> cases h

/-- **A pager keeps the order of its scan** on a column, over the rows that a session tells. -/
structure KeepsOrder (m : Mapping) (p : Pager) (session : Session) (column : String)
    (ascending : Bool) : Prop where
  /-- It fails so exactly at the first row that lies behind. -/
  refuses : ∀ n, OutOfOrder (result m n p session) ↔
    ∃ previous current, FirstBehind column ascending session.told.1 n previous current
  /-- The failure names the column, both values and the direction. -/
  names : ∀ n previous current, FirstBehind column ascending session.told.1 n previous current →
    result m n p session = some (.error (.pageOutOfOrder column previous.spoken current.spoken
      (if ascending then "ascending" else "descending")))
  /-- Every row before that is taken out. -/
  gives : ∀ n row, session.told.1[n]? = some row →
    (∀ k ≤ n, ¬OutOfOrder (result m k p session)) → result m n p session = some (m.ofRow row)
  /-- Comparable values of the rows taken out before are all in order. -/
  ordered : (valuesOf column session.told.1).Pairwise (fun a b => (a.compare? b).isSome) →
    ∀ n, (∀ k < n, ¬OutOfOrder (result m k p session)) →
      (valuesOf column (session.told.1.take n)).Pairwise (Value.InOrder ascending)
  /-- Rows in order never fail so. -/
  sorted : (valuesOf column session.told.1).Pairwise (Value.InOrder ascending) →
    ∀ n, ¬OutOfOrder (result m n p session)

section Calls

variable {given : List Row} {stop : Option Error}
  (hcalls : ∀ n, result m n p session =
    (given.map m.ofRow ++ (stop.map Except.error).toList)[n]?)

include hcalls

theorem result_of_given {n : Nat} {row : Row} (h : given[n]? = some row) :
    result m n p session = some (m.ofRow row) := by
  have hn := (List.getElem?_eq_some_iff.mp h).1
  rw [hcalls, List.getElem?_append_left (by rwa [List.length_map]), List.getElem?_map, h]
  rfl

/-- Only the call after all rows may fail for the order. -/
theorem outOfOrder_iff_of_calls (n : Nat) : OutOfOrder (result m n p session) ↔
    n = given.length ∧ OutOfOrder (m := m) (stop.map Except.error) := by
  have hlength : (given.map m.ofRow).length = given.length := List.length_map _
  rcases Nat.lt_trichotomy n given.length with hn | rfl | hn
  · rw [result_of_given hcalls (List.getElem?_eq_getElem hn)]
    exact ⟨fun h => absurd h (not_outOfOrder_ofRow _), fun h => absurd h.1 hn.ne⟩
  · rw [hcalls, List.getElem?_append_right (by omega), hlength, Nat.sub_self]
    cases stop <;> simp
  · have hone : (stop.map (Except.error (α := m.Record))).toList.length ≤ 1 := by
      cases stop <;> simp
    rw [hcalls, List.getElem?_append_right (by omega), hlength,
      List.getElem?_eq_none (by omega)]
    exact ⟨fun ⟨_, _, _, _, h⟩ => (nomatch h), fun h => absurd h.1 hn.ne'⟩

variable {t : Tracked} (hlast : t.last = none)
  (hstops : Stops (some t) session.told.1 session.told.2 given stop)

include hlast hstops

/-- The first row that lies behind is refused with its value and the last one before it. -/
theorem result_of_firstBehind {n : Nat} {previous current : Value}
    (h : FirstBehind t.column t.ascending session.told.1 n previous current) :
    result m n p session = some (.error (.pageOutOfOrder t.column previous.spoken current.spoken
      (if t.ascending then "ascending" else "descending"))) := by
  rcases hstops.cases_behind hlast with ⟨-, -, hnone⟩ | ⟨_, _, hfirst, -, rfl⟩
  · exact absurd h.1 (hnone n _ _)
  · obtain ⟨rfl, rfl, rfl⟩ := hfirst.unique h
    rw [hcalls, List.getElem?_append_right (List.length_map _).le]
    simp [Tracked.directionName]

/-- A call fails for the order exactly at the first row that lies behind. -/
theorem outOfOrder_iff_firstBehind (n : Nat) : OutOfOrder (result m n p session) ↔
    ∃ previous current, FirstBehind t.column t.ascending session.told.1 n previous current := by
  constructor
  · rw [outOfOrder_iff_of_calls hcalls]
    rintro ⟨rfl, hstop⟩
    rcases hstops.cases_behind hlast with ⟨-, rfl, -⟩ | ⟨previous, current, hfirst, -, -⟩
    · exact absurd hstop (not_outOfOrder_store _)
    · exact ⟨previous, current, hfirst⟩
  · rintro ⟨previous, current, hfirst⟩
    exact ⟨_, _, _, _, result_of_firstBehind hcalls hlast hstops hfirst⟩

/-- Before a call fails for the order, rows are given in their places. -/
theorem given_of_told {n : Nat} {row : Row} (hrow : session.told.1[n]? = some row)
    (hbefore : ∀ k ≤ n, ¬OutOfOrder (result m k p session)) : given[n]? = some row := by
  rcases hstops.cases_behind hlast with ⟨rfl, -, -⟩ | ⟨_, _, hfirst, hgiven, -⟩
  · exact hrow
  · have hn : n < given.length := by
      by_contra hn
      exact hbefore _ (Nat.le_of_not_lt hn)
        ((outOfOrder_iff_firstBehind hcalls hlast hstops _).mpr ⟨_, _, hfirst⟩)
    rw [hgiven, List.getElem?_take_of_lt hn, hrow]

/-- Before a call fails for the order, the rows taken out go forward. -/
theorem forward_take {n : Nat} (hbefore : ∀ k < n, ¬OutOfOrder (result m k p session)) :
    t.Forward (session.told.1.take n) := by
  rw [Tracked.forward_iff hlast]
  intro k previous current hbehind
  have hk := hbehind.lt_length
  rw [← behindAt_append_iff (session.told.1.drop n) hk, List.take_append_drop] at hbehind
  obtain ⟨j, hj, hfirst⟩ := exists_firstBehind hbehind
  rw [List.length_take] at hk
  exact hbefore j (by omega) ((outOfOrder_iff_firstBehind hcalls hlast hstops j).mpr hfirst)

/-- **A pager that stops where the order breaks keeps the order.** -/
theorem keepsOrder_of_stops : KeepsOrder m p session t.column t.ascending where
  refuses := outOfOrder_iff_firstBehind hcalls hlast hstops
  names _ _ _ := result_of_firstBehind hcalls hlast hstops
  gives n row hrow hbefore :=
    result_of_given hcalls (given_of_told hcalls hlast hstops hrow hbefore)
  ordered := by
    intro hcomparable n hbefore
    have hforward := forward_take hcalls hlast hstops hbefore
    rw [Tracked.forward_iff_isChain hlast] at hforward
    exact Tracked.pairwise_inOrder hforward
      (hcomparable.sublist ((List.take_sublist n _).filterMap _))
  sorted := by
    intro hsorted n hout
    have hforward : t.Forward session.told.1 := by
      rw [Tracked.forward_iff_isChain hlast]
      exact hsorted.isChain.imp fun _ _ h =>
        (Tracked.inOrder_iff_not_backwards h.comparable).mp h
    obtain ⟨_, _, hfirst⟩ := (outOfOrder_iff_firstBehind hcalls hlast hstops n).mp hout
    exact (Tracked.forward_iff hlast).mp hforward n _ _ hfirst.1

end Calls

/-! ## 4. The order that a statement asks for -/

/-- The range of a slice fixes the partition at least. -/
theorem fixed_ne_nil_of_resolve {partition : Value} {lower upper : List Value}
    {range : Range (Option Value)}
    (h : resolve (Slice.side partition lower) (Slice.side partition upper) = .ok range) :
    range.fixed ≠ [] := by
  rcases resolve_eq_ok_iff.mp h with ⟨hempty, -⟩ | ⟨-, -, -, _, _, _, _, _, -, -, -, -, rfl⟩
  · cases hempty
  · exact List.cons_ne_nil _ _

/-- A range that fixes something is ordered by every clustering column. -/
theorem orderBy_of_predicate {range : Range (Option Value)} {partitionColumns : List String}
    {clustering : List ClusteringColumn} {bounding : Bounding} {d : Direction} {q : Predicate}
    (hfixed : range.fixed ≠ [])
    (h : range.predicate partitionColumns clustering bounding d = .ok q) :
    q.orderBy = clustering.map (·.orderItem d) := by
  obtain ⟨first, rest, hcons⟩ := List.exists_cons_of_ne_nil hfixed
  rw [Range.predicate, hcons] at h
  obtain ⟨_, -, h⟩ := Except.bind_eq_ok_iff.mp h
  obtain ⟨_, -, h⟩ := Except.bind_eq_ok_iff.mp h
  cases h
  rfl

/-- The text of a SELECT of everything under a predicate and a limit. -/
theorem slice_text (q : Predicate) (limit : Option Nat) (options : StatementOptions) :
    ({ (m.select false).restrictTo q with limit := limit, options := options } : Query).text =
      "SELECT " ++ m.projection ++ " FROM " ++ m.qualifiedTable
        ++ Query.clause " WHERE " " AND " (q.relations.map (·.text))
        ++ Query.clause " ORDER BY " ", " q.orderBy ++ Query.numberClause " LIMIT " limit := by
  have hprojection : Fragment.join ", " [⟨m.projection, []⟩] = m.projection := by
    simp [Fragment.join]
  simp [Query.text, Query.selectText, Query.restrictTo, Query.restrict, Mapping.select,
    Query.selecting, Query.on, hprojection, Query.whereClause, Query.filteringClause,
    Query.numberClause, Function.comp_def]

/-- **A slice is ordered by every clustering column, and the one that its range leaves varying is
watched in the direction of its ORDER BY item.** -/
theorem start_order {s : Slice} (hstart : start s m = .ok p) :
    ∃ partition range relations, s.partition = .ok partition
      ∧ resolve (Slice.side partition s.lower) (Slice.side partition s.upper) = .ok range
      ∧ p.statement.cql = "SELECT " ++ m.projection ++ " FROM " ++ m.qualifiedTable
        ++ Query.clause " WHERE " " AND " relations
        ++ Query.clause " ORDER BY " ", " (m.clusteringColumns.map (·.orderItem s.direction))
        ++ Query.numberClause " LIMIT " s.limit
      ∧ p.tracked = m.clusteringColumns[range.fixed.length - 1]?.map fun c =>
        ⟨c.name, c.growsIn s.direction, none⟩ := by
  obtain ⟨⟨q, tracked⟩, hquery, hstart⟩ := Except.bind_eq_ok_iff.mp hstart
  obtain ⟨statement, hstatement, hstart⟩ := Except.bind_eq_ok_iff.mp hstart
  cases hstart
  obtain ⟨partition, hpartition, hquery⟩ := Except.bind_eq_ok_iff.mp hquery
  obtain ⟨range, hrange, hquery⟩ := Except.bind_eq_ok_iff.mp hquery
  rw [Except.mapError_eq_ok_iff] at hrange
  obtain ⟨predicate, hpredicate, hquery⟩ := Except.bind_eq_ok_iff.mp hquery
  rw [Except.mapError_eq_ok_iff] at hpredicate
  cases hquery
  cases hstatement
  have horder := orderBy_of_predicate (fixed_ne_nil_of_resolve hrange) hpredicate
  have hplace : range.varyingPosition - 1 = range.fixed.length - 1 := by
    rw [Range.varyingPosition]
    omega
  refine ⟨partition, range, predicate.relations.map (·.text), hpartition, hrange, ?_, ?_⟩
  · rw [← horder, ← slice_text]
    rfl
  · rw [hplace]

/-! ## 5. The statements that are executed -/

/-- Whether one session goes on from another, and all it executes since then has one text. -/
def Asks (cql : String) (session session' : Session) : Prop :=
  ∃ statements, session'.executed = session.executed ++ statements ∧ ∀ st ∈ statements, st.cql = cql

theorem Asks.refl (cql : String) (session : Session) : Asks cql session session :=
  ⟨[], (List.append_nil _).symm, by simp⟩

theorem Asks.trans {cql : String} {session'' : Session} (h : Asks cql session session')
    (h' : Asks cql session' session'') : Asks cql session session'' := by
  obtain ⟨statements, hexecuted, hcql⟩ := h
  obtain ⟨statements', hexecuted', hcql'⟩ := h'
  refine ⟨statements ++ statements', ?_, ?_⟩
  · rw [hexecuted', hexecuted, List.append_assoc]
  · intro st hst
    rcases List.mem_append.mp hst with hst | hst
    · exact hcql st hst
    · exact hcql' st hst

theorem prepare_executed (p : Pager) (session : Session) :
    (p.prepare session).2.executed = session.executed := by
  rw [prepare]
  split
  · rfl
  · rw [Session.prepare]
    cases session.refusal? <;> rfl

/-- Asking for a page executes the statement of the pager, if anything. -/
theorem fetch_asks (p : Pager) (session : Session) :
    Asks p.statement.cql session (p.fetch session).2 := by
  have hexecuted := prepare_executed p session
  rw [fetch]
  split
  case h_1 hprepare =>
    rw [hprepare] at hexecuted
    exact ⟨[], by simpa using hexecuted, by simp⟩
  case h_2 before hprepare =>
    rw [hprepare] at hexecuted
    rw [execute_eq]
    cases nextAnswer before <;>
      exact ⟨[p.pageStatement], by rw [← hexecuted], by simp [pageStatement]⟩

theorem take_statement {row : Row} {rest : List Row} {found : Row}
    (h : p.take row rest = .ok (found, p')) : p'.statement = p.statement := by
  rw [take] at h
  split at h
  · cases h
    rfl
  · obtain ⟨t, -, h⟩ := Except.map_eq_ok_iff.mp h
    cases h
    rfl

/-- A next row is found by asking for pages of one statement, which stays that of the pager. -/
theorem nextRowWithin_asks (fuel : Nat) (p : Pager) (session : Session) :
    Asks p.statement.cql session (nextRowWithin fuel p session).2
      ∧ ∀ row p', (nextRowWithin fuel p session).1 = .ok (row, p') →
        p'.statement = p.statement := by
  induction fuel generalizing p session with
  | zero =>
    refine ⟨.refl _ _, fun row p' h => ?_⟩
    cases h
    rfl
  | succ fuel ih =>
    rw [nextRowWithin]
    split
    case h_1 row rest _ =>
      refine ⟨.refl _ _, fun found p' h => ?_⟩
      obtain ⟨_, htake, h⟩ := Except.map_eq_ok_iff.mp h
      cases h
      exact take_statement htake
    case h_2 =>
      split
      · refine ⟨.refl _ _, fun row p' h => ?_⟩
        cases h
        rfl
      · have hasks := fetch_asks p session
        split
        case h_1 hfetch =>
          rw [hfetch] at hasks
          exact ⟨hasks, fun _ _ h => by cases h⟩
        case h_2 p' session' hfetch =>
          rw [hfetch] at hasks
          obtain ⟨_, -, rfl, -⟩ := fetch_eq_ok hfetch
          obtain ⟨hrest, hstatement⟩ := ih (p.receive _) session'
          exact ⟨hasks.trans hrest, hstatement⟩

theorem next_asks (m : Mapping) (p : Pager) (session : Session) :
    Asks p.statement.cql session (p.next m session).2.2
      ∧ (p.next m session).2.1.statement = p.statement := by
  obtain ⟨hasks, hstatement⟩ := nextRowWithin_asks (session.answers.length + 3) p session
  rw [next]
  split
  · exact ⟨.refl _ _, rfl⟩
  · rw [nextRow]
    split
    case h_1 row p' session' hrow =>
      rw [hrow] at hasks hstatement
      exact ⟨hasks, hstatement row p' rfl⟩
    case h_2 e session' hrow =>
      rw [hrow] at hasks
      exact ⟨hasks, rfl⟩

/-- **Whatever a pager executes has the text it started with.** -/
theorem after_asks (m : Mapping) (n : Nat) (p : Pager) (session : Session) :
    Asks p.statement.cql session (after m n p session).2 := by
  induction n generalizing p session with
  | zero => exact .refl _ _
  | succ n ih =>
    obtain ⟨hasks, hstatement⟩ := next_asks m p session
    have hrest := ih (p.next m session).2.1 (p.next m session).2.2
    rw [hstatement] at hrest
    exact hasks.trans hrest

/-! ## 6. Slices -/

/-- The pager of a slice stops somewhere in what a session tells, and its calls give the rows up to
there. -/
theorem exists_stops_of_start {s : Slice} (hstart : start s m = .ok p) (session : Session) :
    ∃ given stop, Stops p.tracked session.told.1 session.told.2 given stop
      ∧ ∀ n, result m n p session = (given.map m.ofRow ++ (stop.map Except.error).toList)[n]? := by
  obtain ⟨-, hp⟩ := start_eq_ok hstart
  have hfailed : p.failed = false := by rw [hp]
  have htold : p.remaining session = session.told := by
    rw [hp]
    rfl
  obtain ⟨given, stop, hstops⟩ := Stops.exists_stops p.tracked session.told.1 session.told.2
  exact ⟨given, stop, hstops, (calls_of_stops hfailed (htold ▸ hstops)).1⟩

/-- **The pager of a slice keeps the order that its statement asks for.**  Whatever it executes
has one text, with an ORDER BY item for every clustering column.  On the column that the range
leaves varying it fails at the first row that lies behind in the direction of that item, and only
there; the rows before it are taken out, and their values, if they can be compared, are all in
order. -/
theorem slice_keeps_scan_order {s : Slice} {m : Mapping} {p : Pager} (hstart : start s m = .ok p) :
    ∃ partition range relations, s.partition = .ok partition
      ∧ resolve (Slice.side partition s.lower) (Slice.side partition s.upper) = .ok range
      ∧ (∀ session n, Asks ("SELECT " ++ m.projection ++ " FROM " ++ m.qualifiedTable
          ++ Query.clause " WHERE " " AND " relations
          ++ Query.clause " ORDER BY " ", " (m.clusteringColumns.map (·.orderItem s.direction))
          ++ Query.numberClause " LIMIT " s.limit) session (after m n p session).2)
      ∧ (∀ c, m.clusteringColumns[range.fixed.length - 1]? = some c →
        ∃ ascending : Bool,
          c.orderItem s.direction = c.name ++ (if ascending then " ASC" else " DESC")
          ∧ ∀ session, KeepsOrder m p session c.name ascending)
      ∧ (m.clusteringColumns[range.fixed.length - 1]? = none →
        ∀ session n, ¬OutOfOrder (result m n p session)) := by
  obtain ⟨partition, range, relations, hpartition, hrange, hcql, htracked⟩ := start_order hstart
  refine ⟨partition, range, relations, hpartition, hrange, fun session n => ?_, fun c hc => ?_,
    fun hnone session n => ?_⟩
  · rw [← hcql]
    exact after_asks m n p session
  · refine ⟨c.growsIn s.direction, rfl, fun session => ?_⟩
    obtain ⟨given, stop, hstops, hcalls⟩ := exists_stops_of_start hstart session
    rw [htracked, hc, Option.map_some] at hstops
    exact keepsOrder_of_stops hcalls rfl hstops
  · obtain ⟨given, stop, hstops, hcalls⟩ := exists_stops_of_start hstart session
    rw [htracked, hnone, Option.map_none, Stops.of_untracked] at hstops
    obtain ⟨-, rfl⟩ := hstops
    rw [outOfOrder_iff_of_calls hcalls]
    exact fun h => not_outOfOrder_store _ h.2

/-- A descending scan over three pages: a row without a day and two readings of one day are fine,
and the first reading of the third page is later than the last one before it. -/
theorem slice_keeps_scan_order_readings :
    ∃ p, start { partition := .ok (.int 1), lower := [.int 3], direction := .descending } readings =
        .ok p
      ∧ ∀ session : Session, session.refusal? = none →
        session.answers = [.ok ⟨[reading 9, reading 7], some [1]⟩,
          .ok ⟨[⟨[("sensor", .int 1)]⟩, reading 7], some [2]⟩,
          .ok ⟨[reading 8, reading 6], none⟩] →
        result readings 4 p session = some (.error (.pageOutOfOrder "day" (Value.int 7).spoken
          (Value.int 8).spoken "descending")) := by
  have hrange : Key.resolve (Slice.side (.int 1) [.int 3]) (Slice.side (.int 1) []) =
      .ok ⟨[some (.int 1)], some (some (.int 3)), none⟩ :=
    Key.resolve_eq_ok_iff.mpr <| Or.inr ⟨by simp [Slice.side], rfl, rfl, _, _, _, _, _, rfl, rfl,
      by simp [Key.Component.same, Value.equals], .lower _, rfl⟩
  obtain ⟨p, hstart⟩ : ∃ p, start
      { partition := .ok (.int 1), lower := [.int 3], direction := .descending } readings =
        .ok p := by
    simp only [start, Slice.query, bind, Except.bind, hrange]
    exact ⟨_, rfl⟩
  refine ⟨p, hstart, fun session hrefusal hanswers => ?_⟩
  obtain ⟨partition, range, -, ⟨⟩, hrange', -, hkeeps, -⟩ := slice_keeps_scan_order hstart
  obtain rfl : _ = range := Except.ok.inj (hrange.symm.trans hrange')
  obtain ⟨ascending, hitem, hkeeps⟩ := hkeeps ⟨"day", true⟩ rfl
  have htold : session.told.1 = [reading 9, reading 7, ⟨[("sensor", .int 1)]⟩, reading 7, reading 8,
      reading 6] := by
    rw [Session.told, hrefusal, hanswers]
    rfl
  cases ascending with
  | true => exact absurd hitem (by decide)
  | false =>
    refine (hkeeps session).names 4 (.int 7) (.int 8) ?_
    have hforward : Tracked.Forward ⟨"day", false, none⟩
        [reading 9, reading 7, ⟨[("sensor", .int 1)]⟩, reading 7] := by
      simp only [Tracked.Forward]
      decide
    rw [htold]
    refine ⟨⟨rfl, rfl, by decide⟩, fun k hk previous current hbehind => ?_⟩
    exact (Tracked.forward_iff rfl).mp hforward k previous current
      ((behindAt_append_iff [reading 8, reading 6] hk).mp hbehind)

end Pager

end WideColumn
