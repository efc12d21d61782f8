/-
# A pager gives every row once

Against a store that answers with pages and no failures, a run of the pager is settled by the rows
alone.  It reads up to the first page without a paging state and gives each row of those pages, in
order and once; where the pages end is of no matter to what it gives.

What the store sees is settled as well: one preparation, and one execution for each page, which
carries the state that came with the page before and nothing at first.

The one way for such a run to fail is a row that goes backwards on the column that is watched, so
the rows have to go FORWARD (`Tracked.Forward`), each value against the last one before it.
-/
import Mathlib.Data.List.Chain
import WideColumn.Proofs.Except
import WideColumn.Proofs.Key.Range
import WideColumn.Proofs.Pager.Run

namespace WideColumn

/-! ## 1. Rows in order -/

namespace Tracked

/-- Whether no row goes backwards on a column, from the value seen last. -/
def Forward (t : Tracked) (rows : List Row) : Prop :=
  (t.last.toList ++ rows.filterMap (·.get? t.column)).IsChain
    fun previous current => backwards t.ascending current previous = false

/-- A row that goes forward is taken notice of, and the rest goes forward from there. -/
theorem Forward.observe {t : Tracked} {row : Row} {rows : List Row}
    (h : t.Forward (row :: rows)) : ∃ t', t.observe row = .ok t' ∧ t'.Forward rows := by
  cases hcell : row.get? t.column with
  | none =>
    simp only [Forward, List.filterMap_cons, hcell] at h
    exact ⟨t, by rw [Tracked.observe, hcell], h⟩
  | some current =>
    simp only [Forward, List.filterMap_cons, hcell] at h
    refine ⟨{ t with last := some current }, ?_, ?_⟩
    · cases hlast : t.last with
      | none => simp only [Tracked.observe, hcell, hlast]
      | some previous =>
        rw [hlast, Option.toList_some, List.singleton_append, List.isChain_cons_cons] at h
        simp only [Tracked.observe, hcell, hlast, h.1, Bool.false_eq_true, if_false]
    · exact h.right_of_append

end Tracked

namespace Pager

/-- Whether no row goes backwards on the column that a pager watches, if it watches one. -/
def Forward (p : Pager) (rows : List Row) : Prop :=
  ∀ t, p.tracked = some t → t.Forward rows

theorem take_of_forward {p : Pager} {row : Row} {rows : List Row} (rest : List Row)
    (h : p.Forward (row :: rows)) :
    ∃ tracked, p.take row rest = .ok (row, { p with buffer := rest, tracked := tracked })
      ∧ Forward { p with buffer := rest, tracked := tracked } rows := by
  cases htracked : p.tracked with
  | none =>
    refine ⟨none, by simp only [take, htracked], fun t ht => ?_⟩
    cases ht
  | some t =>
    obtain ⟨t', hobserve, hforward⟩ := (h t htracked).observe
    refine ⟨some t', by simp only [take, htracked, hobserve, Except.map], fun t ht => ?_⟩
    cases ht
    exact hforward

end Pager

/-! ## 2. Scripts of pages -/

/-- Whether a session prepares every text and answers with pages. -/
def Session.Scripted (session : Session) (pages : List ResultSet) : Prop :=
  session.refusal? = none ∧ session.answers = pages.map .ok

/-- A statement that goes on from a paging state. -/
def Statement.resumed (st : Statement) (state : Option (List UInt8)) : Statement :=
  { st with options := { st.options with pagingState := state } }

/-- The pages up to the first one without a paging state; after the last of a script an empty
page comes. -/
def readPages : List ResultSet → List ResultSet
  | [] => [.empty]
  | page :: pages => page :: if page.pagingState.isNone then [] else readPages pages

/-- The rows of pages. -/
def rowsOf (pages : List ResultSet) : List Row := pages.flatMap (·.rows)

/-- The paging states that ask for pages: a given one, then that of the page before. -/
def requestStates (first : Option (List UInt8)) (pages : List ResultSet) :
    List (Option (List UInt8)) :=
  (first :: pages.map (·.pagingState)).dropLast

theorem isEmpty_readPages (pages : List ResultSet) : (readPages pages).isEmpty = false := by
  cases pages <;> rfl

theorem requestStates_cons (first : Option (List UInt8)) (page : ResultSet)
    (pages : List ResultSet) :
    requestStates first (page :: pages) = first :: requestStates page.pagingState pages := rfl

namespace Pager

/-- The pages of a script that a pager has still to ask for. -/
def unread (p : Pager) (pages : List ResultSet) : List ResultSet :=
  if p.exhausted then [] else readPages pages

theorem readPages_eq (p : Pager) (pages : List ResultSet) :
    readPages pages =
      pages.headD .empty :: (p.receive (pages.headD .empty)).unread pages.tail := by
  cases pages <;> rfl

/-- Asking a scripted session for a page. -/
theorem fetch_of_scripted {p : Pager} {session : Session} {pages : List ResultSet}
    (h : session.Scripted pages) :
    ∃ session', p.fetch session = (.ok (p.receive (pages.headD .empty)), session')
      ∧ session'.Scripted pages.tail
      ∧ session'.prepared = session.prepared ++ (if p.prepared then [] else [p.statement.cql])
      ∧ session'.executed = session.executed ++ [p.statement.resumed p.pagingState] := by
  obtain ⟨hrefusal, hanswers⟩ := h
  have hprepare : p.prepare session = (.ok (), { session with
      asked := session.asked ++ (if p.prepared then [] else [p.statement.cql])
      prepared := session.prepared ++ (if p.prepared then [] else [p.statement.cql]) }) := by
    cases hprepared : p.prepared with
    | true => simp [prepare, hprepared]
    | false => simp [prepare, hprepared, Session.prepare, hrefusal]
  refine ⟨{ session with
    asked := session.asked ++ (if p.prepared then [] else [p.statement.cql])
    prepared := session.prepared ++ (if p.prepared then [] else [p.statement.cql])
    executed := session.executed ++ [p.statement.resumed p.pagingState]
    answers := session.answers.tail }, ?_, ⟨hrefusal, ?_⟩, rfl, rfl⟩
  · rw [fetch, hprepare]
    simp only [execute_eq]
    cases pages <;> simp [nextAnswer, hanswers] <;> rfl
  · rw [hanswers, List.map_tail]

/-! ## 3. The run -/

/-- A run that gives the buffered rows and those of some pages, and asks for each of these once. -/
structure Reads (m : Mapping) (p : Pager) (session : Session) (pages : List ResultSet)
    (final : Session) : Prop where
  collects : Collects m p session ((p.buffer ++ rowsOf pages).map m.ofRow) final
  prepared : final.prepared =
    session.prepared ++ (if p.prepared || pages.isEmpty then [] else [p.statement.cql])
  executed : final.executed =
    session.executed ++ (requestStates p.pagingState pages).map p.statement.resumed

/-- The pager with its buffer used up. -/
def drained (p : Pager) (tracked : Option Tracked) : Pager :=
  { p with buffer := [], tracked := tracked }

/-- A pager gives the rows of its buffer before it does anything else. -/
theorem collects_of_buffer (m : Mapping) (p : Pager) (session : Session) {rows : List Row}
    (hp : p.failed = false) (hforward : p.Forward (p.buffer ++ rows)) :
    ∃ tracked, (p.drained tracked).Forward rows
      ∧ ∀ items final, Collects m (p.drained tracked) session items final →
        Collects m p session (p.buffer.map m.ofRow ++ items) final := by
  obtain ⟨statement, tracked, prepared, buffer, pagingState, exhausted, failed⟩ := p
  induction buffer generalizing tracked with
  | nil => exact ⟨tracked, hforward, fun _ _ h => h⟩
  | cons row buffer ih =>
    obtain ⟨tracked', htake, hforward'⟩ := take_of_forward buffer hforward
    obtain ⟨tracked'', hforward'', hrest⟩ := ih tracked' hp hforward'
    refine ⟨tracked'', hforward'', fun items final h => ?_⟩
    have hrow := @nextRow_of_buffer ⟨statement, tracked, prepared, row :: buffer, pagingState,
      exhausted, failed⟩ session row buffer rfl
    rw [htake] at hrow
    exact .item (next_of_row hp hrow) (hrest items final h)

theorem reads_of_exhausted (m : Mapping) (p : Pager) (session : Session) (hp : p.failed = false)
    (hexhausted : p.exhausted = true) (hforward : p.Forward p.buffer) :
    Reads m p session [] session := by
  obtain ⟨tracked, -, hbuffer⟩ :=
    @collects_of_buffer m p session [] hp (by rwa [List.append_nil])
  have hp' : (p.drained tracked).failed = false := hp
  have hnone := @nextRow_of_exhausted (p.drained tracked) session rfl hexhausted
  have hlast := hbuffer [] session (.done (next_of_row hp' hnone))
  refine ⟨?_, by simp, by simp [requestStates]⟩
  simpa [rowsOf] using hlast

/-- One page more: the buffer is used up, a page is asked for, and the run goes on from there. -/
theorem reads_of_page {m : Mapping} {p : Pager} {session : Session} {pages : List ResultSet}
    (hp : p.failed = false) (hopen : p.exhausted = false) (hscript : session.Scripted pages)
    (hforward : p.Forward (p.buffer ++ rowsOf (readPages pages)))
    (hrest : ∀ p' session', p'.failed = false → session'.Scripted pages.tail →
      p'.exhausted = (pages.headD .empty).pagingState.isNone →
      p'.Forward (p'.buffer ++ rowsOf (p'.unread pages.tail)) →
      ∃ final, Reads m p' session' (p'.unread pages.tail) final) :
    ∃ final, Reads m p session (readPages pages) final := by
  obtain ⟨tracked, hforward, hbuffer⟩ := collects_of_buffer m p session hp hforward
  have hp₀ : (p.drained tracked).failed = false := hp
  have hopen₀ : (p.drained tracked).exhausted = false := hopen
  obtain ⟨session', hfetch, hscript', hprepared, hexecuted⟩ :=
    @fetch_of_scripted (p.drained tracked) session pages hscript
  have hp₁ : ((p.drained tracked).receive (pages.headD .empty)).failed = false := hp
  have hpages := readPages_eq (p.drained tracked) pages
  rw [hpages, rowsOf, List.flatMap_cons] at hforward
  obtain ⟨final, hcollects, hprepared', hexecuted'⟩ := hrest _ session' hp₁ hscript' rfl hforward
  refine ⟨final, ?_, ?_, ?_⟩
  · have hrow := nextRow_eq_of_fetch rfl hopen₀ hfetch
    have hrun := hbuffer _ final (hcollects.of_nextRow_eq hp₀ hp₁ hrow)
    rw [hpages, rowsOf, List.flatMap_cons, List.map_append]
    exact hrun
  · rw [hprepared', hprepared, hpages]
    cases hprep : p.prepared <;> simp [receive, drained, hprep]
  · rw [hexecuted', hexecuted, hpages, requestStates_cons, List.map_cons, List.append_assoc]
    rfl

/-- What is left to read is nothing or what a script has from there on. -/
theorem reads_of_unread {m : Mapping} {p : Pager} {session : Session} {pages : List ResultSet}
    (hp : p.failed = false) (hforward : p.Forward (p.buffer ++ rowsOf (p.unread pages)))
    (hopen : p.exhausted = false → p.Forward (p.buffer ++ rowsOf (readPages pages)) →
      ∃ final, Reads m p session (readPages pages) final) :
    ∃ final, Reads m p session (p.unread pages) final := by
  cases hexhausted : p.exhausted with
  | true =>
    rw [unread, if_pos hexhausted] at hforward ⊢
    have hbuffer : p.Forward p.buffer := by simpa [rowsOf] using hforward
    exact ⟨session, reads_of_exhausted m p session hp hexhausted hbuffer⟩
  | false =>
    rw [unread, if_neg (by simp [hexhausted])] at hforward ⊢
    exact hopen hexhausted hforward

/-- **Against a scripted session a pager reads its buffer and the pages it has yet to ask for.** -/
theorem reads_of_scripted (m : Mapping) (pages : List ResultSet) (p : Pager) (session : Session)
    (hp : p.failed = false) (hscript : session.Scripted pages)
    (hforward : p.Forward (p.buffer ++ rowsOf (p.unread pages))) :
    ∃ final, Reads m p session (p.unread pages) final := by
  induction pages generalizing p session with
  | nil =>
    -- the empty page at the end of the script exhausts the pager
    refine reads_of_unread hp hforward fun hopen hforward => ?_
    refine reads_of_page hp hopen hscript hforward fun p' session' hp' _ hend hforward' => ?_
    refine reads_of_unread hp' hforward' fun hopen' => ?_
    rw [hend] at hopen'
    cases hopen'
  | cons page pages ih =>
    refine reads_of_unread hp hforward fun hopen hforward => ?_
    exact reads_of_page hp hopen hscript hforward fun p' session' hp' hscript' _ hforward' =>
      ih p' session' hp' hscript' hforward'

/-! ## 4. Slices -/

/-- A pager starts with nothing read and nothing asked. -/
theorem start_eq_ok {s : Slice} {m : Mapping} {p : Pager} (h : start s m = .ok p) :
    s.statement m = .ok p.statement ∧ p = { statement := p.statement, tracked := p.tracked } := by
  obtain ⟨⟨q, tracked⟩, hquery, h⟩ := Except.bind_eq_ok_iff.mp h
  obtain ⟨statement, hstatement, h⟩ := Except.bind_eq_ok_iff.mp h
  cases h
  exact ⟨Except.bind_eq_ok_iff.mpr ⟨_, hquery, hstatement⟩, rfl⟩

/-- **The pager of a slice gives every row of the pages it reads, in order and once.**  Against
a script of pages whose rows go forward a run ends; it gives the reading of each row up to the
first page without a paging state, prepares the statement of the slice once, and executes it once
a page, going on from the state of the page before.  Scripts that put page breaks elsewhere give
the same. -/
theorem slice_reads_script {s : Slice} {m : Mapping} {p : Pager} (hstart : start s m = .ok p) :
    s.statement m = .ok p.statement
    ∧ (∀ session pages, session.Scripted pages → p.Forward (rowsOf (readPages pages)) →
      ∃ final, (∀ items after, Collects m p session items after ↔
          items = (rowsOf (readPages pages)).map m.ofRow ∧ after = final)
        ∧ final.prepared = session.prepared ++ [p.statement.cql]
        ∧ final.executed = session.executed
          ++ (requestStates none (readPages pages)).map p.statement.resumed)
    ∧ (∀ session pages session' pages' items items' after after',
      session.Scripted pages → session'.Scripted pages' →
      rowsOf (readPages pages) = rowsOf (readPages pages') →
      p.Forward (rowsOf (readPages pages)) →
      Collects m p session items after → Collects m p session' items' after' → items = items') := by
  obtain ⟨hstatement, hp⟩ := start_eq_ok hstart
  have hreads : ∀ session pages, session.Scripted pages → p.Forward (rowsOf (readPages pages)) →
      ∃ final, Reads m p session (readPages pages) final := by
    intro session pages hscript hforward
    have hunread : p.unread pages = readPages pages := by rw [hp]; rfl
    have hbuffer : p.buffer = [] := by rw [hp]
    rw [← hunread]
    refine reads_of_scripted m pages p session (by rw [hp]) hscript ?_
    rwa [hbuffer, hunread, List.nil_append]
  have hitems : ∀ pages, (p.buffer ++ rowsOf (readPages pages)).map m.ofRow =
      (rowsOf (readPages pages)).map m.ofRow := by
    rw [hp]
    exact fun _ => rfl
  refine ⟨hstatement, ?_, ?_⟩
  · intro session pages hscript hforward
    obtain ⟨final, hcollects, hprepared, hexecuted⟩ := hreads session pages hscript hforward
    rw [hitems] at hcollects
    refine ⟨final, ?_, ?_, ?_⟩
    · intro items after
      constructor
      · intro h
        exact h.unique hcollects
      · rintro ⟨rfl, rfl⟩
        exact hcollects
    · rw [hprepared, isEmpty_readPages, hp]
      rfl
    · rw [hexecuted, hp]
  · intro session pages session' pages' items items' after after' hscript hscript' hrows hforward
      h h'
    obtain ⟨final, hcollects, -⟩ := hreads session pages hscript hforward
    obtain ⟨final', hcollects', -⟩ := hreads session' pages' hscript' (hrows ▸ hforward)
    rw [(h.unique hcollects).1, (h'.unique hcollects').1, hitems, hitems, hrows]

/-- Readings of a sensor by day. -/
def readings : Mapping where
  keyspace := none
  table := "readings"
  columns := [
    ⟨"sensor", ⟨"sensor", .partition, "int", "sensor"⟩, false, Data, .native .int⟩,
    ⟨"day", ⟨"day", .clustering true, "int", "day"⟩, false, Data, .native .int⟩]

/-- A reading of a day. -/
def reading (day : Int32) : Row := ⟨[("sensor", .int 1), ("day", .int day)]⟩

/-- Two readings with an empty page between them. -/
theorem slice_reads_script_readings :
    ∃ p final, start { partition := .ok (.int 1) } readings = .ok p
      ∧ Collects readings p
        { answers := [.ok ⟨[reading 3], some [7]⟩, .ok ⟨[], some [8]⟩, .ok ⟨[reading 5], none⟩] }
        [readings.ofRow (reading 3), readings.ofRow (reading 5)] final
      ∧ final.executed.map (·.options.pagingState) = [none, some [7], some [8]] := by
  have hrange : Key.resolve (Slice.side (.int 1) []) (Slice.side (.int 1) []) =
      .ok ⟨[some (.int 1)], none, none⟩ :=
    Key.resolve_eq_ok_iff.mpr <| Or.inr ⟨by simp [Slice.side], rfl, rfl, _, _, _, _, _, rfl, rfl,
      by simp [Key.Component.same, Value.equals], .nothing, rfl⟩
  obtain ⟨p, hstart, hday⟩ : ∃ p, start { partition := .ok (.int 1) } readings = .ok p
      ∧ p.tracked = some ⟨"day", true, none⟩ := by
    simp only [start, Slice.query, bind, Except.bind, hrange]
    exact ⟨_, rfl, rfl⟩
  obtain ⟨-, hreads, -⟩ := slice_reads_script hstart
  obtain ⟨final, hcollects, -, hexecuted⟩ := hreads
    { answers := [.ok ⟨[reading 3], some [7]⟩, .ok ⟨[], some [8]⟩, .ok ⟨[reading 5], none⟩] }
    [⟨[reading 3], some [7]⟩, ⟨[], some [8]⟩, ⟨[reading 5], none⟩] ⟨rfl, rfl⟩ (by
      intro t ht
      rw [hday] at ht
      cases ht
      simp only [Tracked.Forward]
      decide)
  refine ⟨_, final, hstart, (hcollects _ final).mpr ⟨rfl, rfl⟩, ?_⟩
  rw [hexecuted]
  rfl

end Pager

end WideColumn
