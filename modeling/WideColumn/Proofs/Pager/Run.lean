/-
# Running a pager

A pager is run by asking for the next record until there is none.  `Collects` is that run, with
the records and failures it gives and the session it leaves behind.

One call may ask the store for any number of pages, of which all but the last are empty, and the
bound on those is of no matter: a call that starts with an empty buffer ANSWERS AS THE PAGER THAT
RECEIVED THE NEXT PAGE WOULD (`nextRow_eq_of_fetch`).  So a run can be followed one page or one
row at a time.
-/
import WideColumn.Slice

namespace WideColumn.Pager

/-! ## 1. Runs -/

/-- The records and failures of a pager until there is none left, and the session after that. -/
inductive Collects (m : Mapping) :
    Pager → Session → List (Except Error m.Record) → Session → Prop
  | done {p p' : Pager} {session session' : Session}
      (last : p.next m session = (none, p', session')) : Collects m p session [] session'
  | item {p p' : Pager} {session session' final : Session} {r : Except Error m.Record}
      {items : List (Except Error m.Record)} (first : p.next m session = (some r, p', session'))
      (rest : Collects m p' session' items final) : Collects m p session (r :: items) final

variable {m : Mapping} {p p' : Pager} {session session' : Session}

/-- **A run has one outcome.** -/
theorem Collects.unique {items items' : List (Except Error m.Record)} {final final' : Session}
    (h : Collects m p session items final) (h' : Collects m p session items' final') :
    items = items' ∧ final = final' := by
  induction h generalizing items' with
  | done last =>
    cases h' with
    | done last' =>
      rw [last] at last'
      cases last'
      exact ⟨rfl, rfl⟩
    | item first' _ =>
      rw [last] at first'
      cases first'
  | item first _ ih =>
    cases h' with
    | done last' =>
      rw [first] at last'
      cases last'
    | item first' rest' =>
      rw [first] at first'
      cases first'
      obtain ⟨rfl, rfl⟩ := ih rest'
      exact ⟨rfl, rfl⟩

theorem next_of_failed (hp : p.failed = true) : p.next m session = (none, p, session) := by
  rw [next, if_pos hp]

theorem next_of_row {row : Option Row} (hp : p.failed = false)
    (h : p.nextRow session = (.ok (row, p'), session')) :
    p.next m session = (row.map m.ofRow, p', session') := by
  simp [next, hp, h]

theorem next_of_error {e : Error} (hp : p.failed = false)
    (h : p.nextRow session = (.error e, session')) :
    p.next m session = (some (.error e), { p with failed := true }, session') := by
  simp [next, hp, h]

/-- After a failure the pager is as good as any other that failed. -/
theorem Collects.of_failed {items : List (Except Error m.Record)} {final : Session}
    (hp : p.failed = true) (h : Collects m p session items final) (hp' : p'.failed = true) :
    Collects m p' session items final := by
  obtain ⟨rfl, rfl⟩ := h.unique (.done (next_of_failed hp))
  exact .done (next_of_failed hp')

/-- Pagers whose next rows are the same run alike. -/
theorem Collects.of_nextRow_eq {items : List (Except Error m.Record)} {final : Session}
    (h : Collects m p' session' items final) (hp : p.failed = false) (hp' : p'.failed = false)
    (hrow : p.nextRow session = p'.nextRow session') : Collects m p session items final := by
  cases hnext : p'.nextRow session' with
  | mk answer after =>
    rw [hnext] at hrow
    cases answer with
    | ok found =>
      have heq : p.next m session = p'.next m session' := by
        rw [next_of_row hp hrow, next_of_row hp' hnext]
      cases h with
      | done last => exact .done (heq.trans last)
      | item first rest => exact .item (heq.trans first) rest
    | error e =>
      cases h with
      | done last =>
        rw [next_of_error hp' hnext] at last
        cases last
      | item first rest =>
        rw [next_of_error hp' hnext] at first
        cases first
        exact .item (next_of_error hp hrow) (rest.of_failed rfl rfl)

/-! ## 2. Asking for a page -/

/-- The answer the store gives next. -/
def nextAnswer (session : Session) : Except StoreError ResultSet :=
  session.answers.headD (.ok .empty)

theorem execute_eq (session : Session) (statement : Statement) :
    session.execute statement =
      (nextAnswer session, { session with
        executed := session.executed ++ [statement]
        answers := session.answers.tail }) := by
  obtain ⟨_, _, answers, _, _, _⟩ := session
  cases answers <;> rfl

theorem prepare_answers {answer : Except Error Unit} (h : p.prepare session = (answer, session')) :
    session'.answers = session.answers := by
  rw [prepare, Session.prepare] at h
  split at h
  · cases h; rfl
  · cases hrefusal : session.refusal? <;> rw [hrefusal] at h <;> cases h <;> rfl

/-- A page comes from the next answer, which it uses up. -/
theorem fetch_eq_ok (h : p.fetch session = (.ok p', session')) :
    ∃ page, nextAnswer session = .ok page ∧ p' = p.receive page
      ∧ session'.answers = session.answers.tail := by
  rw [fetch] at h
  split at h
  · cases h
  · rename_i before hprepare
    have hbefore := prepare_answers hprepare
    rw [execute_eq] at h
    cases hanswer : nextAnswer before with
    | error e => rw [hanswer] at h; cases h
    | ok page =>
      rw [hanswer] at h
      cases h
      refine ⟨page, ?_, rfl, by rw [hbefore]⟩
      rw [← hanswer, nextAnswer, nextAnswer, hbefore]

/-! ## 3. The next row -/

theorem nextRowWithin_of_fetch {fuel : Nat} (hbuffer : p.buffer = [])
    (hopen : p.exhausted = false) (h : p.fetch session = (.ok p', session')) :
    p.nextRowWithin (fuel + 1) session = p'.nextRowWithin fuel session' := by
  rw [nextRowWithin, hbuffer]
  simp only [hopen, Bool.false_eq_true, if_false, h]

theorem nextRowWithin_of_exhausted {fuel : Nat} (hbuffer : p.buffer = [])
    (hexhausted : p.exhausted = true) :
    p.nextRowWithin (fuel + 1) session = (.ok (none, p), session) := by
  rw [nextRowWithin, hbuffer]
  simp only [hexhausted, if_true]

/-- Any number of steps from the answers of the store and two on gives the same row. -/
theorem nextRowWithin_succ : ∀ (fuel : Nat) (p : Pager) (session : Session),
    session.answers.length + 2 ≤ fuel →
    nextRowWithin (fuel + 1) p session = nextRowWithin fuel p session
  | 0, _, _, h => by omega
  | fuel + 1, p, session, h => by
    cases hbuffer : p.buffer with
    | cons row rest => simp only [nextRowWithin, hbuffer]
    | nil =>
      cases hexhausted : p.exhausted with
      | true =>
        rw [nextRowWithin_of_exhausted hbuffer hexhausted,
          nextRowWithin_of_exhausted hbuffer hexhausted]
      | false =>
        cases hfetch : p.fetch session with
        | mk answer session' =>
          cases answer with
          | error e => simp only [nextRowWithin, hbuffer, hexhausted, hfetch]
          | ok p' =>
            rw [nextRowWithin_of_fetch hbuffer hexhausted hfetch,
              nextRowWithin_of_fetch hbuffer hexhausted hfetch]
            obtain ⟨page, hpage, rfl, hanswers⟩ := fetch_eq_ok hfetch
            cases hleft : session.answers with
            | nil =>
              -- beyond the last answer the page is empty and ends the slice
              obtain ⟨fuel, rfl⟩ : ∃ k, fuel = k + 1 := ⟨fuel - 1, by omega⟩
              rw [nextAnswer, hleft] at hpage
              cases hpage
              rw [nextRowWithin_of_exhausted rfl rfl, nextRowWithin_of_exhausted rfl rfl]
            | cons answer answers =>
              refine nextRowWithin_succ fuel _ session' ?_
              rw [hanswers, hleft, List.tail_cons]
              rw [hleft, List.length_cons] at h
              omega

/-- **With an empty buffer the next row is that of the pager with the next page.** -/
theorem nextRow_eq_of_fetch (hbuffer : p.buffer = []) (hopen : p.exhausted = false)
    (h : p.fetch session = (.ok p', session')) : p.nextRow session = p'.nextRow session' := by
  obtain ⟨page, -, -, hanswers⟩ := fetch_eq_ok h
  rw [nextRow, nextRow, nextRowWithin_of_fetch hbuffer hopen h]
  cases hleft : session.answers with
  | nil =>
    have hnone : session'.answers = [] := by rw [hanswers, hleft, List.tail_nil]
    rw [hnone]
    exact (nextRowWithin_succ 2 p' session' (by rw [hnone]; exact Nat.le_refl 2)).symm
  | cons answer answers =>
    rw [hanswers, hleft, List.tail_cons, List.length_cons]

theorem nextRow_of_buffer {row : Row} {rest : List Row} (hbuffer : p.buffer = row :: rest) :
    p.nextRow session = ((p.take row rest).map fun (row, p) => (some row, p), session) := by
  rw [nextRow, nextRowWithin, hbuffer]

theorem nextRow_of_exhausted (hbuffer : p.buffer = []) (hexhausted : p.exhausted = true) :
    p.nextRow session = (.ok (none, p), session) :=
  nextRowWithin_of_exhausted hbuffer hexhausted

end WideColumn.Pager
