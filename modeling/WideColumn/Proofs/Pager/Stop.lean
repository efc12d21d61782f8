/-
# A pager stops for good

A store TELLS rows up to the end of the slice or its first failure, be it one to prepare or to
execute.  Of these rows a pager gives those that go forward, and then it stops, of its own accord
or with one failure: that of the store, or that a row goes backwards (`Stops`).

A row is given as its reading or as the failure to read it, and the second stops nothing.  What
does stop the pager stops it for good: it is SETTLED then, so that every further call gives nothing
and leaves the session as it is, however many rows are still buffered
(`calls_of_stops`, `next_of_settled`).
-/
import WideColumn.Proofs.Pager.Script

namespace WideColumn

/-! ## 1. Rows until one goes backwards -/

namespace Tracked

/-- The values that are seen on a column, after the one seen last. -/
def seen (t : Tracked) (rows : List Row) : List Value :=
  t.last.toList ++ rows.filterMap (·.get? t.column)

/-- A row is refused exactly if it lies behind the value seen last. -/
theorem observe_eq_error_iff {t : Tracked} {row : Row} {e : Error} :
    t.observe row = .error e ↔
      ∃ current previous, row.get? t.column = some current ∧ t.last = some previous
        ∧ backwards t.ascending current previous = true
        ∧ e = .pageOutOfOrder t.column previous.spoken current.spoken
          (directionName t.ascending) := by
  cases hcell : row.get? t.column with
  | none => simp [observe, hcell]
  | some current =>
    cases hlast : t.last with
    | none => simp [observe, hcell, hlast]
    | some previous =>
      simp only [observe, hcell, hlast, Option.some.injEq, exists_eq_left', exists_and_left]
      cases backwards t.ascending current previous with
      | false => simp
      | true => simp [@eq_comm _ e]

/-- A row that is taken notice of goes forward, and later ones go forward from there. -/
theorem observe_eq_ok {t t' : Tracked} {row : Row} (h : t.observe row = .ok t')
    (rows : List Row) :
    (t.Forward (row :: rows) ↔ t'.Forward rows)
      ∧ t'.column = t.column ∧ t'.ascending = t.ascending
      ∧ (t.seen (row :: rows)).getLast? = (t'.seen rows).getLast? := by
  cases hcell : row.get? t.column with
  | none =>
    simp only [observe, hcell, Except.ok.injEq] at h
    subst h
    simp [Forward, seen, hcell]
  | some current =>
    cases hlast : t.last with
    | none =>
      simp only [observe, hcell, hlast, Except.ok.injEq] at h
      subst h
      simp [Forward, seen, hcell, hlast]
    | some previous =>
      cases hback : backwards t.ascending current previous with
      | true => simp [observe, hcell, hlast, hback] at h
      | false =>
        simp only [observe, hcell, hlast, hback, Bool.false_eq_true, if_false,
          Except.ok.injEq] at h
        subst h
        simp [Forward, seen, hcell, hlast, hback]

end Tracked

/-- **Where a pager stops** that watches a column and is told some rows and then a failure or none:
which rows it gives, and the failure it stops with. -/
inductive Stops (tracked : Option Tracked) (rows : List Row) (failure : Option StoreError) :
    List Row → Option Error → Prop
  /-- No row goes backwards, so all are given, and then what failed in the store. -/
  | told (hforward : ∀ t, tracked = some t → t.Forward rows) :
    Stops tracked rows failure rows (failure.map .store)
  /-- A row lies behind the value seen last on the column. -/
  | backwards {t : Tracked} (htracked : tracked = some t) {before after : List Row} {row : Row}
    (hrows : rows = before ++ row :: after) (hforward : t.Forward before) {current previous : Value}
    (hcurrent : row.get? t.column = some current)
    (hprevious : (t.seen before).getLast? = some previous)
    (hback : Tracked.backwards t.ascending current previous = true) :
    Stops tracked rows failure before (some (.pageOutOfOrder t.column previous.spoken
      current.spoken (Tracked.directionName t.ascending)))

namespace Stops

variable {tracked : Option Tracked} {row : Row} {rows given : List Row}
  {failure : Option StoreError} {stop : Option Error}

theorem nil_iff : Stops tracked [] failure given stop ↔ given = [] ∧ stop = failure.map .store := by
  constructor
  · intro h
    cases h with
    | told => exact ⟨rfl, rfl⟩
    | backwards _ hrows => simp at hrows
  · rintro ⟨rfl, rfl⟩
    exact .told fun t _ => by cases hlast : t.last <;> simp [Tracked.Forward, hlast]

theorem of_untracked : Stops none rows failure given stop ↔
    given = rows ∧ stop = failure.map .store := by
  constructor
  · intro h
    cases h with
    | told => exact ⟨rfl, rfl⟩
    | backwards htracked => cases htracked
  · rintro ⟨rfl, rfl⟩
    exact .told nofun

/-- After a row that is taken notice of, a pager stops where it would from there. -/
theorem cons_iff {t t' : Tracked} (h : t.observe row = .ok t') :
    Stops (some t) (row :: rows) failure given stop ↔
      ∃ given', given = row :: given' ∧ Stops (some t') rows failure given' stop := by
  constructor
  · intro hstops
    cases hstops with
    | told hforward =>
      refine ⟨rows, rfl, .told ?_⟩
      rintro _ ⟨⟩
      exact (Tracked.observe_eq_ok h rows).1.mp (hforward t rfl)
    | @backwards _ htracked _ after row' hrows hforward current previous hcurrent hprevious
        hback =>
      cases htracked
      cases given with
      | nil =>
        obtain ⟨rfl, rfl⟩ := List.cons_eq_cons.mp hrows
        have hlast : t.last = some previous := by
          rw [Tracked.seen, List.filterMap_nil, List.append_nil] at hprevious
          cases hlast : t.last with
          | none => simp [hlast] at hprevious
          | some _ => simpa [hlast] using hprevious
        rw [Tracked.observe_eq_error_iff.mpr ⟨_, _, hcurrent, hlast, hback, rfl⟩] at h
        cases h
      | cons first before =>
        obtain ⟨rfl, rfl⟩ := List.cons_eq_cons.mp hrows
        obtain ⟨hiff, hcolumn, hascending, hseen⟩ := Tracked.observe_eq_ok h before
        rw [← hcolumn, ← hascending]
        rw [← hcolumn] at hcurrent
        rw [← hascending] at hback
        exact ⟨before, rfl, .backwards rfl rfl (hiff.mp hforward) hcurrent (hseen ▸ hprevious)
          hback⟩
  · rintro ⟨given', rfl, hstops⟩
    cases hstops with
    | told hforward =>
      refine .told ?_
      rintro _ ⟨⟩
      exact (Tracked.observe_eq_ok h rows).1.mpr (hforward t' rfl)
    | @backwards _ htracked _ after row' hrows hforward current previous hcurrent hprevious
        hback =>
      cases htracked
      subst hrows
      obtain ⟨hiff, hcolumn, hascending, hseen⟩ := Tracked.observe_eq_ok h given'
      rw [hcolumn, hascending]
      rw [hcolumn] at hcurrent
      rw [hascending] at hback
      exact .backwards rfl rfl (hiff.mpr hforward) hcurrent (hseen ▸ hprevious) hback

/-- At a row that is refused a pager stops. -/
theorem cons_iff_of_refused {t : Tracked} {e : Error} (h : t.observe row = .error e) :
    Stops (some t) (row :: rows) failure given stop ↔ given = [] ∧ stop = some e := by
  obtain ⟨current, previous, hcurrent, hlast, hback, rfl⟩ := Tracked.observe_eq_error_iff.mp h
  constructor
  · intro hstops
    have hrefused : ∀ before, ¬t.Forward (row :: before) := by
      intro before hforward
      obtain ⟨t', ht', -⟩ := hforward.observe
      rw [ht'] at h
      cases h
    cases hstops with
    | told hforward => exact absurd (hforward t rfl) (hrefused rows)
    | @backwards _ htracked _ after row' hrows hforward current' previous' hcurrent' hprevious'
        _ =>
      cases htracked
      cases given with
      | nil =>
        obtain ⟨rfl, rfl⟩ := List.cons_eq_cons.mp hrows
        obtain rfl : previous = previous' := by
          simpa [Tracked.seen, hlast] using hprevious'
        obtain rfl : current = current' := Option.some.inj (hcurrent.symm.trans hcurrent')
        exact ⟨rfl, rfl⟩
      | cons first before =>
        obtain ⟨rfl, rfl⟩ := List.cons_eq_cons.mp hrows
        exact absurd hforward (hrefused before)
  · rintro ⟨rfl, rfl⟩
    refine .backwards rfl (List.nil_append _).symm ?_ hcurrent (by simp [Tracked.seen, hlast]) hback
    simp [Tracked.Forward, hlast]

/-- **A pager stops somewhere.** -/
theorem exists_stops (tracked : Option Tracked) (rows : List Row) (failure : Option StoreError) :
    ∃ given stop, Stops tracked rows failure given stop := by
  cases tracked with
  | none => exact ⟨_, _, of_untracked.mpr ⟨rfl, rfl⟩⟩
  | some t =>
    induction rows generalizing t with
    | nil => exact ⟨_, _, nil_iff.mpr ⟨rfl, rfl⟩⟩
    | cons row rows ih =>
      cases hobserve : t.observe row with
      | error e => exact ⟨_, _, (cons_iff_of_refused hobserve).mpr ⟨rfl, rfl⟩⟩
      | ok t' =>
        obtain ⟨given, stop, hstops⟩ := ih t'
        exact ⟨_, _, (cons_iff hobserve).mpr ⟨given, rfl, hstops⟩⟩

end Stops

/-! ## 2. What a store tells -/

/-- The rows of answers up to the end of the slice or the first failure, and that failure. -/
def readAnswers : List (Except StoreError ResultSet) → List Row × Option StoreError
  | [] => ([], none)
  | .error e :: _ => ([], some e)
  | .ok page :: answers =>
    if page.pagingState.isNone then (page.rows, none)
    else (page.rows ++ (readAnswers answers).1, (readAnswers answers).2)

/-- The rows that a session tells about a slice that is not yet prepared, and its failure. -/
def Session.told (session : Session) : List Row × Option StoreError :=
  match session.refusal? with
  | some e => ([], some e)
  | none => readAnswers session.answers

namespace Pager

variable {m : Mapping} {p p' : Pager} {session session' : Session}

/-- The rows that a session tells a pager that asks for pages, and its failure. -/
def told (p : Pager) (session : Session) : List Row × Option StoreError :=
  if p.prepared then readAnswers session.answers else session.told

/-- The rows that are still to come, and the failure after them. -/
def remaining (p : Pager) (session : Session) : List Row × Option StoreError :=
  if p.exhausted then (p.buffer, none)
  else (p.buffer ++ (p.told session).1, (p.told session).2)

theorem remaining_of_told (hbuffer : p.buffer = []) (hopen : p.exhausted = false) :
    p.remaining session = p.told session := by
  rw [remaining, hopen, hbuffer]
  rfl

theorem remaining_of_buffer {row : Row} {rest : List Row} (hbuffer : p.buffer = row :: rest)
    (tracked : Option Tracked) :
    p.remaining session =
      (row :: (remaining { p with buffer := rest, tracked := tracked } session).1,
        (remaining { p with buffer := rest, tracked := tracked } session).2) := by
  rw [remaining, remaining, hbuffer]
  cases p.exhausted <;> rfl

/-- A statement that cannot be prepared is all that a session tells; otherwise it tells what it
answers. -/
theorem prepare_spec (p : Pager) (session : Session) :
    (∃ e session', p.prepare session = (.error (.store e), session')
        ∧ p.told session = ([], some e))
      ∨ ∃ session', p.prepare session = (.ok (), session')
        ∧ p.told session = readAnswers session.answers := by
  unfold prepare told
  cases p.prepared with
  | true => exact Or.inr ⟨session, rfl, rfl⟩
  | false =>
    unfold Session.prepare Session.told
    cases session.refusal? with
    | some e => exact Or.inl ⟨_, _, rfl, rfl⟩
    | none => exact Or.inr ⟨_, rfl, rfl⟩

/-- What is to come after a page: its rows, and what is told after it unless it is the last. -/
theorem remaining_receive (p : Pager) (page : ResultSet) (session : Session) :
    (p.receive page).remaining session =
      if page.pagingState.isNone then (page.rows, none)
      else (page.rows ++ (readAnswers session.answers).1, (readAnswers session.answers).2) := rfl

/-- **Asking for a page changes nothing of what is to come**: either the page is taken from what
the session tells, or what it tells is a failure. -/
theorem fetch_spec (hbuffer : p.buffer = []) (hopen : p.exhausted = false) :
    (∃ e session', p.fetch session = (.error (.store e), session')
        ∧ p.remaining session = ([], some e))
      ∨ ∃ p' session', p.fetch session = (.ok p', session')
        ∧ p'.failed = p.failed ∧ p'.tracked = p.tracked
        ∧ p'.remaining session' = p.remaining session
        ∧ ((p'.exhausted = true ∧ p'.buffer = [])
          ∨ session'.answers.length < session.answers.length) := by
  rw [remaining_of_told hbuffer hopen, fetch]
  rcases prepare_spec p session with ⟨e, session', hprepare, htold⟩ | ⟨session', hprepare, htold⟩
  · exact Or.inl ⟨e, session', by rw [hprepare], htold⟩
  · have hanswers := prepare_answers hprepare
    rw [hprepare, htold, ← hanswers]
    simp only [execute_eq, nextAnswer]
    cases session'.answers with
    | nil => exact Or.inr ⟨_, _, rfl, rfl, rfl, rfl, Or.inl ⟨rfl, rfl⟩⟩
    | cons answer answers =>
      cases answer with
      | error e => exact Or.inl ⟨e, _, rfl, rfl⟩
      | ok page =>
        refine Or.inr ⟨_, _, rfl, rfl, rfl, ?_, Or.inr (Nat.lt_succ_self _)⟩
        rw [remaining_receive, readAnswers]
        rfl

theorem nextRow_of_fetch_error {e : Error} (hbuffer : p.buffer = []) (hopen : p.exhausted = false)
    (h : p.fetch session = (.error e, session')) : p.nextRow session = (.error e, session') := by
  rw [nextRow, nextRowWithin, hbuffer]
  simp only [hopen, Bool.false_eq_true, if_false, h]

/-- **A pager finds the next row, a failure or the end**: its next row is that of a pager to which
the same is still to come, and which has the row in its buffer, or has reached the end, or fails
with the next page. -/
theorem exists_nextRow_eq (p : Pager) (session : Session) :
    ∃ (p' : Pager) (session' : Session), p.nextRow session = p'.nextRow session'
      ∧ p'.failed = p.failed ∧ p'.tracked = p.tracked
      ∧ p'.remaining session' = p.remaining session
      ∧ (p'.buffer ≠ [] ∨ (p'.buffer = [] ∧ p'.exhausted = true)
        ∨ ∃ e after, p'.nextRow session' = (.error (.store e), after)
          ∧ p'.remaining session' = ([], some e)) := by
  by_cases hbuffer : p.buffer = []
  · cases hopen : p.exhausted with
    | true => exact ⟨p, session, rfl, rfl, rfl, rfl, Or.inr (Or.inl ⟨hbuffer, hopen⟩)⟩
    | false =>
      rcases @fetch_spec p session hbuffer hopen with
        ⟨e, after, hfetch, htold⟩ | ⟨p', session', hfetch, hfailed, htracked, hremaining, hless⟩
      · have hrow := nextRow_of_fetch_error hbuffer hopen hfetch
        exact ⟨p, session, rfl, rfl, rfl, rfl, Or.inr (Or.inr ⟨e, after, hrow, htold⟩)⟩
      · have hrow := nextRow_eq_of_fetch hbuffer hopen hfetch
        rcases hless with hend | hless
        · exact ⟨p', session', hrow, hfailed, htracked, hremaining, Or.inr (Or.inl hend.symm)⟩
        · obtain ⟨p'', session'', hrow', hfailed', htracked', hremaining', hcases⟩ :=
            exists_nextRow_eq p' session'
          exact ⟨p'', session'', hrow.trans hrow', hfailed'.trans hfailed,
            htracked'.trans htracked, hremaining'.trans hremaining, hcases⟩
  · exact ⟨p, session, rfl, rfl, rfl, rfl, Or.inl hbuffer⟩
termination_by session.answers.length

/-! ## 3. Calls -/

/-- A pager that has nothing more to give. -/
def Settled (p : Pager) : Prop :=
  p.failed = true ∨ (p.buffer = [] ∧ p.exhausted = true)

/-- **A settled pager gives nothing, stays as it is, and asks nothing of the session.** -/
theorem next_of_settled (h : p.Settled) : p.next m session = (none, p, session) := by
  rcases h with hfailed | ⟨hbuffer, hexhausted⟩
  · exact next_of_failed hfailed
  · cases hp : p.failed with
    | true => exact next_of_failed hp
    | false => exact next_of_row hp (nextRow_of_exhausted hbuffer hexhausted)

/-- Taking a row: it is refused and the pager stops there, or given, and the pager stops where it
would from there. -/
theorem take_of_stops {row : Row} {rows given : List Row} {failure : Option StoreError}
    {stop : Option Error} (rest : List Row) (h : Stops p.tracked (row :: rows) failure given stop) :
    (∃ e, p.take row rest = .error e ∧ given = [] ∧ stop = some e)
      ∨ ∃ tracked given',
        p.take row rest = .ok (row, { p with buffer := rest, tracked := tracked })
          ∧ given = row :: given' ∧ Stops tracked rows failure given' stop := by
  unfold take
  cases htracked : p.tracked with
  | none =>
    rw [htracked, Stops.of_untracked] at h
    obtain ⟨rfl, rfl⟩ := h
    exact Or.inr ⟨none, rows, by simp only, rfl, Stops.of_untracked.mpr ⟨rfl, rfl⟩⟩
  | some t =>
    rw [htracked] at h
    cases hobserve : t.observe row with
    | error e =>
      obtain ⟨rfl, rfl⟩ := (Stops.cons_iff_of_refused hobserve).mp h
      exact Or.inl ⟨e, by simp only [hobserve]; rfl, rfl, rfl⟩
    | ok t' =>
      obtain ⟨given', rfl, hstops⟩ := (Stops.cons_iff hobserve).mp h
      exact Or.inr ⟨some t', given', by simp only [hobserve]; rfl, rfl, hstops⟩

/-- **One call**: the next row to be given, and from there the pager stops where it would; or, with
no row left, the failure if there is one, and the pager is settled. -/
theorem next_of_stops {given : List Row} {stop : Option Error} (hp : p.failed = false)
    (h : Stops p.tracked (p.remaining session).1 (p.remaining session).2 given stop) :
    (given = [] ∧ ∃ p' session', p.next m session = (stop.map .error, p', session') ∧ p'.Settled)
      ∨ ∃ row given' p' session', given = row :: given'
        ∧ p.next m session = (some (m.ofRow row), p', session') ∧ p'.failed = false
        ∧ Stops p'.tracked (p'.remaining session').1 (p'.remaining session').2 given' stop := by
  obtain ⟨p', session', hrow, hfailed, htracked, hremaining, hfound⟩ := exists_nextRow_eq p session
  rw [← htracked, ← hremaining] at h
  rcases hfound with hbuffer | ⟨hbuffer, hexhausted⟩ | ⟨e, after, hfetch, htold⟩
  · obtain ⟨row, rest, hbuffer⟩ := List.exists_cons_of_ne_nil hbuffer
    rw [remaining_of_buffer hbuffer p'.tracked] at h
    rw [nextRow_of_buffer hbuffer] at hrow
    rcases take_of_stops rest h with
      ⟨e, htake, rfl, rfl⟩ | ⟨tracked, given', htake, rfl, hstops⟩
    · rw [htake] at hrow
      exact Or.inl ⟨rfl, _, _, next_of_error hp hrow, Or.inl rfl⟩
    · rw [htake] at hrow
      exact Or.inr ⟨row, given', _, _, rfl, next_of_row hp hrow, hfailed.trans hp, hstops⟩
  · rw [remaining, hexhausted, if_pos rfl, hbuffer, Stops.nil_iff] at h
    obtain ⟨rfl, rfl⟩ := h
    rw [nextRow_of_exhausted hbuffer hexhausted] at hrow
    exact Or.inl ⟨rfl, _, _, next_of_row hp hrow, Or.inr ⟨hbuffer, hexhausted⟩⟩
  · rw [htold, Stops.nil_iff] at h
    obtain ⟨rfl, rfl⟩ := h
    rw [hfetch] at hrow
    exact Or.inl ⟨rfl, _, _, next_of_error hp hrow, Or.inl rfl⟩

/-- A pager and its session after so many calls. -/
def after (m : Mapping) : Nat → Pager → Session → Pager × Session
  | 0, p, session => (p, session)
  | n + 1, p, session =>
    let (_, p, session) := p.next m session
    after m n p session

/-- What the call after so many gives. -/
def result (m : Mapping) (n : Nat) (p : Pager) (session : Session) :
    Option (Except Error m.Record) :=
  ((after m n p session).1.next m (after m n p session).2).1

theorem after_of_settled (h : p.Settled) (n : Nat) : after m n p session = (p, session) := by
  induction n with
  | zero => rfl
  | succ n ih => rw [after, next_of_settled h]; exact ih

theorem result_of_settled (h : p.Settled) (n : Nat) : result m n p session = none := by
  rw [result, after_of_settled h, next_of_settled h]

/-- What a pager is after some calls is what it is after the later ones from there. -/
theorem after_succ {r : Option (Except Error m.Record)}
    (h : p.next m session = (r, p', session')) (n : Nat) :
    after m (n + 1) p session = after m n p' session' := by
  rw [after, h]

theorem result_succ {r : Option (Except Error m.Record)}
    (h : p.next m session = (r, p', session')) (n : Nat) :
    result m (n + 1) p session = result m n p' session' := by
  rw [result, after_succ h, result]

theorem result_zero {r : Option (Except Error m.Record)}
    (h : p.next m session = (r, p', session')) : result m 0 p session = r := by
  rw [result, after, h]

/-- **All calls**: the rows are given in order, each as it reads, then the failure if there is one,
and from then on nothing changes. -/
theorem calls_of_stops {given : List Row} {stop : Option Error} (hp : p.failed = false)
    (h : Stops p.tracked (p.remaining session).1 (p.remaining session).2 given stop) :
    (∀ n, result m n p session =
        (given.map m.ofRow ++ (stop.map Except.error).toList)[n]?)
      ∧ ∀ n, given.length < n → after m n p session = after m (given.length + 1) p session := by
  induction given generalizing p session with
  | nil =>
    rcases next_of_stops hp h with ⟨-, p', session', hnext, hsettled⟩ | ⟨_, _, _, _, heq, -⟩
    · constructor
      · intro n
        cases n with
        | zero =>
          rw [result_zero hnext]
          cases stop <;> rfl
        | succ n =>
          rw [result_succ hnext, result_of_settled hsettled]
          cases stop <;> rfl
      · intro n hn
        obtain ⟨k, rfl⟩ := Nat.exists_eq_succ_of_ne_zero (Nat.pos_iff_ne_zero.mp hn)
        rw [after_succ hnext, after_succ hnext, after_of_settled hsettled,
          after_of_settled hsettled]
    · cases heq
  | cons row given ih =>
    rcases next_of_stops hp h with ⟨heq, -⟩ | ⟨_, _, p', session', heq, hnext, hp', hstops⟩
    · cases heq
    · cases heq
      obtain ⟨hresult, hafter⟩ := ih hp' hstops
      constructor
      · intro n
        cases n with
        | zero => rw [result_zero hnext]; rfl
        | succ n => rw [result_succ hnext, hresult]; rfl
      · intro n hn
        cases n with
        | zero => cases hn
        | succ n =>
          rw [after_succ hnext, after_succ hnext, List.length_cons]
          exact hafter n (Nat.lt_of_succ_lt_succ hn)

/-! ## 4. Slices -/

/-- **A pager stops for good on a failure and only then.**  Starting it asks nothing.  Whatever a
session tells, the calls give every row before the stop, in order and each as it reads or as the
failure to read it, and then the failure that stops it, once, if there is one; after that, and
after the first call that gives nothing, every call gives nothing and leaves the session as it
is. -/
theorem slice_stops {s : Slice} {m : Mapping} {p : Pager} (hstart : start s m = .ok p) :
    p = { statement := p.statement, tracked := p.tracked }
      ∧ ∀ session : Session,
        (∃ given stop, Stops p.tracked session.told.1 session.told.2 given stop)
        ∧ (∀ given stop, Stops p.tracked session.told.1 session.told.2 given stop →
          (∀ n, result m n p session =
              (given.map m.ofRow ++ (stop.map Except.error).toList)[n]?)
            ∧ ∀ n, given.length < n → after m n p session = after m (given.length + 1) p session)
        ∧ ∀ n, result m n p session = none → ∀ k, n < k →
          result m k p session = none ∧ after m k p session = after m (n + 1) p session := by
  obtain ⟨-, hp⟩ := start_eq_ok hstart
  have hfailed : p.failed = false := by rw [hp]
  have htold : ∀ session, p.remaining session = session.told := by
    intro session
    rw [hp]
    rfl
  refine ⟨hp, fun session => ?_⟩
  have hcalls : ∀ given stop, Stops p.tracked session.told.1 session.told.2 given stop →
      (∀ n, result m n p session = (given.map m.ofRow ++ (stop.map Except.error).toList)[n]?)
        ∧ ∀ n, given.length < n → after m n p session = after m (given.length + 1) p session := by
    intro given stop hstops
    rw [← htold] at hstops
    exact calls_of_stops hfailed hstops
  obtain ⟨given, stop, hstops⟩ := Stops.exists_stops p.tracked session.told.1 session.told.2
  refine ⟨⟨given, stop, hstops⟩, hcalls, fun n hnone k hk => ?_⟩
  obtain ⟨hresult, hafter⟩ := hcalls given stop hstops
  rw [hresult, List.getElem?_eq_none_iff, List.length_append, List.length_map] at hnone
  constructor
  · rw [hresult, List.getElem?_eq_none_iff, List.length_append, List.length_map]
    omega
  · rw [hafter k (by omega), hafter (n + 1) (by omega)]

/-- A page whose second reading lies before the first, with a third one after it and more pages to
come: the calls give the first reading and the failure, and then nothing. -/
theorem slice_stops_readings :
    ∃ p, start { partition := .ok (.int 1), lower := [.int 3] } readings = .ok p
      ∧ ∀ n, result readings n p
          { answers := [.ok ⟨[reading 5, reading 4, reading 7], some [1]⟩, .ok .empty] } =
        [readings.ofRow (reading 5),
          .error (.pageOutOfOrder "day" (Value.int 5).spoken (Value.int 4).spoken
            "ascending")][n]? := by
  have hrange : Key.resolve (Slice.side (.int 1) [.int 3]) (Slice.side (.int 1) []) =
      .ok ⟨[some (.int 1)], some (some (.int 3)), none⟩ :=
    Key.resolve_eq_ok_iff.mpr <| Or.inr ⟨by simp [Slice.side], rfl, rfl, _, _, _, _, _, rfl, rfl,
      by simp [Key.Component.same, Value.equals], .lower _, rfl⟩
  obtain ⟨p, hstart, hday⟩ : ∃ p,
      start { partition := .ok (.int 1), lower := [.int 3] } readings = .ok p
        ∧ p.tracked = some ⟨"day", true, none⟩ := by
    simp only [start, Slice.query, bind, Except.bind, hrange]
    exact ⟨_, rfl, rfl⟩
  obtain ⟨-, hcalls⟩ := slice_stops hstart
  obtain ⟨-, hstops, -⟩ :=
    hcalls { answers := [.ok ⟨[reading 5, reading 4, reading 7], some [1]⟩, .ok .empty] }
  have hbackwards : Stops p.tracked [reading 5, reading 4, reading 7] none [reading 5]
      (some (.pageOutOfOrder "day" (Value.int 5).spoken (Value.int 4).spoken "ascending")) := by
    rw [hday]
    have hforward : Tracked.Forward ⟨"day", true, none⟩ [reading 5] := by
      simp only [Tracked.Forward]
      decide
    have hback : Tracked.backwards true (.int 4) (.int 5) = true := by decide
    exact .backwards rfl rfl hforward rfl rfl hback
  exact ⟨p, hstart, (hstops _ _ hbackwards).1⟩

end Pager

end WideColumn
