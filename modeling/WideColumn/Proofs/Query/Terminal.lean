/-
# Ending a query

A query is opened, gathers by calls, and ends with a TERMINAL: its statement is asked for, or it is
run and its rows are read in one of several forms.

Whatever failed on the way is LISTED here, call by call (`Opening.failures`, `Call.failures`), and
only two things matter to a terminal:

* the list is not empty: the terminal answers with its first member, and the session stays
  untouched (`run_of_failure`);
* the list is empty: one text is prepared and one statement is executed (`run_of_refusal`,
  `run_of_no_refusal`).

All terminals but one run the query and read what comes back, and no reading of rows fails as an
unapplied write does (`finish_eq_run`).  So only `run` has to be looked at.
-/
import WideColumn.Proofs.Mapping.Failure
import WideColumn.Proofs.Pager.Run
import WideColumn.Proofs.Query.Call
import WideColumn.Query.Run

namespace WideColumn.Query

open WideColumn.Key
open WideColumn.Pager (nextAnswer execute_eq)

/-! ## 1. Every failure on the way -/

/-- How a query is opened. -/
inductive Opening where
  | on (kind : StatementKind) (table : String)
  | selecting (json : Bool) (table projection : String)
  | inserting (table : String) (columns : Except Error (List (String × Value)))
  | insertingJson (table json : String)

namespace Opening

/-- The query that is opened. -/
def query : Opening → Query
  | on kind table => .on kind table
  | selecting json table projection => .selecting json table projection
  | inserting table columns => .inserting table columns
  | insertingJson table json => .insertingJson table json

/-- The failures of an opening: only a record to be inserted has values to encode. -/
def failures : Opening → List Error
  | inserting _ (.error e) => [e]
  | _ => []

theorem failure_query (o : Opening) : o.query.failure = o.failures.head? := by
  cases o with
  | inserting table columns => cases columns <;> rfl
  | selecting json => cases json <;> rfl
  | _ => rfl

end Opening

namespace Call

/-- The failures of a call, in the order of its operands.  Two bounds that could be encoded fail
together unless the lower one lies strictly before the upper one. -/
def failures : Call → List Error
  | relateRange position _ ⟨_, .ok low⟩ _ ⟨_, .ok high⟩ =>
    if low.compare? high = some .lt then [] else [.range (.nonMonotonic position)]
  | c => c.operands.filterMap Operand.failure?

theorem failure?_eq_head? (c : Call) : c.failure? = c.failures.head? := by
  cases c with
  | relateRange position lowerText lower upperText upper =>
    obtain ⟨_, low | low⟩ := lower <;> obtain ⟨_, high | high⟩ := upper
    case ok.ok =>
      simp only [failure?, failures, outOfOrder, Value.lt]
      by_cases horder : low.compare? high = some .lt <;> simp [horder, Operand.failure?]
    all_goals simp [failure?, failures, operands, outOfOrder]
  | _ => rfl

end Call

/-- Every failure on the way, in call order. -/
def failures (o : Opening) (cs : List Call) : List Error :=
  o.failures ++ cs.flatMap Call.failures

/-- **A query remembers the first failure of all.** -/
theorem failure_calls_query (o : Opening) (cs : List Call) :
    (o.query.calls cs).failure = (failures o cs).head? := by
  have hcalls : Call.failure? = fun c => c.failures.head? := funext Call.failure?_eq_head?
  rw [failure_calls, o.failure_query, failures, List.head?_append, List.head?_flatMap, hcalls]
  exact Option.or_eq_orElse.symm

/-! ## 2. Terminals -/

/-- How a query ends. -/
inductive Terminal where
  | statement
  | executeRaw
  | executeRawAsync
  | execute
  | executeAsync
  | getRows
  | getList (m : Mapping)
  | getListAsync (m : Mapping)
  | getOne (m : Mapping)
  | getJsonList
  | getJsonOne

/-- What a terminal gives. -/
def Terminal.Output : Terminal → Type
  | statement => Statement
  | executeRaw | executeRawAsync => ResultSet
  | execute | executeAsync => Unit
  | getRows => List Row
  | getList m | getListAsync m => List m.Record
  | getOne m => Option m.Record
  | getJsonList => List String
  | getJsonOne => Option String

/-- The answer of a terminal, and the session after it. -/
def finish (q : Query) (s : Session) : (t : Terminal) → Except Error t.Output × Session
  | .statement => (q.statement, s)
  | .executeRaw | .executeRawAsync => q.run s
  | .execute | .executeAsync => q.runWith s fun _ => .ok ()
  | .getRows => q.runWith s .ok
  | .getList m | .getListAsync m => q.runWith s (readAll m.ofRow)
  | .getOne m => q.runWith s (readFirst m.ofRow)
  | .getJsonList => q.runWith s (readAll jsonOf)
  | .getJsonOne => q.runWith s (readFirst jsonOf)

/-- A failure other than that of a write that was not applied. -/
def OfReading (e : Error) : Prop := ∀ row, e ≠ .notApplied row

theorem ofRow_failsAs_ofReading (m : Mapping) (row : Row) :
    Except.FailsAs OfReading (m.ofRow row) :=
  (m.ofRow_failsAs row).mono <| by
    rintro e ⟨_, _, _, rfl⟩ row
    nofun

theorem jsonOf_failsAs_ofReading (row : Row) : Except.FailsAs OfReading (jsonOf row) := by
  rw [jsonOf]
  split
  · exact .ok
  · exact .error nofun

variable {α : Type} {read : Row → Except Error α}

theorem readAll_failsAs (h : ∀ row, Except.FailsAs OfReading (read row)) (rows : List Row) :
    Except.FailsAs OfReading (readAll read rows) :=
  .mapM fun row _ => h row

theorem readFirst_failsAs (h : ∀ row, Except.FailsAs OfReading (read row)) (rows : List Row) :
    Except.FailsAs OfReading (readFirst read rows) := by
  rw [readFirst]
  split
  · exact .ok
  · exact (h _).map

/-- **A terminal that executes runs the query** and reads what comes back. -/
theorem finish_eq_run {t : Terminal} (ht : t ≠ .statement) :
    ∃ reading : ResultSet → Except Error t.Output,
      (∀ r, Except.FailsAs OfReading (reading r)) ∧
        ∀ (q : Query) (s : Session), q.finish s t = ((q.run s).1 >>= reading, (q.run s).2) := by
  cases t with
  | statement => exact absurd rfl ht
  | executeRaw | executeRawAsync =>
    exact ⟨.ok, fun _ => .ok, fun _ _ => Prod.ext (bind_pure _).symm rfl⟩
  | execute | executeAsync => exact ⟨fun _ => .ok (), fun _ => .ok, fun _ _ => rfl⟩
  | getRows => exact ⟨fun r => .ok r.rows, fun _ => .ok, fun _ _ => rfl⟩
  | getList m | getListAsync m =>
    exact ⟨fun r => readAll m.ofRow r.rows,
      fun r => readAll_failsAs (ofRow_failsAs_ofReading m) r.rows, fun _ _ => rfl⟩
  | getOne m =>
    exact ⟨fun r => readFirst m.ofRow r.rows,
      fun r => readFirst_failsAs (ofRow_failsAs_ofReading m) r.rows, fun _ _ => rfl⟩
  | getJsonList =>
    exact ⟨fun r => readAll jsonOf r.rows,
      fun r => readAll_failsAs jsonOf_failsAs_ofReading r.rows, fun _ _ => rfl⟩
  | getJsonOne =>
    exact ⟨fun r => readFirst jsonOf r.rows,
      fun r => readFirst_failsAs jsonOf_failsAs_ofReading r.rows, fun _ _ => rfl⟩

/-! ## 3. Runs -/

variable {q : Query} {s : Session}

/-- A query that failed never reaches the store. -/
theorem run_of_failure {e : Error} (h : q.failure = some e) : q.run s = (.error e, s) := by
  simp [run, statement, h]

/-- A query whose text is refused is not executed; that it was asked for is all there is to see. -/
theorem run_of_refusal {e : StoreError} (h : q.failure = none) (hrefusal : s.refusal? = some e) :
    q.run s = (.error (.store e), { s with asked := s.asked ++ [q.render.cql] }) := by
  simp [run, statement, h, Session.run, Session.prepare, hrefusal]

/-- Otherwise it is prepared and executed once, and uses up one answer. -/
theorem run_of_no_refusal (h : q.failure = none) (hrefusal : s.refusal? = none) :
    q.run s = ((nextAnswer s).mapError .store >>= checkApplied,
      { s with
        asked := s.asked ++ [q.render.cql]
        prepared := s.prepared ++ [q.render.cql]
        executed := s.executed ++ [q.render]
        answers := s.answers.tail }) := by
  have hprepare : s.prepare q.render.cql = (.ok (), { s with
      asked := s.asked ++ [q.render.cql]
      prepared := s.prepared ++ [q.render.cql] }) := by
    simp [Session.prepare, hrefusal]
  have hanswer : nextAnswer { s with
      asked := s.asked ++ [q.render.cql]
      prepared := s.prepared ++ [q.render.cql] } = nextAnswer s := rfl
  simp only [run, statement, h, Session.run, hprepare, execute_eq, hanswer]
  cases nextAnswer s <;> rfl

/-- A result is refused exactly if its first row tells of an unapplied write. -/
theorem checkApplied_eq_error_iff {r : ResultSet} {e : Error} :
    checkApplied r = .error e ↔
      ∃ row, r.rows.head? = some row ∧ row.get? "[applied]" = some (.boolean false) ∧
        e = .notApplied row := by
  have happlied (row : Row) :
      (row.applied? == some false) = true ↔ row.get? "[applied]" = some (.boolean false) := by
    rw [Row.applied?, beq_iff_eq]
    split <;> simp_all
  rw [checkApplied]
  cases r.rows.head? with
  | none => simp
  | some row =>
    dsimp only
    split
    case isTrue h =>
      have hrow := (happlied row).mp h
      constructor
      · rintro ⟨⟩
        exact ⟨row, rfl, hrow, rfl⟩
      · rintro ⟨_, ⟨⟩, -, rfl⟩
        rfl
    case isFalse h =>
      constructor
      · nofun
      · rintro ⟨_, ⟨⟩, hrow, -⟩
        exact absurd ((happlied row).mpr hrow) h

/-- A run ends in an unapplied write exactly if the statement was executed and the first row says
so. -/
theorem run_eq_notApplied_iff (h : q.failure = none) {row : Row} :
    (q.run s).1 = .error (.notApplied row) ↔
      s.refusal? = none ∧ ∃ r, nextAnswer s = .ok r ∧ r.rows.head? = some row ∧
        row.get? "[applied]" = some (.boolean false) := by
  cases hrefusal : s.refusal? with
  | some e => simp [run_of_refusal h hrefusal]
  | none =>
    rw [run_of_no_refusal h hrefusal, Except.bind_eq_error_iff]
    simp only [Except.mapError_eq_error_iff, Except.mapError_eq_ok_iff,
      checkApplied_eq_error_iff, Error.notApplied.injEq, true_and, reduceCtorEq, and_false,
      exists_false, false_or]
    constructor
    · rintro ⟨r, hr, _, hhead, happlied, rfl⟩
      exact ⟨r, hr, hhead, happlied⟩
    · rintro ⟨r, hr, hhead, happlied⟩
      exact ⟨r, hr, row, hhead, happlied, rfl⟩

/-- **What a terminal that executes does with a query that did not fail.** -/
structure Sends (q : Query) (s : Session) (t : Terminal) : Prop where
  /-- If the text is refused, its failure is reported, and nothing more is asked. -/
  refused : ∀ e, s.refusal? = some e →
    q.finish s t = (.error (.store e), { s with asked := s.asked ++ [q.render.cql] })
  /-- Otherwise one text is prepared and one statement is executed, which uses up one answer. -/
  sent : s.refusal? = none → (q.finish s t).2 =
    { s with
      asked := s.asked ++ [q.render.cql]
      prepared := s.prepared ++ [q.render.cql]
      executed := s.executed ++ [q.render]
      answers := s.answers.tail }
  /-- An execution that fails is reported. -/
  failed : s.refusal? = none → ∀ e, nextAnswer s = .error e → (q.finish s t).1 = .error (.store e)
  /-- The failure of an unapplied write carries the first row, which tells of it. -/
  notApplied : ∀ row, (q.finish s t).1 = .error (.notApplied row) ↔
    s.refusal? = none ∧ ∃ r, nextAnswer s = .ok r ∧ r.rows.head? = some row ∧
      row.get? "[applied]" = some (.boolean false)

theorem sends_of_failure_eq_none {t : Terminal} (h : q.failure = none) (ht : t ≠ .statement) :
    q.Sends s t := by
  obtain ⟨reading, hreading, hfinish⟩ := finish_eq_run ht
  refine ⟨fun refused hrefusal => ?_, fun hrefusal => ?_, fun hrefusal e he => ?_, fun row => ?_⟩
  · rw [hfinish, run_of_refusal h hrefusal]
    rfl
  · rw [hfinish, run_of_no_refusal h hrefusal]
  · rw [hfinish, run_of_no_refusal h hrefusal, he]
    rfl
  · rw [hfinish, ← run_eq_notApplied_iff h, Except.bind_eq_error_iff]
    constructor
    · rintro (hrun | ⟨r, -, hread⟩)
      · exact hrun
      · exact absurd rfl (hreading r _ hread row)
    · exact .inl

theorem finish_of_failure {e : Error} (h : q.failure = some e) (t : Terminal) :
    q.finish s t = (.error e, s) := by
  by_cases ht : t = .statement
  · subst ht
    rw [finish, statement, h]
    rfl
  · obtain ⟨reading, -, hfinish⟩ := finish_eq_run ht
    rw [hfinish, run_of_failure h]
    rfl

/-! ## 4. The first failure decides -/

/-- **The first failure on the way decides how a query ends.**  If there is one, every terminal
answers with it and leaves the session as it was.  If there is none, the statement is what was
gathered, and every terminal that executes prepares its text and executes it, once. -/
theorem first_failure_decides (o : Opening) (cs : List Call) (s : Session) :
    match failures o cs with
    | e :: _ => ∀ t, (o.query.calls cs).finish s t = (.error e, s)
    | [] =>
      (o.query.calls cs).finish s .statement = (.ok (o.query.calls cs).render, s) ∧
        ∀ t ≠ .statement, (o.query.calls cs).Sends s t := by
  have hfailure := failure_calls_query o cs
  cases hlist : failures o cs with
  | cons e rest =>
    rw [hlist, List.head?_cons] at hfailure
    exact finish_of_failure hfailure
  | nil =>
    rw [hlist, List.head?_nil] at hfailure
    refine ⟨?_, fun t ht => sends_of_failure_eq_none hfailure ht⟩
    rw [finish, statement, hfailure]
    rfl

/-- Bounds that are equal fail before a value that cannot be encoded, a text that cannot be prepared
for want of replicas is asked for once and not executed, and a write that lost to another brings
back the row that stands. -/
theorem first_failure_decides_readings :
    (∀ (s : Session) (t : Terminal),
      ((selecting false "readings" "id, day").calls
        [.relateRange 1 "day >= ?" ⟨"5", .ok (.int 5)⟩ "day <= ?" ⟨"5", .ok (.int 5)⟩,
          .relate "id = ?" ⟨"x", .error (.columnCodec "id" (.custom "no id"))⟩]).finish s t =
        (.error (.range (.nonMonotonic 1)), s)) ∧
      ((insertingJson "readings" "{}").calls [.ifNotExists]).finish
          { refusal := some "none", refusedAs := .unavailable } .execute =
        (.error (.store (.unavailable "none")),
          { refusal := some "none"
            refusedAs := .unavailable
            asked := ["INSERT INTO readings JSON ? IF NOT EXISTS"] }) ∧
      (((insertingJson "readings" "{}").calls [.ifNotExists]).finish
        { answers := [.ok ⟨[⟨[("[applied]", .boolean false), ("id", .int 9)]⟩], none⟩] }
          .execute).1 =
        .error (.notApplied ⟨[("[applied]", .boolean false), ("id", .int 9)]⟩) := by
  refine ⟨?_, ?_, ?_⟩
  · intro s
    exact first_failure_decides (.selecting false "readings" "id, day")
      [.relateRange 1 "day >= ?" ⟨"5", .ok (.int 5)⟩ "day <= ?" ⟨"5", .ok (.int 5)⟩,
        .relate "id = ?" ⟨"x", .error (.columnCodec "id" (.custom "no id"))⟩] s
  · obtain ⟨-, hsends⟩ := first_failure_decides (.insertingJson "readings" "{}") [.ifNotExists]
      { refusal := some "none", refusedAs := .unavailable }
    exact (hsends .execute nofun).refused _ rfl
  · obtain ⟨-, hsends⟩ := first_failure_decides (.insertingJson "readings" "{}") [.ifNotExists]
      { answers := [.ok ⟨[⟨[("[applied]", .boolean false), ("id", .int 9)]⟩], none⟩] }
    exact ((hsends .execute nofun).notApplied _).mpr ⟨rfl, _, rfl, rfl, rfl⟩

end WideColumn.Query
