/-
# Calls on a query

A query gathers by calls, and a call is data here, so that what holds of every order of calls can
be said of a list of them.  Three facts settle what a call does:

* it PUSHES fragments at the end of clauses and takes none away (`fragments_call`);
* it may FAIL, which counts only if nothing failed before (`failure_call`);
* the kind and the table of the statement stay as they are.
-/
import WideColumn.Query.FunctionCall

namespace WideColumn.Query

open WideColumn.Key

/-! ## 1. Calls and clauses -/

/-- A call on a query. -/
inductive Call where
  | project (expression : String)
  | projectCall (call : FunctionCall) (aliasName : String)
  | relate (text : String) (o : Operand)
  | relateIndex (text : String) (native : Bool) (o : Operand)
  | relateIndexPair (text : String) (native : Bool) (first second : Operand)
  | relateRange (position : Nat) (lowerText : String) (lower : Operand) (upperText : String)
      (upper : Operand)
  | restrict (relations : List (String × Value)) (orderBy : List String)
  | assign (text : String) (o : Operand)
  | assignLiteral (text : String)
  | condition (text : String) (o : Operand)
  | orderBy (items : List String)
  | orderByClustering (clustering : List ClusteringColumn) (d : Direction)
  | limit (n : Nat)
  | perPartitionLimit (n : Nat)
  | allowFiltering
  | ifNotExists
  | ifExists
  | usingTtl (seconds : Nat)
  | usingTimestamp (micros : Int)
  | options (change : StatementOptions → StatementOptions)

/-- The query after a call. -/
def call (q : Query) : Call → Query
  | .project expression => q.project expression []
  | .projectCall c aliasName => q.projectCall c aliasName
  | .relate text o => q.relate text [o]
  | .relateIndex text native o => q.relateIndex text native [o]
  | .relateIndexPair text native first second => q.relateIndex text native [first, second]
  | .relateRange position lowerText lower upperText upper =>
    q.relateRange position lowerText lower upperText upper
  | .restrict relations orderBy => q.restrict relations orderBy
  | .assign text o => q.assign text [o]
  | .assignLiteral text => q.assign text []
  | .condition text o => q.condition text [o]
  | .orderBy items => { q with orderBy := items }
  | .orderByClustering clustering d => q.orderByClustering clustering d
  | .limit n => { q with limit := some n }
  | .perPartitionLimit n => { q with perPartitionLimit := some n }
  | .allowFiltering => { q with allowFiltering := true }
  | .ifNotExists => { q with ifNotExists := true }
  | .ifExists => { q with ifExists := true }
  | .usingTtl n => { q with ttl := some n }
  | .usingTimestamp n => { q with timestamp := some n }
  | .options change => { q with options := change q.options }

/-- The query after calls, in order. -/
def calls (q : Query) (cs : List Call) : Query := cs.foldl call q

@[simp] theorem calls_nil (q : Query) : q.calls [] = q := rfl

@[simp] theorem calls_cons (q : Query) (c : Call) (cs : List Call) :
    q.calls (c :: cs) = (q.call c).calls cs := rfl

theorem calls_append (q : Query) (cs cs' : List Call) :
    q.calls (cs ++ cs') = (q.calls cs).calls cs' :=
  List.foldl_append

/-- A clause that fragments are gathered for. -/
inductive Clause where
  | projection
  | assignments
  | relations
  | conditions
  deriving DecidableEq

/-- The fragments gathered for a clause. -/
def fragments (q : Query) : Clause → List Fragment
  | .projection => q.projection
  | .assignments => q.assignments
  | .relations => q.relations
  | .conditions => q.conditions

namespace Call

/-- The clause that a call adds to. -/
def clause? : Call → Option Clause
  | project _ | projectCall _ _ => some .projection
  | relate _ _ | relateIndex _ _ _ | relateIndexPair _ _ _ _ | relateRange _ _ _ _ _
  | restrict _ _ => some .relations
  | assign _ _ | assignLiteral _ => some .assignments
  | condition _ _ => some .conditions
  | _ => none

/-- The fragments that a call adds. -/
def added : Call → List Fragment
  | project expression => [⟨expression, []⟩]
  | projectCall c aliasName => [⟨c.text ++ " AS " ++ aliasName, c.bounds⟩]
  | relate text o | relateIndex text _ o | assign text o | condition text o =>
    [fragment text [o]]
  | relateIndexPair text _ first second => [fragment text [first, second]]
  | relateRange _ lowerText lower upperText upper =>
    [fragment lowerText [lower], fragment upperText [upper]]
  | restrict relations _ => relations.map fun (text, v) => ⟨text, [⟨v.spoken, v⟩]⟩
  | assignLiteral text => [fragment text []]
  | _ => []

/-- The fragments that a call adds to a clause. -/
def pushes (c : Call) (clause : Clause) : List Fragment :=
  if c.clause? = some clause then c.added else []

/-- The sources that a call binds. -/
def operands : Call → List Operand
  | relate _ o | relateIndex _ _ o | assign _ o | condition _ o => [o]
  | relateIndexPair _ _ first second => [first, second]
  | relateRange _ _ lower _ upper => [lower, upper]
  | _ => []

/-- Why a call fails, if it does: bounds in the wrong order come before their encoding. -/
def failure? : Call → Option Error
  | relateRange position _ lower _ upper =>
    if outOfOrder lower upper then some (.range (.nonMonotonic position))
    else ([lower, upper].filterMap Operand.failure?).head?
  | c => (c.operands.filterMap Operand.failure?).head?

end Call

/-! ## 2. What calls do -/

/-- The bounds of a range are two relations, checked first. -/
theorem relateRange_eq (q : Query) (position : Nat) (lowerText : String) (lower : Operand)
    (upperText : String) (upper : Operand) :
    q.relateRange position lowerText lower upperText upper =
      (({ q with
          failure := q.failure <|> if outOfOrder lower upper then
            some (.range (.nonMonotonic position)) else none } : Query).relate lowerText
        [lower]).relate upperText [upper] := by
  rw [relateRange]
  split
  · rfl
  · simp

/-- **A call adds its fragments at the end of their clause.** -/
theorem fragments_call (q : Query) (c : Call) (clause : Clause) :
    (q.call c).fragments clause = q.fragments clause ++ c.pushes clause := by
  cases c <;> cases clause <;>
    simp [call, fragments, Call.pushes, Call.clause?, Call.added, project, projectCall, relate,
      relateIndex, relateRange_eq, restrict, assign, condition, orderByClustering, note]

/-- **A failure counts only if nothing failed before.** -/
theorem failure_call (q : Query) (c : Call) :
    (q.call c).failure = (q.failure <|> c.failure?) := by
  cases c with
  | relateRange position lowerText lower upperText upper =>
    simp only [call, relateRange_eq, relate, note, Call.failure?, List.filterMap_cons,
      List.filterMap_nil]
    cases q.failure <;> cases lower.failure? <;> cases upper.failure? <;>
      cases outOfOrder lower upper <;> rfl
  | _ =>
    simp [call, Call.failure?, Call.operands, project, projectCall, relate, relateIndex, restrict,
      assign, condition, orderByClustering, note]

@[simp] theorem kind_call (q : Query) (c : Call) : (q.call c).kind = q.kind := by
  cases c with
  | relateRange => rw [call, relateRange_eq]; rfl
  | _ => rfl

@[simp] theorem ifExists_call (q : Query) (c : Call) :
    (q.call c).ifExists = (q.ifExists || c matches .ifExists) := by
  cases c <;> simp [call, project, projectCall, relate, relateIndex, relateRange_eq, restrict,
    assign, condition, orderByClustering, note]

@[simp] theorem table_call (q : Query) (c : Call) : (q.call c).table = q.table := by
  cases c with
  | relateRange => rw [call, relateRange_eq]; rfl
  | _ => rfl

/-! ## 3. Runs -/

theorem fragments_calls (q : Query) (cs : List Call) (clause : Clause) :
    (q.calls cs).fragments clause = q.fragments clause ++ cs.flatMap (·.pushes clause) := by
  induction cs generalizing q with
  | nil => simp
  | cons c cs ih => rw [calls_cons, ih, fragments_call, List.flatMap_cons, List.append_assoc]

/-- **The failure of a run is the first of all.** -/
theorem failure_calls (q : Query) (cs : List Call) :
    (q.calls cs).failure = (q.failure <|> cs.findSome? Call.failure?) := by
  induction cs generalizing q with
  | nil => simp
  | cons c cs ih =>
    rw [calls_cons, ih, failure_call, List.findSome?_cons]
    cases q.failure <;> cases c.failure? <;> rfl

theorem failure_calls_eq_none_iff {q : Query} {cs : List Call} :
    (q.calls cs).failure = none ↔ q.failure = none ∧ ∀ c ∈ cs, c.failure? = none := by
  rw [failure_calls, ← List.findSome?_eq_none_iff]
  cases q.failure <;> simp

@[simp] theorem kind_calls (q : Query) (cs : List Call) : (q.calls cs).kind = q.kind := by
  induction cs generalizing q with
  | nil => rfl
  | cons c cs ih => rw [calls_cons, ih, kind_call]

@[simp] theorem table_calls (q : Query) (cs : List Call) : (q.calls cs).table = q.table := by
  induction cs generalizing q with
  | nil => rfl
  | cons c cs ih => rw [calls_cons, ih, table_call]

theorem ifExists_calls (q : Query) (cs : List Call) :
    (q.calls cs).ifExists = (q.ifExists || cs.any (· matches .ifExists)) := by
  induction cs generalizing q with
  | nil => simp
  | cons c cs ih => rw [calls_cons, ih, ifExists_call, List.any_cons, Bool.or_assoc]

end WideColumn.Query
