/-
# Placeholders and values are in step

A statement is rendered twice: once as text and once as the list of its values.  The two go
through the clauses separately and in the order of each kind of statement, so it is a fact and no
matter of course that the placeholder a value takes is the one it was given with.

It holds of every run of calls that fit the kind (`StatementKind.Takes`) and give a value for each
placeholder of their text (`Call.Balanced`).  The invariant of such a run is `InStep`: only the
clauses that the kind renders are filled, and with balanced fragments.  An INSERT is different in
that its fragments are columns, and the placeholders stand in a list of their own beside them.
-/
import WideColumn.Proofs.Query.Call
import WideColumn.Proofs.Query.Layout

namespace WideColumn

open WideColumn.Key
open WideColumn.Query (Call Clause)

/-! ## 1. Calls that fit -/

/-- The clauses that a kind of statement renders. -/
def StatementKind.clauses : StatementKind → List Clause
  | select | selectJson => [.projection, .relations]
  | insert | insertJson => [.assignments]
  | update => [.assignments, .relations, .conditions]
  | delete => [.projection, .relations, .conditions]

/-- Whether a call fits a kind of statement: it adds to no clause that is not rendered, and to none
at all of an INSERT, which has its columns from the start. -/
def StatementKind.Takes (kind : StatementKind) (c : Call) : Prop :=
  ∀ clause, c.clause? = some clause →
    clause ∈ kind.clauses ∧ kind ≠ .insert ∧ kind ≠ .insertJson

namespace Query

/-- Whether a call gives a value for each placeholder, and none where there should be none. -/
def Call.Balanced : Call → Prop
  | project expression => placeholders expression = 0
  | projectCall c aliasName => placeholders c.text = c.bounds.length ∧ placeholders aliasName = 0
  | relate text _ | relateIndex text _ _ | assign text _ | condition text _ =>
    placeholders text = 1
  | relateIndexPair text _ _ _ => placeholders text = 2
  | relateRange _ lowerText _ upperText _ =>
    placeholders lowerText = 1 ∧ placeholders upperText = 1
  | restrict relations items =>
    (∀ r ∈ relations, placeholders r.1 = 1) ∧ ∀ item ∈ items, placeholders item = 0
  | assignLiteral text => placeholders text = 0
  | orderBy items => ∀ item ∈ items, placeholders item = 0
  | orderByClustering clustering _ => ∀ c ∈ clustering, placeholders c.name = 0
  | _ => True

/-- How a statement begins: bare, with a projection, with the columns of a record, or with a JSON
text.  The names in it hold no placeholders. -/
inductive Starts : Query → Prop
  | on {kind : StatementKind} {table : String} (bare : kind ≠ .insert ∧ kind ≠ .insertJson)
      (plain : placeholders table = 0) : Starts (.on kind table)
  | selecting {json : Bool} {table projection : String} (plain : placeholders table = 0)
      (columns : placeholders projection = 0) : Starts (.selecting json table projection)
  | inserting {table : String} {columns : List (String × Value)} (plain : placeholders table = 0)
      (names : ∀ c ∈ columns, placeholders c.1 = 0) : Starts (.inserting table (.ok columns))
  | insertingJson {table json : String} (plain : placeholders table = 0) :
      Starts (.insertingJson table json)

/-! ## 2. The invariant -/

/-- Whether a fragment is fit for a kind of statement: balanced, or a column with its value. -/
def Fits (kind : StatementKind) (f : Fragment) : Prop :=
  if kind = .insert then placeholders f.text = 0 ∧ f.bounds.length = 1 else f.Balanced

/-- Only clauses that the kind renders are filled, with fragments that are fit for it. -/
structure InStep (q : Query) : Prop where
  table : placeholders q.table = 0
  orderBy : ∀ item ∈ q.orderBy, placeholders item = 0
  filled : ∀ clause, clause ∉ q.kind.clauses → q.fragments clause = []
  fits : ∀ clause, ∀ f ∈ q.fragments clause, Fits q.kind f
  json : q.kind = .insertJson → ∃ b, q.assignments = [⟨"JSON ?", [b]⟩]

theorem inStep_of_starts {q : Query} (h : Starts q) : q.InStep := by
  cases h with
  | @on kind table bare plain =>
    have hempty : ∀ clause, (Query.on kind table).fragments clause = [] := by rintro ⟨⟩ <;> rfl
    refine ⟨plain, fun _ h => (List.not_mem_nil h).elim, fun clause _ => hempty clause,
      fun clause f hf => ?_, fun h => absurd h bare.2⟩
    rw [hempty] at hf
    cases hf
  | @selecting json table projection plain columns =>
    refine ⟨plain, fun _ h => (List.not_mem_nil h).elim, ?_, ?_, ?_⟩
    · cases json <;> rintro ⟨⟩ <;> simp [StatementKind.clauses, fragments, selecting, Query.on]
    · cases json <;> rintro ⟨⟩ <;>
        simp [fragments, selecting, Query.on, Fits, Fragment.Balanced, columns]
    · cases json <;> intro h <;> cases h
  | @inserting table cs plain names =>
    refine ⟨plain, fun _ h => (List.not_mem_nil h).elim, ?_, ?_, fun h => by cases h⟩
    · rintro ⟨⟩ <;> simp [StatementKind.clauses, fragments, inserting, Query.on]
    · rintro ⟨⟩ f hf
      · cases hf
      · obtain ⟨c, hc, rfl⟩ := List.mem_map.mp hf
        exact ⟨names c hc, rfl⟩
      · cases hf
      · cases hf
  | @insertingJson table json plain =>
    refine ⟨plain, fun _ h => (List.not_mem_nil h).elim, ?_, ?_, fun _ => ⟨_, rfl⟩⟩
    · rintro ⟨⟩ <;> simp [StatementKind.clauses, fragments, insertingJson, Query.on]
    · rintro ⟨⟩ <;> simp [fragments, insertingJson, Query.on, Fits, Fragment.Balanced]
      rfl

/-- A fragment whose operands are all encoded has a value for each of them. -/
theorem balanced_fragment {text : String} {os : List Operand} (h : placeholders text = os.length)
    (hos : ∀ o ∈ os, o.failure? = none) : (fragment text os).Balanced := by
  have hbound : ∀ o ∈ os, (o.bound?).isSome = true := by
    intro o ho
    have hfailure := hos o ho
    cases hvalue : o.value with
    | ok v => simp [Operand.bound?, hvalue]
    | error e => simp [Operand.failure?, hvalue] at hfailure
  rw [Fragment.Balanced, fragment, h, List.filterMap_length_eq_length.mpr hbound]

theorem operands_encoded {c : Call} (hc : c.failure? = none) :
    ∀ o ∈ c.operands, o.failure? = none := by
  have hnone : (c.operands.filterMap Operand.failure?).head? = none := by
    cases c with
    | relateRange position lowerText lower upperText upper =>
      rw [Call.failure?] at hc
      split at hc
      · cases hc
      · exact hc
    | _ => exact hc
  exact List.filterMap_eq_nil_iff.mp (List.head?_eq_none_iff.mp hnone)

/-- **A call that does not fail adds balanced fragments.** -/
theorem balanced_added {c : Call} (h : c.Balanced) (hc : c.failure? = none) :
    ∀ f ∈ c.added, f.Balanced := by
  have hos := operands_encoded hc
  cases c with
  | projectCall c aliasName =>
    have hwords : placeholders " AS " = 0 := rfl
    simp [Call.added, Fragment.Balanced, h.1, h.2, hwords]
  | relate text o | relateIndex text _ o | assign text o | condition text o =>
    simpa [Call.added] using @balanced_fragment text [o] h hos
  | relateIndexPair text _ first second =>
    simpa [Call.added] using @balanced_fragment text [first, second] h hos
  | relateRange position lowerText lower upperText upper =>
    simp only [Call.added, List.forall_mem_cons]
    refine ⟨balanced_fragment h.1 ?_, balanced_fragment h.2 ?_,
      fun _ h => (List.not_mem_nil h).elim⟩
    · exact fun o ho => hos o (by simp_all [Call.operands])
    · exact fun o ho => hos o (by simp_all [Call.operands])
  | restrict relations items =>
    intro f hf
    obtain ⟨r, hr, rfl⟩ := List.mem_map.mp hf
    exact h.1 r hr
  | _ => simp_all [Call.added, Call.Balanced, Fragment.Balanced, fragment]

theorem Call.pushes_eq_nil {c : Call} {clause : Clause} (h : c.clause? ≠ some clause) :
    c.pushes clause = [] := if_neg h

theorem plain_orderBy_call {q : Query} (hq : ∀ item ∈ q.orderBy, placeholders item = 0) {c : Call}
    (h : c.Balanced) : ∀ item ∈ (q.call c).orderBy, placeholders item = 0 := by
  cases c with
  | relateRange position lowerText lower upperText upper =>
    rw [call, relateRange_eq]
    exact hq
  | restrict relations items => exact h.2
  | orderBy items => exact h
  | orderByClustering clustering d =>
    intro item hitem
    obtain ⟨c, hc, rfl⟩ := List.mem_map.mp hitem
    rw [ClusteringColumn.orderItem, placeholders_append, h c hc]
    split <;> rfl
  | _ => exact hq

theorem InStep.call {q : Query} (hq : q.InStep) {c : Call} (hkind : q.kind.Takes c)
    (hbalanced : c.Balanced) (hc : c.failure? = none) : (q.call c).InStep := by
  refine ⟨?_, plain_orderBy_call hq.orderBy hbalanced, ?_, ?_, ?_⟩
  · rw [table_call]
    exact hq.table
  · intro clause hclause
    rw [kind_call] at hclause
    rw [fragments_call, hq.filled clause hclause, List.nil_append]
    exact Call.pushes_eq_nil fun h => hclause (hkind clause h).1
  · intro clause f hf
    rw [kind_call]
    rw [fragments_call, List.mem_append] at hf
    rcases hf with hf | hf
    · exact hq.fits clause f hf
    · by_cases hclause : c.clause? = some clause
      · rw [Call.pushes, if_pos hclause] at hf
        rw [Fits, if_neg (hkind clause hclause).2.1]
        exact balanced_added hbalanced hc f hf
      · rw [Call.pushes_eq_nil hclause] at hf
        cases hf
  · intro hjson
    rw [kind_call] at hjson
    obtain ⟨b, hb⟩ := hq.json hjson
    have hassignments := fragments_call q c .assignments
    rw [Call.pushes_eq_nil fun h => (hkind _ h).2.2 hjson, List.append_nil] at hassignments
    exact ⟨b, hassignments.trans hb⟩

/-- **Calls that fit keep a query in step.** -/
theorem InStep.calls {cs : List Call} : ∀ {q : Query}, q.InStep →
    (∀ c ∈ cs, q.kind.Takes c ∧ c.Balanced ∧ c.failure? = none) → (q.calls cs).InStep := by
  induction cs with
  | nil => exact fun hq _ => hq
  | cons c cs ih =>
    intro q hq hcs
    obtain ⟨⟨htakes, hbalanced, hc⟩, hcs⟩ := List.forall_mem_cons.mp hcs
    exact ih (hq.call htakes hbalanced hc) (by simpa using hcs)

/-! ## 3. The text -/

/-- How a fragment stands in the text: a column of an INSERT is listed apart from its value. -/
def slot (q : Query) (f : Fragment) : Fragment :=
  if q.kind = .insert then ⟨"?", f.bounds⟩ else f

theorem bounds_slot (q : Query) (f : Fragment) : (q.slot f).bounds = f.bounds := by
  rw [slot]
  split <;> rfl

theorem boundsOf_map_slot (q : Query) (fs : List Fragment) :
    Fragment.boundsOf (fs.map q.slot) = Fragment.boundsOf fs := by
  simp [Fragment.boundsOf, List.flatMap_map, bounds_slot]

theorem laid_clause {lead separator : String} (hlead : placeholders lead = 0)
    (hseparator : placeholders separator = 0) {fs : List Fragment} (h : ∀ f ∈ fs, f.Balanced) :
    Laid (clause lead separator (fs.map (·.text))) fs := by
  cases fs with
  | nil => exact .words rfl
  | cons f fs => exact (Laid.words hlead).append (.intercalate hseparator h)

theorem placeholders_clause {lead separator : String} (hlead : placeholders lead = 0)
    (hseparator : placeholders separator = 0) {items : List String}
    (h : ∀ item ∈ items, placeholders item = 0) :
    placeholders (clause lead separator items) = 0 := by
  rw [clause]
  split
  · rfl
  · rw [placeholders_append, hlead, placeholders_intercalate hseparator h]

theorem placeholders_numberClause {lead : String} (hlead : placeholders lead = 0) (n : Option Nat) :
    placeholders (numberClause lead n) = 0 := by
  cases n with
  | none => rfl
  | some n => simp [numberClause, hlead]

theorem placeholders_usingClause (q : Query) : placeholders q.usingClause = 0 := by
  refine placeholders_clause rfl rfl fun item hitem => ?_
  have httl : placeholders "TTL " = 0 := rfl
  have htimestamp : placeholders "TIMESTAMP " = 0 := rfl
  simp only [List.mem_append, Option.mem_toList, Option.map_eq_some_iff] at hitem
  rcases hitem with ⟨n, -, rfl⟩ | ⟨n, -, rfl⟩
  · simp [httl]
  · simp [htimestamp]

theorem placeholders_filteringClause (q : Query) : placeholders q.filteringClause = 0 := by
  rw [filteringClause]
  split <;> rfl

theorem placeholders_ifNotExistsClause (q : Query) : placeholders q.ifNotExistsClause = 0 := by
  rw [ifNotExistsClause]
  split <;> rfl

theorem InStep.balanced {q : Query} (h : q.InStep) (hkind : q.kind ≠ .insert) (clause : Clause) :
    ∀ f ∈ q.fragments clause, f.Balanced := by
  intro f hf
  have hfits := h.fits clause f hf
  rwa [Fits, if_neg hkind] at hfits

theorem laid_whereClause {q : Query} (h : q.InStep) (hkind : q.kind ≠ .insert) :
    Laid q.whereClause q.relations :=
  laid_clause rfl rfl (h.balanced hkind .relations)

theorem laid_ifClause {q : Query} (h : q.InStep) (hkind : q.kind ≠ .insert) :
    Laid q.ifClause (if q.ifExists then [] else q.conditions) := by
  rw [ifClause]
  split
  · exact .words rfl
  · exact laid_clause rfl rfl (h.balanced hkind .conditions)

theorem laid_selectText {q : Query} (h : q.InStep) (hkind : q.kind ≠ .insert) {lead : String}
    (hlead : placeholders lead = 0) : Laid (q.selectText lead) (q.projection ++ q.relations) := by
  have hprojection : Laid (Fragment.join ", " q.projection) q.projection :=
    .intercalate rfl (h.balanced hkind .projection)
  have hfront : Laid (lead ++ Fragment.join ", " q.projection ++ " FROM " ++ q.table)
      q.projection :=
    (((Laid.words hlead).append hprojection).andWords rfl).andWords h.table
  have horder : placeholders (clause " ORDER BY " ", " q.orderBy) = 0 :=
    placeholders_clause rfl rfl h.orderBy
  have hback := (hfront.append (laid_whereClause h hkind)).andWords horder
  exact ((hback.andWords (placeholders_numberClause rfl _)).andWords
    (placeholders_numberClause rfl _)).andWords (placeholders_filteringClause q)

/-- The placeholders of an INSERT stand in a list beside the columns. -/
theorem laid_insert {q : Query} (h : q.InStep) (hkind : q.kind = .insert) :
    Laid q.text (q.assignments.map q.slot) := by
  have hfits : ∀ f ∈ q.assignments, placeholders f.text = 0 ∧ f.bounds.length = 1 := by
    intro f hf
    have hfits := h.fits .assignments f hf
    rwa [Fits, if_pos hkind] at hfits
  have hcolumns : placeholders (Fragment.join ", " q.assignments) = 0 :=
    placeholders_intercalate rfl fun name hname => by
      obtain ⟨f, hf, rfl⟩ := List.mem_map.mp hname
      exact (hfits f hf).1
  have hslots : Laid (", ".intercalate (q.assignments.map fun _ => "?"))
      (q.assignments.map q.slot) := by
    have hmarks : (q.assignments.map fun _ => "?") = (q.assignments.map q.slot).map (·.text) := by
      rw [List.map_map]
      exact List.map_congr_left fun f _ => by rw [Function.comp_apply, slot, if_pos hkind]
    rw [hmarks]
    refine .intercalate rfl fun f hf => ?_
    obtain ⟨f', hf', rfl⟩ := List.mem_map.mp hf
    have hmark : placeholders "?" = 1 := by decide
    rw [slot, if_pos hkind, Fragment.Balanced, (hfits f' hf').2, hmark]
  have hfront : placeholders
      ("INSERT INTO " ++ q.table ++ " (" ++ Fragment.join ", " q.assignments ++ ") VALUES (") =
        0 := by
    simp only [placeholders_append, h.table, hcolumns]
    exact rfl
  have hlist := (Laid.words hfront).append hslots
  have hclosed := (hlist.andWords (t := ")") rfl).andWords (placeholders_ifNotExistsClause q)
  rw [text, hkind]
  exact hclosed.andWords (placeholders_usingClause q)

theorem laid_insertJson {q : Query} (h : q.InStep) (hkind : q.kind = .insertJson) :
    Laid q.text q.assignments := by
  obtain ⟨b, hb⟩ := h.json hkind
  have hfront : placeholders ("INSERT INTO " ++ q.table ++ " ") = 0 := by
    simp only [placeholders_append, h.table]
    exact rfl
  have hmark : placeholders "JSON ?" = 1 := by decide
  have hjson : Laid "JSON ?" [⟨"JSON ?", [b]⟩] := .fragment (f := ⟨"JSON ?", [b]⟩) hmark
  have htext : q.text = "INSERT INTO " ++ q.table ++ " " ++ "JSON ?" ++ q.ifNotExistsClause
      ++ q.usingClause := by
    rw [text, hkind]
    simp [String.append_assoc]
  rw [htext, hb]
  exact (((Laid.words hfront).append hjson).andWords (placeholders_ifNotExistsClause q)).andWords
    (placeholders_usingClause q)

theorem laid_update {q : Query} (h : q.InStep) (hkind : q.kind = .update) :
    Laid q.text (q.assignments ++ q.relations ++ if q.ifExists then [] else q.conditions) := by
  have hinsert : q.kind ≠ .insert := by
    rw [hkind]
    decide
  have hfront : placeholders ("UPDATE " ++ q.table ++ q.usingClause ++ " SET ") = 0 := by
    simp only [placeholders_append, h.table, placeholders_usingClause]
    exact rfl
  have hassignments : Laid (Fragment.join ", " q.assignments) q.assignments :=
    .intercalate rfl (h.balanced hinsert .assignments)
  rw [text, hkind]
  exact (((Laid.words hfront).append hassignments).append (laid_whereClause h hinsert)).append
    (laid_ifClause h hinsert)

theorem laid_delete {q : Query} (h : q.InStep) (hkind : q.kind = .delete) :
    Laid q.text (q.projection ++ q.relations ++ if q.ifExists then [] else q.conditions) := by
  have hinsert : q.kind ≠ .insert := by
    rw [hkind]
    decide
  have hwords : placeholders "DELETE" = 0 := rfl
  have hcolumns : Laid (clause " " ", " (q.projection.map (·.text))) q.projection :=
    laid_clause rfl rfl (h.balanced hinsert .projection)
  have hfront := ((((Laid.words hwords).append hcolumns).andWords (t := " FROM ") rfl).andWords
    h.table).andWords (placeholders_usingClause q)
  rw [text, hkind]
  exact (hfront.append (laid_whereClause h hinsert)).append (laid_ifClause h hinsert)

/-- An INSERT binds the values of its columns alone. -/
theorem boundFragments_insert {q : Query} (h : q.InStep) (hkind : q.kind.clauses = [.assignments]) :
    q.boundFragments = q.assignments := by
  have hempty := h.filled
  rw [hkind] at hempty
  have hprojection : q.projection = [] := hempty .projection (by decide)
  have hrelations : q.relations = [] := hempty .relations (by decide)
  have hconditions : q.conditions = [] := hempty .conditions (by decide)
  simp [boundFragments, hprojection, hrelations, hconditions]

/-- **A query in step is laid out from the fragments whose values it binds, in their order.** -/
theorem InStep.laid {q : Query} (h : q.InStep) : Laid q.text (q.boundFragments.map q.slot) := by
  have hslots : q.kind ≠ .insert → q.boundFragments.map q.slot = q.boundFragments := by
    intro hinsert
    have hslot : q.slot = id := funext fun f => if_neg hinsert
    rw [hslot, List.map_id]
  have hempty := h.filled
  cases hkind : q.kind with
  | select | selectJson =>
    rw [hkind] at hempty hslots
    have hassignments : q.assignments = [] := hempty .assignments (by decide)
    have hconditions : q.conditions = [] := hempty .conditions (by decide)
    have hfragments : q.boundFragments = q.projection ++ q.relations := by
      simp [boundFragments, hassignments, hconditions]
    rw [hslots (by decide), hfragments, text, hkind]
    exact laid_selectText h (by simp [hkind]) rfl
  | insert =>
    rw [boundFragments_insert h (by rw [hkind]; decide)]
    exact laid_insert h hkind
  | insertJson =>
    rw [hslots (by rw [hkind]; decide), boundFragments_insert h (by rw [hkind]; decide)]
    exact laid_insertJson h hkind
  | update =>
    rw [hkind] at hempty hslots
    have hprojection : q.projection = [] := hempty .projection (by decide)
    rw [hslots (by decide), boundFragments, hprojection, List.nil_append]
    exact laid_update h hkind
  | delete =>
    rw [hkind] at hempty hslots
    have hassignments : q.assignments = [] := hempty .assignments (by decide)
    rw [hslots (by decide), boundFragments, hassignments, List.append_nil]
    exact laid_delete h hkind

/-! ## 4. Values in their places -/

/-- The fragments that a beginning and calls give a statement, clause by clause; IF EXISTS takes
the place of conditions. -/
def given (q : Query) (cs : List Call) : List Fragment :=
  let gathered (clause : Clause) := q.fragments clause ++ cs.flatMap (·.pushes clause)
  gathered .projection ++ gathered .assignments ++ gathered .relations
    ++ if q.ifExists || cs.any (· matches .ifExists) then [] else gathered .conditions

theorem boundFragments_calls (q : Query) (cs : List Call) :
    (q.calls cs).boundFragments = q.given cs := by
  simp only [boundFragments, ifExists_calls, given, ← fragments_calls]
  rfl

/-- A value stands in one of the fragments, behind those of the fragments before. -/
theorem getElem?_boundsOf {fs : List Fragment} {i : Nat} {b : Bound}
    (h : (Fragment.boundsOf fs)[i]? = some b) :
    ∃ gs f hs k, fs = gs ++ f :: hs ∧ i = (Fragment.boundsOf gs).length + k
      ∧ f.bounds[k]? = some b := by
  induction fs generalizing i with
  | nil => simp [Fragment.boundsOf] at h
  | cons f fs ih =>
    rw [Fragment.boundsOf, List.flatMap_cons] at h
    by_cases hi : i < f.bounds.length
    · rw [List.getElem?_append_left hi] at h
      exact ⟨[], f, fs, i, rfl, by simp [Fragment.boundsOf], h⟩
    · rw [List.getElem?_append_right (by omega)] at h
      obtain ⟨gs, f', hs, k, rfl, hk, hb⟩ := ih h
      refine ⟨f :: gs, f', hs, k, rfl, ?_, hb⟩
      simp only [Fragment.boundsOf, List.flatMap_cons, List.length_append] at hk ⊢
      omega

theorem statement_eq_ok_iff {q : Query} {st : Statement} :
    q.statement = .ok st ↔ q.failure = none ∧ q.render = st := by
  rw [statement]
  cases q.failure <;> simp

/-- Each column of an INSERT has one value. -/
theorem length_bounds_of_insert {q : Query} (h : q.InStep) (hkind : q.kind = .insert)
    {f : Fragment} (hf : f ∈ q.boundFragments) : f.bounds.length = 1 := by
  have hclause : ∃ clause, f ∈ q.fragments clause := by
    simp only [boundFragments, List.mem_append] at hf
    rcases hf with ((hf | hf) | hf) | hf
    · exact ⟨.projection, hf⟩
    · exact ⟨.assignments, hf⟩
    · exact ⟨.relations, hf⟩
    · refine ⟨.conditions, ?_⟩
      split at hf
      · cases hf
      · exact hf
  obtain ⟨clause, hf⟩ := hclause
  have hfits := h.fits clause f hf
  rw [Fits, if_pos hkind] at hfits
  exact hfits.2

theorem length_boundsOf_of_single : ∀ {fs : List Fragment}, (∀ f ∈ fs, f.bounds.length = 1) →
    (Fragment.boundsOf fs).length = fs.length
  | [], _ => rfl
  | f :: fs, h => by
    obtain ⟨hf, hfs⟩ := List.forall_mem_cons.mp h
    have ih := length_boundsOf_of_single hfs
    rw [Fragment.boundsOf] at ih
    rw [Fragment.boundsOf, List.flatMap_cons, List.length_append, hf, ih, List.length_cons,
      Nat.add_comm]

/-- **Every value takes the placeholder of the fragment it was given with.**  A statement that
calls lead to holds the values of all that it was given, clause by clause, and as many placeholders;
and a value at a place in their list is one of the values of a fragment, which stands in the text
behind as many placeholders as there are values before it.  The placeholder of an INSERT stands for
the column at its place. -/
theorem values_take_placeholders {q : Query} {cs : List Call} {st : Statement} (hstart : Starts q)
    (hfit : ∀ c ∈ cs, q.kind.Takes c ∧ c.Balanced) (hst : (q.calls cs).statement = .ok st) :
    st.bounds = Fragment.boundsOf (q.given cs)
    ∧ st.placeholderCount = st.bounds.length ∧ st.placeholderCount = st.values.length
    ∧ ∀ i b, st.bounds[i]? = some b → ∃ gs f hs k before after,
      q.given cs = gs ++ f :: hs ∧ f.bounds[k]? = some b
      ∧ i = (Fragment.boundsOf gs).length + k
      ∧ st.cql = before ++ (q.slot f).text ++ after
      ∧ placeholders before = (Fragment.boundsOf gs).length
      ∧ placeholders (q.slot f).text = f.bounds.length
      ∧ (q.kind = .insert → gs.length = i ∧ ∃ rest, st.cql =
        "INSERT INTO " ++ q.table ++ " (" ++ Fragment.join ", " (q.given cs) ++ ") VALUES ("
          ++ rest) := by
  obtain ⟨hfailure, rfl⟩ := statement_eq_ok_iff.mp hst
  have hcalls := (failure_calls_eq_none_iff.mp hfailure).2
  have hstep : (q.calls cs).InStep :=
    (inStep_of_starts hstart).calls fun c hc => ⟨(hfit c hc).1, (hfit c hc).2, hcalls c hc⟩
  have hslot : (q.calls cs).slot = q.slot := by
    funext f
    rw [slot, slot, kind_calls]
  have hgiven := boundFragments_calls q cs
  have hlaid := hstep.laid
  rw [hgiven, hslot] at hlaid
  have hbounds : (q.calls cs).render.bounds = Fragment.boundsOf (q.given cs) := by
    rw [← hgiven]
    rfl
  have hcount : (q.calls cs).render.placeholderCount = (q.calls cs).render.bounds.length := by
    rw [hbounds, ← boundsOf_map_slot q]
    exact hlaid.placeholders_eq
  refine ⟨hbounds, hcount, by rw [hcount, Statement.values, List.length_map], ?_⟩
  intro i b hi
  rw [hbounds] at hi
  obtain ⟨gs, f, hs, k, hsplit, hplace, hb⟩ := getElem?_boundsOf hi
  have hmap : (q.given cs).map q.slot = gs.map q.slot ++ q.slot f :: hs.map q.slot := by
    rw [hsplit, List.map_append, List.map_cons]
  obtain ⟨before, after, htext, hbefore, hbalanced⟩ := hlaid.locate hmap
  rw [boundsOf_map_slot] at hbefore
  rw [Fragment.Balanced, bounds_slot] at hbalanced
  refine ⟨gs, f, hs, k, before, after, hsplit, hb, hplace, htext, hbefore, hbalanced, ?_⟩
  intro hinsert
  have hkind : (q.calls cs).kind = .insert := by rw [kind_calls, hinsert]
  have hsingle : ∀ f ∈ q.given cs, f.bounds.length = 1 := by
    rw [← hgiven]
    exact fun f hf => length_bounds_of_insert hstep hkind hf
  rw [hsplit] at hsingle
  have hk : k = 0 := by
    have hf := hsingle f (by simp)
    have hlt := (List.getElem?_eq_some_iff.mp hb).1
    omega
  have hgs := length_boundsOf_of_single fun f hf => hsingle f (List.mem_append_left _ hf)
  have hassignments : q.given cs = (q.calls cs).assignments := by
    rw [← hgiven, boundFragments_insert hstep (by rw [hkind]; rfl)]
  refine ⟨by omega, ", ".intercalate ((q.calls cs).assignments.map fun _ => "?") ++ ")"
    ++ (q.calls cs).ifNotExistsClause ++ (q.calls cs).usingClause, ?_⟩
  rw [hassignments, ← table_calls q cs, render, Query.text, hkind]
  simp only [String.append_assoc]

/-- Calls on an UPDATE: the condition comes before the relation. -/
def earlyCondition : List Call := [
  .assign "a = ?" ⟨"1", .ok (.int 1)⟩,
  .condition "b = ?" ⟨"2", .ok (.int 2)⟩,
  .relate "c = ?" ⟨"3", .ok (.int 3)⟩]

/-- Calls on a SELECT: the range comes before what is projected. -/
def earlyRange : List Call := [
  .relate "k = ?" ⟨"1", .ok (.int 1)⟩,
  .relateRange 0 "c >= ?" ⟨"2", .ok (.int 2)⟩ "c < ?" ⟨"3", .ok (.int 3)⟩,
  .projectCall ⟨none, "area", [.literal (.int 4), .column "c"]⟩ "a",
  .limit 5]

theorem values_take_placeholders_early :
    (∃ st, ((Query.on .update "t").calls earlyCondition).statement = .ok st
      ∧ st.cql = "UPDATE t SET a = ? WHERE c = ? IF b = ?"
      ∧ st.values = [.int 1, .int 3, .int 2]
      ∧ st.placeholderCount = st.bounds.length)
    ∧ ∃ st, ((Query.selecting false "t" "k").calls earlyRange).statement = .ok st
      ∧ st.cql = "SELECT k, area(?, c) AS a FROM t WHERE k = ? AND c >= ? AND c < ? LIMIT 5"
      ∧ st.values = [.int 4, .int 1, .int 2, .int 3]
      ∧ st.placeholderCount = st.bounds.length := by
  have hone : ∀ text ∈ ["a = ?", "b = ?", "c = ?", "k = ?", "c >= ?", "c < ?"],
      placeholders text = 1 := by decide
  simp only [List.forall_mem_cons] at hone
  obtain ⟨ha, hb, hc, hk, hlower, hupper, -⟩ := hone
  constructor
  · have hstart : Starts (.on .update "t") := .on (by decide) rfl
    have hfit : ∀ c ∈ earlyCondition, (Query.on .update "t").kind.Takes c ∧ c.Balanced := by
      simp [earlyCondition, Query.on, StatementKind.Takes, StatementKind.clauses, Call.clause?,
        Call.Balanced, ha, hb, hc]
    exact ⟨_, rfl, by decide, rfl, (values_take_placeholders hstart hfit rfl).2.1⟩
  · have hstart : Starts (.selecting false "t" "k") := .selecting rfl rfl
    have hcall : placeholders (FunctionCall.text ⟨none, "area",
        [.bound ⟨(Data.int 4).spoken, (Data.int 4).encode⟩, .column "c"]⟩) = 1 := by decide
    have hplain : placeholders "a" = 0 := by decide
    have hfit : ∀ c ∈ earlyRange,
        (Query.selecting false "t" "k").kind.Takes c ∧ c.Balanced := by
      simp [earlyRange, Query.selecting, Query.on, StatementKind.Takes, StatementKind.clauses,
        Call.clause?, Call.Balanced, hk, hlower, hupper, hcall, hplain, FunctionCall.bounds,
        Argument.bound?, Argument.literal]
    exact ⟨_, rfl, by decide, rfl, (values_take_placeholders hstart hfit rfl).2.1⟩

end Query

end WideColumn
