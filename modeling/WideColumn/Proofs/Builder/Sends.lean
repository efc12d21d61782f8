/-
# Chains that are sent off

A chain that ends where a method sends the query off has a row of ACTIONS, and these settle the
texts that the query has gathered: what a method is called with decides only the values.  So what
chains may gather is a matter of rows of actions (`Sends`), and of what each action adds.

Where every name belongs to one state, such a row is read off state by state: either the state
sends the query off, or one of its methods leads on (`Sends.cases_of_nodup`).  A state in which
methods stay is left once or never (`Sends.leave`).
-/
import Mathlib.Data.List.Nodup
import WideColumn.Proofs.Builder.Chain

namespace WideColumn

/-- The texts of the relations that a query has gathered. -/
def Query.relationTexts (q : Query) : List String := q.relations.map (·.text)

namespace Builder

/-! ## 1. What an action adds -/

namespace Action

/-- The clause that an action adds to. -/
def clause? : Action → Option Query.Clause
  | projectFunction => some .projection
  | relate .. | relateAll .. | relateJson _ | relateRange .. | relateIndex .. | relateLike ..
  | relateEntry .. | relateSearch _ => some .relations
  | assign .. | assignLiteral _ | assignItem .. => some .assignments
  | condition .. => some .conditions
  | allowFiltering | set _ => none

/-- The texts of the relations that an action adds. -/
def relations : Action → List String
  | relate text _ | relateAll text _ | relateJson text | relateIndex text .. | relateLike text ..
  | relateEntry text .. => [text]
  | relateRange _ lower upper _ _ => [lower, upper]
  | relateSearch _ => ["solr_query = ?"]
  | _ => []

/-- An action adds relations to no other clause. -/
theorem relations_eq_nil {a : Action} (h : a.clause? ≠ some .relations) : a.relations = [] := by
  cases a <;> first | rfl | exact absurd rfl h

/-- The body of an action adds to the clause of the action. -/
theorem clause?_body (a : Action) : a.body.method.clause? = a.clause? := by
  cases a with
  | set s => cases s <;> rfl
  | _ => rfl

/-- What the body of an action relates has the action's texts, whatever the parameters have. -/
theorem relations_body {V : Vocabulary} {known : List (String × Datum V)} {a : Action}
    {arguments : List (List (Datum V))}
    (h : a.body.arguments.mapM (fun ts => ts.mapM (Term.datum? V known)) = some arguments) :
    a.body.method.relations arguments = a.relations := by
  cases a with
  | relate | relateAll | relateJson | relateIndex | relateLike | relateEntry | relateSearch =>
    obtain ⟨_, rfl⟩ := exists_of_mapM_quoted h
    rfl
  | relateRange position lower upper low high =>
    simp only [body, List.mapM_cons, List.mapM_nil, Term.datum?_place, Term.datum?_owned,
      Option.pure_def, Option.bind_eq_bind, Option.bind_some, Option.bind_eq_some_iff,
      Option.some.injEq] at h
    grind [QueryMethod.relations, body, relations]
  | set s => cases s <;> rfl
  | _ => rfl

/-- One action asks for the row to exist. -/
theorem eq_ifExists_of_body {a : Action} (h : a.body.method = .ifExists) : a = .set .ifExists := by
  cases a with
  | set s => cases s <;> first | rfl | cases h
  | _ => cases h

end Action

variable {V : Vocabulary} {q : Query} {a : Action} {c : Query.Call} {actions : List Action}
  {calls : List Query.Call}

/-- What a call of an action adds, whatever the action was given. -/
structure Adds (a : Action) (c : Query.Call) : Prop where
  clause : c.clause? = a.clause?
  texts : (c.pushes .relations).map (·.text) = a.relations
  assigned : a.clause? = some .assignments → c.pushes .assignments ≠ []
  rowExists : c = .ifExists → a = .set .ifExists

/-- **The action alone settles what its calls add.** -/
theorem adds_of_makes (h : Makes V a c) : Adds a c := by
  obtain ⟨given, hcall⟩ := h
  obtain ⟨known, arguments, harguments, hmethod⟩ := Action.exists_of_call? hcall
  obtain ⟨hclause, htexts, hassigned, hexists⟩ := QueryMethod.adds_of_call? hmethod
  rw [Action.clause?_body] at hclause hassigned
  exact ⟨hclause, htexts.trans (Action.relations_body harguments), hassigned,
    fun hc => Action.eq_ifExists_of_body (hexists hc)⟩

theorem relationTexts_call (h : Adds a c) :
    (q.call c).relationTexts = q.relationTexts ++ a.relations := by
  rw [Query.relationTexts, show (q.call c).relations = _ from Query.fragments_call q c .relations,
    List.map_append, h.texts]
  rfl

theorem assignments_call (h : Adds a c)
    (hsome : q.assignments ≠ [] ∨ a.clause? = some .assignments) :
    (q.call c).assignments ≠ [] := by
  rw [show (q.call c).assignments = _ from Query.fragments_call q c .assignments]
  rcases hsome with hsome | hclause
  · exact List.append_ne_nil_of_left_ne_nil hsome _
  · exact List.append_ne_nil_of_right_ne_nil _ (h.assigned hclause)

theorem conditions_call (h : Adds a c) (hclause : a.clause? ≠ some .conditions) :
    (q.call c).conditions = q.conditions := by
  rw [show (q.call c).conditions = _ from Query.fragments_call q c .conditions, Query.Call.pushes,
    h.clause, if_neg hclause, List.append_nil]
  rfl

theorem ifExists_call (h : Adds a c) (hne : a ≠ .set .ifExists) :
    (q.call c).ifExists = q.ifExists := by
  rw [Query.ifExists_call]
  cases c with
  | ifExists => exact absurd (h.rowExists rfl) hne
  | _ => exact Bool.or_false _

/-- The texts of relations are those of the actions. -/
theorem relationTexts_calls (h : List.Forall₂ (Makes V) actions calls) :
    (q.calls calls).relationTexts = q.relationTexts ++ actions.flatMap Action.relations := by
  induction h generalizing q with
  | nil => simp
  | cons hmakes _ ih =>
    rw [Query.calls_cons, ih, relationTexts_call (adds_of_makes hmakes), List.flatMap_cons,
      List.append_assoc]

/-- An assignment among the actions is one of the query. -/
theorem assignments_calls (h : List.Forall₂ (Makes V) actions calls)
    (hsome : q.assignments ≠ [] ∨ ∃ a ∈ actions, a.clause? = some .assignments) :
    (q.calls calls).assignments ≠ [] := by
  induction h generalizing q with
  | nil => simpa using hsome
  | cons hmakes _ ih =>
    rw [List.exists_mem_cons_iff, ← or_assoc] at hsome
    exact ih (hsome.imp_left (assignments_call (adds_of_makes hmakes)))

/-- Actions without conditions leave the conditions as they were. -/
theorem conditions_calls (h : List.Forall₂ (Makes V) actions calls)
    (hnone : ∀ a ∈ actions, a.clause? ≠ some .conditions) :
    (q.calls calls).conditions = q.conditions := by
  induction h generalizing q with
  | nil => rfl
  | cons hmakes _ ih =>
    obtain ⟨hfirst, hrest⟩ := List.forall_mem_cons.mp hnone
    rw [Query.calls_cons, ih hrest, conditions_call (adds_of_makes hmakes) hfirst]

/-- Only one action makes a query ask for the row to exist. -/
theorem ifExists_calls (h : List.Forall₂ (Makes V) actions calls)
    (hnone : ∀ a ∈ actions, a ≠ .set .ifExists) : (q.calls calls).ifExists = q.ifExists := by
  induction h generalizing q with
  | nil => rfl
  | cons hmakes _ ih =>
    obtain ⟨hfirst, hrest⟩ := List.forall_mem_cons.mp hnone
    rw [Query.calls_cons, ih hrest, ifExists_call (adds_of_makes hmakes) hfirst]

/-! ## 2. Rows of actions -/

/-- Whether a method of the state sends the query off. -/
def State.Finishes (s : State) : Prop := ∃ method ∈ s.methods, ∃ t, method.act = .finish t

/-- One method of the state, with its action and the state that it leads to. -/
def State.Leads (s : State) (a : Action) (target : String) : Prop :=
  ∃ method ∈ s.methods, ∃ name next, method.act = .change name a next
    ∧ method.target? s.name = some target

/-- The actions of methods called one after another, up to a state that sends the query off. -/
inductive Sends (states : List State) : String → List Action → Prop
  | done {s : State} (known : s ∈ states) (finishes : s.Finishes) : Sends states s.name []
  | step {s : State} {a : Action} {target : String} {rest : List Action} (known : s ∈ states)
      (leads : s.Leads a target) (onward : Sends states target rest) :
      Sends states s.name (a :: rest)

variable {states : List State} {s last : State}

/-- A chain up to a state that sends the query off makes the calls of such a row. -/
theorem Chain.sends {state : String} {uses : List (Use V)} (hlast : last ∈ states)
    (hfinish : last.Finishes) (h : Chain V states state uses calls last.name) :
    ∃ actions, List.Forall₂ (Makes V) actions calls ∧ Sends states state actions := by
  generalize hname : last.name = name at h
  induction h with
  | nil => exact ⟨[], .nil, hname ▸ .done hlast hfinish⟩
  | cons known has act leads makes _ ih =>
    obtain ⟨actions, hmakes, hsends⟩ := ih hname
    exact ⟨_ :: actions, .cons ⟨_, makes⟩ hmakes, .step known ⟨_, has, _, _, act, leads⟩ hsends⟩

namespace Sends

/-- **A row of actions is read off its first state.** -/
theorem cases_of_nodup (hnodup : (states.map (·.name)).Nodup) (hs : s ∈ states)
    (h : Sends states s.name actions) :
    actions = [] ∧ s.Finishes ∨
      ∃ a target rest, actions = a :: rest ∧ s.Leads a target ∧ Sends states target rest := by
  generalize hname : s.name = name at h
  cases h with
  | done known finishes =>
    obtain rfl := List.inj_on_of_nodup_map hnodup hs known hname
    exact Or.inl ⟨rfl, finishes⟩
  | step known leads onward =>
    obtain rfl := List.inj_on_of_nodup_map hnodup hs known hname
    exact Or.inr ⟨_, _, _, rfl, leads, onward⟩

/-- **A state is left once or never.**  Each method of the state either stays, or leads away. -/
theorem leave (Stays : Action → Prop) (Leaves : Action → String → Prop)
    (hnodup : (states.map (·.name)).Nodup) (hs : s ∈ states)
    (hmethods : ∀ a target, s.Leads a target → Stays a ∧ target = s.name ∨ Leaves a target)
    (h : Sends states s.name actions) :
    ∃ stays rest, actions = stays ++ rest ∧ (∀ a ∈ stays, Stays a) ∧
      (rest = [] ∧ s.Finishes ∨
        ∃ a target onward, rest = a :: onward ∧ Leaves a target ∧ Sends states target onward) := by
  induction actions with
  | nil =>
    rcases h.cases_of_nodup hnodup hs with ⟨-, hfinish⟩ | ⟨a, target, rest, heq, -⟩
    · exact ⟨[], [], rfl, by simp, Or.inl ⟨rfl, hfinish⟩⟩
    · cases heq
  | cons a actions ih =>
    rcases h.cases_of_nodup hnodup hs with ⟨heq, -⟩ | ⟨a', target, rest, heq, hleads, honward⟩
    · cases heq
    · cases heq
      rcases hmethods _ _ hleads with ⟨hstays, rfl⟩ | hleaves
      · obtain ⟨stays, rest, rfl, hall, hrest⟩ := ih honward
        exact ⟨a :: stays, rest, rfl, List.forall_mem_cons.mpr ⟨hstays, hall⟩, hrest⟩
      · exact ⟨[], a :: actions, rfl, by simp, Or.inr ⟨a, target, actions, rfl, hleaves, honward⟩⟩

/-- A state in which every method stays is never left. -/
theorem rest (Stays : Action → Prop) (hnodup : (states.map (·.name)).Nodup) (hs : s ∈ states)
    (hmethods : ∀ a target, s.Leads a target → Stays a ∧ target = s.name)
    (h : Sends states s.name actions) : ∀ a ∈ actions, Stays a := by
  obtain ⟨stays, rest, rfl, hall, ⟨rfl, -⟩ | ⟨_, _, _, -, hleaves, -⟩⟩ :=
    h.leave Stays (fun _ _ => False) hnodup hs fun a target h => Or.inl (hmethods a target h)
  · simpa using hall
  · exact hleaves.elim

end Sends

/-! ## 3. Methods of a state -/

/-- **A method that is passed on does what it does in its own state.** -/
theorem leads_of_passedTo (hown : ∀ method ∈ last.methods, method.via = none) {method : Method}
    {state name target : String} {next : Option String}
    (hmem : method ∈ passedTo last.name last.methods) (hact : method.act = .change name a next)
    (htarget : method.target? state = some target) : last.Leads a target := by
  obtain ⟨own, hin, rfl⟩ := List.mem_map.mp hmem
  replace hact : own.act = .change name a next := hact
  refine ⟨own, hin, name, next, hact, ?_⟩
  simp only [Method.target?, hact, hown own hin, Option.getD_some, Option.getD_none] at htarget ⊢
  exact htarget

end Builder

end WideColumn
