/-
# Chains of methods

A generated builder is used by calling its methods one after another, each with data for its
parameters.  Such a USE of a method makes a call on the query and leads to a state.

`Chain` is a row of uses, each of a method of the state that the one before leads to, together
with the calls that the bodies of the methods make.
-/
import WideColumn.Builder.Plan
import WideColumn.Proofs.Builder.Meaning

namespace WideColumn.Builder

/-- A method with data for its parameters. -/
structure Use (V : Vocabulary) where
  method : Method
  given : List (Datum V) := []

/-- Methods used one after another from a state, with their calls and the state they lead to. -/
inductive Chain (V : Vocabulary) (states : List State) :
    String → List (Use V) → List Query.Call → String → Prop
  | nil (state : String) : Chain V states state [] [] state
  | cons {s : State} {u : Use V} {name : String} {action : Action} {next : Option String}
      {target last : String} {call : Query.Call} {uses : List (Use V)} {calls : List Query.Call}
      (known : s ∈ states) (has : u.method ∈ s.methods)
      (act : u.method.act = .change name action next)
      (leads : u.method.target? s.name = some target) (makes : action.call? V u.given = some call)
      (rest : Chain V states target uses calls last) :
      Chain V states s.name (u :: uses) (call :: calls) last

namespace Chain

variable {V : Vocabulary} {states : List State} {uses : List (Use V)} {calls : List Query.Call}
  {last : String}

theorem append {middle state : String} {uses' : List (Use V)} {calls' : List Query.Call}
    (h : Chain V states state uses calls middle) (h' : Chain V states middle uses' calls' last) :
    Chain V states state (uses ++ uses') (calls ++ calls') last := by
  induction h with
  | nil => exact h'
  | cons known has act leads makes _ ih => exact .cons known has act leads makes (ih h')

/-- A chain of one method of its own state that goes on in a named one. -/
theorem single {s : State} {name next : String} {action : Action} {given : List (Datum V)}
    {call : Query.Call} (known : s ∈ states) (has : change name action (some next) ∈ s.methods)
    (makes : action.call? V given = some call) :
    Chain V states s.name [⟨change name action (some next), given⟩] [call] next :=
  .cons known has rfl rfl makes (.nil next)

/-- A chain of one method of its own state that stays there. -/
theorem staying {s : State} {name : String} {action : Action} {given : List (Datum V)}
    {call : Query.Call} (known : s ∈ states) (has : change name action none ∈ s.methods)
    (makes : action.call? V given = some call) :
    Chain V states s.name [⟨change name action none, given⟩] [call] s.name :=
  .cons known has rfl rfl makes (.nil s.name)

end Chain

end WideColumn.Builder
