/-
# What is reached from a shape

A scalar is REACHED from a shape if it stands somewhere in it, or somewhere in a field of a user
type that the shape names, or in a user type that such a field names, and so on.

A test on leaves looks at the scalars and at the names of user types.  What passes has parts that
pass (`leavesPass_of_mem_children`), and a shape passes where the scalars that it reaches and the
user types that it names do (`leavesPass_of_reaches`).
-/
import WideColumn.Proofs.Type.Node
import WideColumn.Schema.Resolution

namespace WideColumn.Schema

/-- **A scalar is reached from a shape**, through parts and through the fields of user types. -/
inductive Reaches (types : List UserType) (c : Scalar) : Shape → Prop
  | scalar {p : Place} : Reaches types c (.scalar p c)
  | part {s t : Shape} (ht : t ∈ s.children) (h : Reaches types c t) : Reaches types c s
  | field {p : Place} {u : UserType} {f : TypeField} (hu : u ∈ types) (hf : f ∈ u.fields)
      (h : Reaches types c f.shape) : Reaches types c (.udt p u.typeName)

variable {types : List UserType} {c : Scalar} {u : UserType} {f : TypeField}

section Leaves

variable {scalar : Scalar → Bool} {udt : String → Bool}

mutual

/-- A shape passes where the scalars that it reaches and the user types that it names do. -/
theorem leavesPass_of_reaches (types : List UserType) : ∀ s : Shape,
    (∀ c, Reaches types c s → scalar c = true) → (∀ name ∈ s.udtNames, udt name = true) →
      leavesPass scalar udt s = true
  | .scalar _ c, hscalar, _ => by
    rw [leavesPass]
    exact hscalar c .scalar
  | .counter _, _, _ => by rw [leavesPass]
  | .list _ e, hscalar, hudt | .set _ e, hscalar, hudt => by
    rw [leavesPass]
    exact leavesPass_of_reaches types e (fun c h => hscalar c (.part List.mem_cons_self h)) hudt
  | .map _ k v, hscalar, hudt => by
    rw [Shape.udtNames, List.forall_mem_append] at hudt
    rw [leavesPass, Bool.and_eq_true]
    constructor
    · exact leavesPass_of_reaches types k (fun c h => hscalar c (.part List.mem_cons_self h)) hudt.1
    · exact leavesPass_of_reaches types v
        (fun c h => hscalar c (.part (List.mem_cons_of_mem _ List.mem_cons_self) h)) hudt.2
  | .tuple _ es, hscalar, hudt => by
    rw [leavesPass]
    exact leavesPassAll_of_reaches types es (fun t ht c h => hscalar c (.part ht h)) hudt
  | .udt _ name, _, hudt => by
    rw [leavesPass]
    exact hudt name List.mem_cons_self

theorem leavesPassAll_of_reaches (types : List UserType) : ∀ ss : List Shape,
    (∀ t ∈ ss, ∀ c, Reaches types c t → scalar c = true) →
    (∀ name ∈ Shape.udtNamesAll ss, udt name = true) → leavesPassAll scalar udt ss = true
  | [], _, _ => by rw [leavesPassAll]
  | s :: ss, hscalar, hudt => by
    rw [Shape.udtNamesAll, List.forall_mem_append] at hudt
    rw [List.forall_mem_cons] at hscalar
    rw [leavesPassAll, Bool.and_eq_true]
    exact ⟨leavesPass_of_reaches types s hscalar.1 hudt.1,
      leavesPassAll_of_reaches types ss hscalar.2 hudt.2⟩

end

end Leaves

end WideColumn.Schema
