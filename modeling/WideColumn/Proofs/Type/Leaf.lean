/-
# The leaves of a type

A type has LEAVES, the scalar types, counters and user types that its names stand for, with
constructors such as `list` around them.  A name has a meaning of its own if it is that of a
constructor, of the counter or of a scalar type, and stands for a user type otherwise
(`ofName?_eq_udt_iff`).  The case of ASCII letters does not count.
-/
import WideColumn.Type.Unwrap

namespace WideColumn

/-- A type that has no parts. -/
inductive Leaf where
  | scalar (s : Scalar)
  | counter
  | udt (name : String)
  deriving DecidableEq

namespace Leaf

/-- What a name in a type stands for; nothing if it is that of a constructor. -/
def ofName? (name : String) : Option Leaf :=
  match Text.lowerAscii name with
  | "counter" => some .counter
  | "list" | "set" | "frozen" | "indexed" | "map" | "tuple" => none
  | _ =>
    match Scalar.ofName? name with
    | some s => some (.scalar s)
    | none => some (.udt name)

/-- A leaf with the stored name of its user type. -/
def stored (names : TypeNames) : Leaf → Leaf
  | scalar s => .scalar s
  | counter => .counter
  | udt name => .udt (names.stored name)

/-- What a name in a type is read as. -/
def read? (names : TypeNames) (name : String) : Option Leaf :=
  (ofName? name).map (stored names)

/-- The word for counters and those for types with parts and for markers. -/
def typeWords : List String := ["counter", "list", "set", "frozen", "indexed", "map", "tuple"]

/-- Whether a name has a meaning of its own in a type; the case of ASCII letters does not count. -/
def isTypeWord (name : String) : Bool :=
  typeWords.contains (Text.lowerAscii name) || (Scalar.ofName? name).isSome

/-- Exactly the names without a meaning of their own stand for user types. -/
theorem ofName?_eq_udt_iff {name n : String} :
    ofName? name = some (.udt n) ↔ isTypeWord name = false ∧ n = name := by
  rw [ofName?, isTypeWord]
  split
  case h_8 =>
    rename_i hcounter hlist hset hfrozen hindexed hmap htuple
    have hother : Text.lowerAscii name ∉ typeWords := by
      simpa [typeWords] using ⟨hcounter, hlist, hset, hfrozen, hindexed, hmap, htuple⟩
    cases hscalar : Scalar.ofName? name with
    | none => simp [hother, eq_comm]
    | some c => simp
  all_goals
    rename_i hword
    simp [hword, typeWords]

/-- A name without a meaning of its own is read as the user type that goes by it. -/
theorem read?_of_not_typeWord {names : TypeNames} {name : String} (h : isTypeWord name = false) :
    read? names name = some (.udt (names.stored name)) := by
  rw [read?, ofName?_eq_udt_iff.mpr ⟨h, rfl⟩]
  rfl

/-- A name with a meaning of its own is never read as a user type. -/
theorem read?_ne_udt {names : TypeNames} {name : String} (h : isTypeWord name = true) (n : String) :
    read? names name ≠ some (.udt n) := by
  intro hread
  rw [read?, Option.map_eq_some_iff] at hread
  obtain ⟨leaf, hleaf, hstored⟩ := hread
  cases leaf with
  | scalar s => cases hstored
  | counter => cases hstored
  | udt name' =>
    rw [ofName?_eq_udt_iff, h] at hleaf
    cases hleaf.1

end Leaf

mutual

/-- The leaves of a type, in the order of its text. -/
def TypeExpr.leaves : TypeExpr → List Leaf
  | .scalar s => [.scalar s]
  | .counter => [.counter]
  | .list e | .set e | .frozen e | .indexed e => e.leaves
  | .map k v => k.leaves ++ v.leaves
  | .tuple es => leavesAll es
  | .udt name => [.udt name]

/-- The leaves of a row of types. -/
def TypeExpr.leavesAll : List TypeExpr → List Leaf
  | [] => []
  | e :: es => e.leaves ++ leavesAll es

end

mutual

/-- The leaves of a shape, in the order of its text. -/
def Shape.leaves : Shape → List Leaf
  | .scalar _ s => [.scalar s]
  | .counter _ => [.counter]
  | .list _ e | .set _ e => e.leaves
  | .map _ k v => k.leaves ++ v.leaves
  | .tuple _ es => leavesAll es
  | .udt _ name => [.udt name]

/-- The leaves of a row of shapes. -/
def Shape.leavesAll : List Shape → List Leaf
  | [] => []
  | s :: ss => s.leaves ++ leavesAll ss

end

end WideColumn
