/-
# Components of a compound key

A range is told by two rows of key components.  All that range resolution asks of a component is
whether it is absent, whether two are the same, and how two are ordered, if they are at all.
-/
import WideColumn.Value.Order

namespace WideColumn.Key

/-- What range resolution asks of a key component. -/
class Component (α : Type) where
  /-- Whether the component is left open. -/
  absent : α → Bool
  /-- Whether two components fix their column to one value. -/
  same : α → α → Bool
  /-- The order of two components, where they have one. -/
  order? : α → α → Option Ordering

/-- A value at run time, `none` where it is left open; a null is left open as well. -/
instance : Component (Option Value) where
  absent
    | none => true
    | some v => v.isNull
  same
    | some a, some b => a.equals b
    | _, _ => false
  order?
    | some a, some b => a.compare? b
    | _, _ => none

end WideColumn.Key
