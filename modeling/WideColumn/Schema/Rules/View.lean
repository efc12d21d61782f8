/-
# Rules about views

A view is over a declared table without counters.  It has all of the base's key and at most one
more key column, takes every field as the base has it, keeps the base's collections and user
types, and has neither indexes nor static columns.
-/
import WideColumn.Schema.ErrorTree

namespace WideColumn.Schema

/-- What is wrong with the base of views. -/
def baseFaults (base : Entity) (name : String) : List Violation :=
  (if base.isView then [.viewBaseInvalid name .view] else [])
    ++ if base.hasCounters then [.viewBaseInvalid name .counters] else []

/-- Whether the base has a field of the same name, column and type. -/
def matchesBase (base : Entity) (f : Field) : Bool :=
  (base.field? f.name).any fun b => b.column == f.column && b.shape.sameType f.shape

/-- What is wrong with a field of a view. -/
def viewFieldFaults (base : Entity) (f : Field) : List Violation :=
  (if f.indexes.isEmpty then [] else [.viewIndexed])
    ++ (if f.role.isStatic then [.viewStatic] else [])
    ++ if f.role.isComputed || matchesBase base f then [] else [.viewFieldMismatch]

/-- Whether an entity has a key field of a name. -/
def hasKey (e : Entity) (name : String) : Bool :=
  (e.field? name).any (·.isKey)

/-- What a view lacks of its base. -/
def missingFaults (view base : Entity) : List Violation :=
  ((base.fields.filter fun f => f.isKey && !hasKey view f.name).map fun f =>
      .viewMissingBaseKey f.column)
    ++ (base.fields.filter fun f =>
        (f.shape.isCollection || f.shape.isUdt) && (view.field? f.name).isNone).map fun f =>
          .viewMissingBaseComposite f.column

/-- Key columns of a view beyond the first that the base does not key on. -/
def extraKeyFaults (view base : Entity) : List Violation :=
  let extra := view.fields.filter fun f => f.isKey && !hasKey base f.name
  if 1 < extra.length then [.viewExtraKeys (extra.map (·.column))] else []

/-- What is wrong with an entity as a view of a base; `none` where there is no such base. -/
def viewFindings (view : Entity) (base : Option Entity) : List Finding :=
  match view.viewOf, base with
  | none, _ => []
  | some name, none => [.here (.viewBaseMissing name)]
  | some name, some base =>
    (baseFaults base name ++ missingFaults view base ++ extraKeyFaults view base).map .here
      ++ view.fields.flatMap fun f =>
        (viewFieldFaults base f).map fun v => (Finding.here v).under f.name

end WideColumn.Schema
