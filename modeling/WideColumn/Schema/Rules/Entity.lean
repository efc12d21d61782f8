/-
# Rules about entities, user types and functions

What has to hold of each of them on its own: their names, keys, shapes and indexes, the company
of counters, the targets of computed fields, and that every type is known and has a codec.
-/
import WideColumn.Schema.Rules.Indexed
import WideColumn.Schema.Rules.Key
import WideColumn.Schema.Rules.Names
import WideColumn.Schema.Rules.Nesting

namespace WideColumn.Schema

/-- Findings on each field, under its name. -/
def onFields (faults : Field → List Violation) (fields : List Field) : List Finding :=
  fields.flatMap fun f => (faults f).map fun v => (Finding.here v).under f.name

/-! ## Entities -/

/-- What is wrong with a field on its own. -/
def fieldFaults (f : Field) : List Violation :=
  fieldNameFaults f.name ++ columnNameFaults f.column ++ nestingFaults f.shape
    ++ (if f.isKey then keyShapeFaults f.shape else []) ++ indexFaults f

/-- Counters in a key, which none may be. -/
def counterKeyFaults (f : Field) : List Violation :=
  if f.isKey && f.shape.isCounter then [.counterPlacement .key] else []

/-- Fields that a table with counters cannot have. -/
def counterCompanyFaults (e : Entity) : List Violation :=
  if e.hasCounters then
    (e.fields.filter fun f => !f.isKey && !f.role.isComputed && !f.role.isCounter).map fun f =>
      .counterTableMixed f.column
  else []

/-- What keeps a field from being the target of a computed one. -/
def targetFault? (e : Entity) (target : String) : Option TargetFault :=
  match e.field? target with
  | none => some .unknown
  | some f => if f.isKey then some .key else if f.role.isComputed then some .computed else none

/-- What is wrong with the targets of a computed field. -/
def computedFaults (e : Entity) (f : Field) : List Violation :=
  f.computed.toList.flatMap fun c => c.targets.filterMap fun target =>
    (targetFault? e target).map (.computedTarget target)

/-- The user types that a shape names and nobody declared. -/
def unknownTypes (types : List UserType) (s : Shape) : List String :=
  s.udtNames.filter fun name => (userType? types name).isNone

/-- The violation of a shape that no strategy carries. -/
def resolveViolation : ResolveError → Violation
  | .unknownUdt name => .unknownUdt name
  | e => .resolve e

/-- What keeps a field from having a codec. -/
def codecFaults (types : List UserType) (registry : Registry) (f : Field) : List Violation :=
  let isJson := f.shape.udtName?.any fun name => (registry.jsonType? name).isSome
  let unknown := unknownTypes types f.shape
  if !isJson && !unknown.isEmpty then unknown.map .unknownUdt
  else
    match registry.resolve types f with
    | .ok _ => []
    | .error e => [resolveViolation e]

/-- What is wrong with an entity. -/
def entityFindings (types : List UserType) (registry : Registry) (e : Entity) : List Finding :=
  (typeNameFaults e.name ++ tableNameFaults e.table).map .here
    ++ keyFindings e
    ++ (duplicateFaults [] [] e.fields).map .here
    ++ onFields fieldFaults e.fields
    ++ onFields counterKeyFaults e.fields
    ++ (counterCompanyFaults e).map .here
    ++ onFields (computedFaults e) e.fields
    ++ onFields (codecFaults types registry) e.fields

/-! ## User types -/

/-- Whether a user type comes to one of a given name by way of at most `levels` others. -/
def reachesWithin (types : List UserType) (target : String) : Nat → UserType → Bool
  | 0, _ => false
  | levels + 1, u =>
    u.fields.any fun f => f.shape.udtNames.any fun name =>
      name == target || (userType? types name).any (reachesWithin types target levels)

/-- Whether a user type contains itself. -/
def containsItself (types : List UserType) (u : UserType) : Bool :=
  reachesWithin types u.typeName (types.length + 1) u

/-- What is wrong with the types of a user type's field. -/
def typeFieldTypeFaults (types : List UserType) (s : Shape) : List Violation :=
  match unknownTypes types s with
  | [] =>
    match nativeType types s with
    | .ok _ => []
    | .error e => [.resolve e]
  | unknown => unknown.map .unknownUdt

/-- What is wrong with a user type. -/
def userTypeFindings (types : List UserType) (u : UserType) : List Finding :=
  (typeNameFaults u.name).map .here
    ++ (u.fields.flatMap fun f =>
      (fieldNameFaults f.name ++ typeFieldFaults f.shape
        ++ typeFieldTypeFaults types f.shape).map fun v => (Finding.here v).under f.name)
    ++ if containsItself types u then
        [.here (.other ("user type '" ++ u.typeName ++ "' contains itself"))]
      else []

/-! ## Functions -/

/-- Parameter and return types without a built-in type. -/
def functionTypeFaults (types : List UserType) (f : Function) : List Violation :=
  ((f.parameters.map (·.2) ++ [f.returns]).filter fun s =>
    (nativeType types s).toOption.isNone).map fun s => .unknownFunctionType s.text

/-- A signature that an earlier function has. -/
def signatureFaults (seen : List String) (f : Function) : List Violation :=
  if seen.contains f.signature then [.duplicateFunction f.signature] else []

/-- What is wrong with functions, each under its signature; `seen` holds earlier signatures. -/
def functionFindings (types : List UserType) : List String → List Function → List Finding
  | _, [] => []
  | seen, f :: fs =>
    (signatureFaults seen f ++ functionTypeFaults types f).map
        (fun v => (Finding.here v).under f.signature)
      ++ functionFindings types (f.signature :: seen) fs

end WideColumn.Schema
