/-
# From declarations to the model

Names are settled, types are read, and each field gets its role, its codec and its indexes.  All
that is wrong with a declaration is found at once, not only the first thing.
-/
import WideColumn.Schema.ErrorTree

namespace WideColumn.Schema

open WideColumn.Text

/-- What holds for a whole batch unless an entity says otherwise. -/
structure Defaults where
  keyspace : Option String := none
  naming : Naming := .snakeCase

/-- What was found, or what was made if nothing was. -/
abbrev Checked (α : Type) := Except (List Finding) α

/-- The items that could be made, and what was found on the others, under their names. -/
def collect {α β : Type} (name : α → String) (make : α → Checked β) :
    List α → List Finding × List β
  | [] => ([], [])
  | a :: as =>
    let (found, made) := collect name make as
    match make a with
    | .ok b => (found, b :: made)
    | .error fs => (fs.map (.under (name a)) ++ found, made)

/-- All items, if nothing was found on any. -/
def collectAll {α β : Type} (name : α → String) (make : α → Checked β) (as : List α) :
    Checked (List β) :=
  match collect name make as with
  | ([], made) => .ok made
  | (found, _) => .error found

/-! ## User types -/

/-- The name under which a user type is stored. -/
def storedTypeName (u : Declaration.UserType) : String :=
  u.typeName.getD (snakeCase u.name)

/-- The names of declared user types. -/
def declaredTypeNames (us : List Declaration.UserType) : TypeNames :=
  us.map fun u => (u.name, storedTypeName u)

/-- The names of user types. -/
def typeNames (us : List UserType) : TypeNames :=
  us.map fun u => (u.name, u.typeName)

/-- A shape without index markers. -/
def unmarkedShape (names : TypeNames) (type : String) : Except Violation Shape := do
  let e ← (TypeExpr.parse type).mapError .typeParse
  match e.toShape names with
  | (shape, []) => .ok shape
  | _ => .error (.other "user type fields cannot carry index markers")

/-- A field of a user type. -/
def TypeField.ofDeclaration (names : TypeNames) (naming : Naming) (f : Declaration.TypeField) :
    Checked TypeField :=
  match unmarkedShape names f.type with
  | .ok shape => .ok {
      name := f.name, column := f.column.getD (naming.column f.name), shape := shape }
  | .error v => .error [.here v]

/-- A user type; it may refer to all declared ones. -/
def UserType.ofDeclaration (defaults : Defaults) (declared : List Declaration.UserType)
    (u : Declaration.UserType) : Checked UserType := do
  let fields ← collectAll (·.name)
    (TypeField.ofDeclaration (declaredTypeNames declared) defaults.naming) u.fields
  return {
    name := u.name
    typeName := storedTypeName u
    keyspace := u.keyspace <|> defaults.keyspace
    fields := fields }

/-! ## Fields -/

/-- The strategy a field asks for. -/
def declaredStrategy (f : Declaration.Field) : Option Strategy :=
  (f.codec.map fun c => Strategy.explicit c.path c.sourceType)
    <|> (f.enumerated.map fun e => Strategy.enumerated e.sourceType e.encoding)
    <|> f.json.map Strategy.json

/-- More than one strategy asked for. -/
def strategyFaults (f : Declaration.Field) : List Violation :=
  if 1 < [f.codec.isSome, f.enumerated.isSome, f.json.isSome].count true then
    [.conflictingCodecs]
  else []

/-- The type of a field: as written, or what its strategy stores. -/
def declaredType (f : Declaration.Field) : Except Violation TypeExpr :=
  match f.type, declaredStrategy f with
  | some t, _ => (TypeExpr.parse t).mapError .typeParse
  | none, some (.enumerated _ .ordinal) => .ok (.scalar .int)
  | none, some (.enumerated _ .name) | none, some (.json _) => .ok (.scalar .text)
  | none, _ => .error .missingType

/-- The roles a field claims. -/
def claimedRoles (f : Declaration.Field) : List String :=
  [("partition", f.partition.isSome), ("clustering", f.clustering.isSome),
    ("computed", f.computed.isSome), ("static", f.isStatic)].filterMap fun (name, claimed) =>
      if claimed then some name else none

/-- More than one role claimed. -/
def roleFaults (f : Declaration.Field) : List Violation :=
  let claimed := claimedRoles f
  if 1 < claimed.length then [.conflictingRoles claimed] else []

/-- The role of a field: a place in the key before all else, then a computed value. -/
def declaredRole (f : Declaration.Field) (isCounter : Bool) : Role :=
  match f.partition, f.clustering, f.computed with
  | some order, _, _ => .partition order
  | none, some c, _ => .clustering c.order c.ascending
  | none, none, some _ => .computed
  | none, none, none =>
    match f.isStatic, isCounter with
    | true, true => .staticCounter
    | true, false => .static
    | false, true => .counter
    | false, false => .regular

/-- What an index on a shape is about unless the declaration says. -/
def defaultIndexKind (s : Shape) : IndexKind :=
  if s.isCollection then
    if s.frozen then .full else if s.isMap then .mapValue else .collection
  else .normal

/-- The implementation that an index asks for. -/
def declaredImplementation (i : Declaration.Index) : IndexImplementation :=
  match i.implementation with
  | .native => .native
  | .sasi => .sasi (i.sasi.getD {})
  | .dseSearch => .search (i.search.getD {})

/-- A declared index on a shape. -/
def Index.ofDeclaration (s : Shape) (i : Declaration.Index) : Index :=
  let kind := i.kind.getD (defaultIndexKind s)
  { kind := kind
    implementation := declaredImplementation i
    name := i.name
    slot := kind.slot }

/-- The index that a marker asks for. -/
def Index.ofMarker (marker : IndexSlot × IndexKind) : Index :=
  { kind := marker.2, implementation := .native, name := none, slot := marker.1 }

/-- Markers that stand where no index can be. -/
def markerFaults (markers : List Marker) : List Violation :=
  (markers.filter Option.isNone).map fun _ =>
    .other "index marker must sit directly inside a list, set or map"

/-- The column of a field: as written, or the alias of its call, or its name as a column. -/
def declaredColumn (naming : Naming) (f : Declaration.Field) : String :=
  f.column.getD ((f.computed.map (·.aliasName)).getD (naming.column f.name))

/-- A field of an entity. -/
def Field.ofDeclaration (names : TypeNames) (naming : Naming) (f : Declaration.Field) :
    Checked Field :=
  match declaredType f with
  | .error v => .error ((strategyFaults f ++ v :: roleFaults f).map .here)
  | .ok type =>
    let (shape, markers) := type.toShape names
    match strategyFaults f ++ roleFaults f ++ markerFaults markers with
    | [] => .ok {
        name := f.name
        column := declaredColumn naming f
        shape := shape
        role := declaredRole f shape.isCounter
        indexes := (f.index.map (Index.ofDeclaration shape)).toList
          ++ markers.filterMap (·.map Index.ofMarker)
        codec := declaredStrategy f
        computed := f.computed
        optional := f.optional }
    | faults => .error (faults.map .here)

/-! ## Entities and functions -/

/-- Whether there is a clustering column and, beside the key, counters and nothing else stored. -/
def isClusteredCounter (fields : List Field) : Bool :=
  let payload := fields.filter fun f => !f.isKey && !f.role.isComputed
  fields.any (·.role.isClustering) && !payload.isEmpty && payload.all (·.role.isCounter)

/-- An entity; it may refer to the given user types. -/
def Entity.ofDeclaration (defaults : Defaults) (types : List UserType)
    (e : Declaration.Entity) : Checked Entity := do
  let naming := e.naming.getD defaults.naming
  let fields ← collectAll (·.name) (Field.ofDeclaration (typeNames types) naming) e.fields
  return {
    name := e.name
    table := e.table.getD (snakeCase e.name)
    keyspace := e.keyspace <|> defaults.keyspace
    fields := fields
    viewOf := e.viewOf
    naming := naming
    clusteredCounter := isClusteredCounter fields }

/-- The shape of a function's type; index markers mean nothing there. -/
def plainShape (names : TypeNames) (type : String) : Checked Shape :=
  match TypeExpr.parse type with
  | .ok e => .ok (e.toShape names).1
  | .error e => .error [.here (.typeParse e)]

/-- A function; it may refer to the given user types. -/
def Function.ofDeclaration (defaults : Defaults) (types : List UserType)
    (f : Declaration.Function) : Checked Function :=
  let names := typeNames types
  let (found, parameters) := collect (·.name)
    (fun p : Declaration.Parameter => (plainShape names p.type).map fun s => (p.name, s))
    f.parameters
  match found, plainShape names f.returns with
  | [], .ok returns => .ok {
      keyspace := f.keyspace <|> defaults.keyspace
      name := f.name
      parameters := parameters
      returns := returns
      deterministic := f.deterministic }
  | found, .ok _ => .error found
  | found, .error fs => .error (found ++ fs.map (.under "returns"))

end WideColumn.Schema
