/-
# Schemas

A schema is a batch of declarations that broke no rule: its entities, user types and functions,
with a codec for every field of every entity.
-/
import WideColumn.Schema.FromDeclaration
import WideColumn.Schema.Rules

namespace WideColumn

/-- An accepted batch. -/
structure Schema where
  entities : List Schema.Entity
  userTypes : List Schema.UserType
  functions : List Schema.Function
  /-- The strategy of each field, by the names of entity and field. -/
  codecs : List ((String × String) × Schema.Strategy)

namespace Schema

/-- The entity of a name. -/
def entity? (s : Schema) (name : String) : Option Entity :=
  s.entities.find? (·.name == name)

/-- The strategy of a field. -/
def codec? (s : Schema) (e : Entity) (f : Field) : Option Strategy :=
  s.codecs.lookup (e.name, f.name)

/-- The type of the stored column of a field. -/
def columnType (s : Schema) (e : Entity) (f : Field) : String :=
  ((s.codec? e f).bind Strategy.storedAs).getD f.shape.text

/-- The strategies of all fields. -/
def resolveAll (registry : Registry) (types : List UserType) (entities : List Entity) :
    Except ResolveError (List ((String × String) × Strategy)) :=
  (entities.flatMap fun e => e.fields.map fun f => (e, f)).mapM fun (e, f) =>
    (registry.resolve types f).map fun s => ((e.name, f.name), s)

/-- The entities that can be examined: a view only if its base could be made. -/
def examined (declared : List Declaration.Entity) (entities : List Entity)
    (defaults : Defaults) (types : List UserType) : List Entity :=
  let unmade := declared.filter fun e =>
    (Entity.ofDeclaration defaults types e).toOption.isNone
  entities.filter fun e => !(e.viewOf.any fun base => unmade.any (·.name == base))

/-- Makes a schema of declarations, or tells all that is wrong with them. -/
def load (d : Declaration) (registry : Registry) (defaults : Defaults) :
    Except ErrorTree Schema :=
  let (typeFaults, types) := collect (·.name)
    (UserType.ofDeclaration defaults d.userTypes) d.userTypes
  let (entityFaults, entities) := collect (·.name) (Entity.ofDeclaration defaults types) d.entities
  let (functionFaults, functions) := collect (·.name)
    (Function.ofDeclaration defaults types) d.functions
  let found := typeFaults ++ entityFaults ++ functionFaults.map (.under "function")
    ++ findings (examined d.entities entities defaults types) types functions registry
  if found.isEmpty then
    match resolveAll registry types entities with
    | .ok codecs => .ok ⟨entities, types, functions, codecs⟩
    | .error e => .error (.ofFindings [.here (.resolve e)])
  else .error (.ofFindings found)

end Schema

end WideColumn
