/-
# Generated source

The source for a schema: the structures of its user types and entities, the builders of their
statements, the registry of its functions and the statements that create it.  Nothing is generated
unless the store can serve the schema and every name and type in it can stand in source.
-/
import WideColumn.Builder.Entry
import WideColumn.Builder.Functions
import WideColumn.Builder.Record
import WideColumn.Settings

namespace WideColumn.Builder

open WideColumn.Source

/-- The builder states of an entity. -/
def states (p : Plan) : Except GenerationError (List State) := do
  let selects := selectStates p false
    ++ if p.has .jsonStatements then selectStates p true else []
  if p.entity.isView then return selects
  let updates ← updateStates p
  let indexes ←
    if p.indexed.isEmpty then pure []
    else do
      let records ← indexStates p false
      let json ← if p.has .jsonStatements then indexStates p true else pure []
      pure (records ++ json)
  return selects ++ insertStates p ++ updates ++ deleteStates p ++ indexes

/-- The source of an entity. -/
def entityItems (p : Plan) : Except GenerationError (List Item) := do
  return recordItems p ++ (← states p).flatMap State.items ++ managerItems p

/-- The constant that lists all statements of the schema. -/
def statementsItem (schema : Schema) : Item :=
  .constant "SCHEMA_STATEMENTS" (lay [
    fixedDoc "Every CREATE statement of the schema, dependencies first.",
    "pub const SCHEMA_STATEMENTS : & [& str] = &",
    square [listed (schema.statements.map literal)], ";"])

/-- The source for a schema, on a store of a profile. -/
def items (schema : Schema) (profile : Profile) (emitDdl : Bool) :
    Except GenerationError (List Item) := do
  (schema.checkCapabilities profile).mapError .capability
  let types ← schema.userTypes.flatMapM (userTypeItems schema)
  let entities ← schema.entities.flatMapM fun e => do
    entityItems (← plan schema profile emitDdl e)
  let functions ← functionItems schema
  return types ++ entities ++ functions
    ++ if emitDdl then [statementsItem schema] else []

end WideColumn.Builder

namespace WideColumn

/-- Why no source is generated for declarations. -/
inductive SourceError where
  /-- The text is no schema document. -/
  | document
  | schema (cause : Schema.ErrorTree)
  | generation (cause : Builder.GenerationError)

/-- Generates the source for declarations. -/
def Settings.generate (s : Settings) (d : Declaration) : Except SourceError (List Source.Item) := do
  let schema ← (s.load d).mapError .schema
  (Builder.items schema s.profile s.emitDdl).mapError .generation

/-- Generates the source for a schema document; a profile that is not blank stands in for the one
in the document. -/
def generateSource (text : String) (profile : Option String) :
    Except SourceError (List Source.Item) := do
  let document ←
    match SchemaDocument.read? text with
    | some document => pure document
    | none => .error .document
  match (profile.map Text.trimBlank).filter (!·.isEmpty) with
  | none => document.settings.generate document.declaration
  | some name =>
    match Profile.ofName name with
    | .ok p => (document.settings.onProfile p).generate document.declaration
    | .error e => .error (.generation (.capability e))

end WideColumn
