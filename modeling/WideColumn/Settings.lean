/-
# Settings and schema documents

A schema document holds a batch of declarations and, in a table of its own, the settings under
which source is generated for it.
-/
import WideColumn.Declaration.Form
import WideColumn.Document.Toml
import WideColumn.Schema.Capabilities

namespace WideColumn

open WideColumn.Document

/-- How source is generated. -/
structure Settings where
  profile : Profile := .cassandra30
  keyspace : Option String := none
  naming : Naming := .snakeCase
  /-- Whether the statements that create the schema are generated as well. -/
  emitDdl : Bool := true
  /-- Application types that may be kept as JSON text, by the name they are written under. -/
  jsonTypes : List (String × String) := []

namespace Settings

/-- Texts by name, in increasing order of names; a moment is a text under a name of its own. -/
def texts? : Document → Option (List (String × String))
  | .moment s => some [(Moment.key, s)]
  | d => do
    let es ← d.entries?
    let texts ← es.mapM fun e => (text? e.2).map fun s => (e.1, s)
    return texts.mergeSort fun a b => a.1 ≤ b.1

/-- Reads settings; fields it does not know are refused. -/
def read? (r : Reading) (d : Document) : Option Settings := do
  let f ← d.record? r ["profile", "keyspace", "naming", "emit_ddl", "json_types"] true
  return {
    profile := ← f.orElse "profile" (oneOf? r Profile.chain Profile.name) .cassandra30
    keyspace := ← f.optional "keyspace" text?
    naming := ← f.orElse "naming" (oneOf? r Naming.all Naming.name) .snakeCase
    emitDdl := ← f.orElse "emit_ddl" boolean? true
    jsonTypes := ← f.orElse "json_types" texts? [] }

/-- What the settings leave for entities to override. -/
def defaults (s : Settings) : Schema.Defaults := ⟨s.keyspace, s.naming⟩

/-- The registered application types. -/
def registry (s : Settings) : Schema.Registry := .ofTypes s.jsonTypes

/-- The same settings for another profile. -/
def onProfile (s : Settings) (p : Profile) : Settings := { s with profile := p }

/-- Makes a schema of declarations under these settings. -/
def load (s : Settings) (d : Declaration) : Except Schema.ErrorTree Schema :=
  Schema.load d s.registry s.defaults

end Settings

/-- A schema document. -/
structure SchemaDocument where
  settings : Settings
  declaration : Declaration

namespace SchemaDocument

/-- Reads a schema document from its tree.  Outside the settings no piece may be malformed, even
where it is passed over. -/
def ofDocument? (d : Document) : Option SchemaDocument := do
  let es ← d.entries?
  let settings ← Found.orElse es "generator" (Settings.read? .lenient) {}
  let declaration ← Declaration.read? .withEmptyTables d
  if entriesAreSound (es.filter (·.1 != "generator")) then return ⟨settings, declaration⟩
  else none

/-- Reads a schema document from its text. -/
def read? (source : String) : Option SchemaDocument :=
  (Toml.read? source).bind ofDocument?

end SchemaDocument

end WideColumn
