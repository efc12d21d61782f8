/-
# Records in source

The structure of an entity with its mapping to a table, and the structure of a user type with its
conversion to a value and back.
-/
import WideColumn.Builder.Plan

namespace WideColumn.Builder

open WideColumn.Source

/-! ## Entities -/

/-- The part that a column plays, as the mapping names it. -/
def roleText : Schema.Role → String
  | .partition _ => "Partition"
  | .clustering _ ascending => lay ["Clustering", curly ["ascending :", truth ascending]]
  | .static => "Static"
  | .staticCounter => "StaticCounter"
  | .counter => "Counter"
  | .regular => "Regular"
  | .computed => "Computed"

/-- The mapping of a field to its column. -/
def columnText (p : Plan) (f : PlannedField) : String :=
  lay [core "entity :: ColumnMeta",
    curly ["name :", literal f.column, ", kind :", core "entity :: ColumnKind ::",
      roleText f.model.role, ", cql_type :", literal (p.schema.columnType p.entity f.model),
      ", expression :", literal (p.entity.projection f.model), ","]]

/-- A field of the structure. -/
def fieldText (f : PlannedField) : String :=
  lay ["pub", f.name, ":", if f.isOptional then optionType f.type else f.type]

/-- How a field is read from a row. -/
def readText (f : PlannedField) : String :=
  lay [f.name, ":",
    core (if f.isOptional then "entity :: decode_optional_column ::"
      else "entity :: decode_column ::"),
    angled [f.codec], round ["row ,", literal f.column], "?"]

/-- How a field is written to its column. -/
def writeText (f : PlannedField) : String :=
  let value :=
    if f.isOptional then
      lay [core "codec :: encode_optional_column ::", angled [f.codec],
        round [literal f.column, ", self .", f.name, ". as_ref ()"]]
    else
      lay [core "codec :: encode_column ::", angled [f.codec],
        round [literal f.column, ", & self .", f.name]]
  round [literal f.column, ",", value, "?"]

/-- Whether an insert writes a field. -/
def isInserted (f : PlannedField) : Bool :=
  !f.model.role.isComputed && !f.model.role.isCounter

/-- The structure of an entity and its mapping. -/
def recordItems (p : Plan) : List Item :=
  [.structure p.name (lay [derives ["Clone", "Debug", "PartialEq"], "pub struct", p.name,
      curly [closed (p.fields.map fieldText)]]),
    .conformance p.name (lay ["impl", core "entity :: Entity for", p.name, curly [
      "const KEYSPACE :", optionType "& 'static str", "=", optionalText p.entity.keyspace,
      "; const TABLE : & 'static str =", literal p.entity.table,
      "; const COLUMNS : & 'static", square [core "entity :: ColumnMeta"], "= &",
      square [closed (p.fields.map (columnText p))],
      "; fn from_row", round ["row : &", core "executor :: Row ,"], "->", resultType "Self",
      curly [std "result :: Result :: Ok",
        round ["Self", curly [closed (p.fields.map readText)]]],
      "fn encode_columns (& self ,) ->", std "result :: Result",
      angled [vecType (round ["& 'static str ,", core "value :: Value"]), ",", core "Error ,"],
      curly [std "result :: Result :: Ok", round [std "vec !",
        square [closed ((p.fields.filter isInserted).map writeText)]]]]])]

/-! ## User types -/

/-- A field of a user type with its type in source. -/
def typeField (schema : Schema) (f : Schema.TypeField) :
    Except GenerationError (Schema.TypeField × String) := do
  let ident ← name f.name
  let type ← builtInType schema.userTypes f.shape
  return ({ f with name := ident }, type)

/-- The structure of a user type and its conversion. -/
def userTypeItems (schema : Schema) (u : Schema.UserType) :
    Except GenerationError (List Item) := do
  let ident ← name u.name
  let fields ← u.fields.mapM (typeField schema)
  let isOrdered := u.fields.all fun f => Schema.isOrderable schema.userTypes f.shape
  let traits :=
    if isOrdered then ["Clone", "Debug", "Eq", "Ord", "PartialEq", "PartialOrd"]
    else ["Clone", "Debug", "PartialEq"]
  let declared := fields.map fun (f, type) => lay ["pub", f.name, ":", type]
  let written := fields.map fun (f, _) =>
    round [literal f.column, ". to_string () ,", core "traits :: ColumnValue :: to_value",
      round ["& self .", f.name], ","]
  let read := fields.map fun (f, _) =>
    lay [f.name, ":", core "traits :: udt_field", round ["value ,", literal f.column], "?"]
  return [
    .structure ident (lay [derives traits, "pub struct", ident, curly [closed declared]]),
    .conformance ident (lay ["impl", core "traits :: ColumnValue for", ident, curly [
      "fn to_value (& self) ->", core "value :: Value",
      curly [core "value :: Value :: Udt", round [std "vec !", square [closed written]]],
      "fn from_value", round ["value : &", core "value :: Value ,"], "->", optionType "Self",
      curly [std "option :: Option :: Some", round ["Self", curly [closed read]]]]])]

end WideColumn.Builder
