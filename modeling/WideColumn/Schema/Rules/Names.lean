/-
# Rules about names

Type names start with an upper letter, field names are in snake case, and neither may be a word
that the query language or generated source keeps for itself.  Within an entity, no two fields
share a name or a column.
-/
import WideColumn.Schema.ErrorTree

namespace WideColumn.Schema

/-- What is wrong with the form of a name. -/
def nameFaults (name : String) : List Violation :=
  (nameFault? name).toList.map (.invalidIdentifier name)

/-- What is wrong with the name of an entity or a user type. -/
def typeNameFaults (name : String) : List Violation :=
  nameFaults name
    ++ if name.toList.head?.any Char.isUpper then []
      else [.invalidIdentifier name .notCapitalized]

/-- What is wrong with the name of a field. -/
def fieldNameFaults (name : String) : List Violation :=
  nameFaults name
    ++ (if isSnakeCase name then [] else [.invalidIdentifier name .notSnakeCase])
    ++ if sourceKeywords.contains name then [.reservedWord name] else []

/-- What is wrong with the name of a table. -/
def tableNameFaults (table : String) : List Violation :=
  if isReservedWord table then [.reservedWord table] else []

/-- What is wrong with the name of a column; quoted names are free. -/
def columnNameFaults (column : String) : List Violation :=
  if !column.startsWith "\"" && isReservedWord column then [.reservedWord column] else []

/-- Fields that share their name or their column with an earlier one, in the order of fields. -/
def duplicateFaults : List String → List String → List Field → List Violation
  | _, _, [] => []
  | names, columns, f :: fs =>
    (if names.contains f.name then [.duplicateField f.name] else [])
      ++ (if columns.contains f.column then [.duplicateColumn f.column] else [])
      ++ duplicateFaults (f.name :: names) (f.column :: columns) fs

end WideColumn.Schema
