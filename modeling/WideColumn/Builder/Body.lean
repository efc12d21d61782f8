/-
# Bodies of methods

A method that adds to a query makes terms out of its parameters, gives names to some of them, and
makes one call on the query.  Such a body is data here.  Its source follows from it, and so does
the call that it makes once its parameters have values.
-/
import WideColumn.Key.Predicate
import WideColumn.Source.Item

namespace WideColumn.Builder

open WideColumn.Key
open WideColumn.Source

/-- How the value of a parameter is encoded. -/
inductive Encoding where
  /-- By the codec of a field. -/
  | codec (type : String)
  /-- By the built-in codec of a type. -/
  | builtIn (type : String)
  deriving DecidableEq

/-- A term that a method makes. -/
inductive Term where
  /-- A parameter, or a term that was named before. -/
  | known (name : String)
  /-- What is known, borrowed. -/
  | borrowed (name : String)
  /-- A text that is given as it is. -/
  | quoted (s : String)
  /-- The same as a value of its own. -/
  | owned (s : String)
  | truth (b : Bool)
  /-- A place of the key. -/
  | place (n : Nat)
  | order (d : Direction)
  /-- A template with what is known in its place. -/
  | filled (template name : String)
  /-- What is known, encoded for a column. -/
  | encoded (encoding : Encoding) (column name : String)
  /-- A list of what is encoded for a column one by one. -/
  | encodedAll (codec column name : String)
  /-- A text that is known, as a value; `copy` is the method that copies the text. -/
  | textValue (name copy : String)

/-- A method of a query. -/
inductive QueryMethod where
  | projectFunction
  | relation
  | rangeRelations
  | assignment
  | assignmentLiteral
  | condition
  | indexRelation
  | indexRelationPair
  | allowFiltering
  | limit
  | perPartitionLimit
  /-- The order by the clustering columns of a record. -/
  | ordering (record : String)
  | consistency
  | serialConsistency
  | fetchSize
  | pagingState
  | ifExists
  | ifNotExists
  | usingTtl
  | usingTimestamp

/-- Terms with names, and the call on the query that is made of them. -/
structure Body where
  locals : List (String × Term) := []
  method : QueryMethod
  /-- The arguments; several terms in one place are a tuple. -/
  arguments : List (List Term) := []
  /-- Whether a comma follows the last argument. -/
  isClosed : Bool := false

/-! ## Source -/

/-- The codec as an argument of a function. -/
def Encoding.text : Encoding → String
  | codec type => angled [type]
  | builtIn type => lay ["<", core "codec :: NativeCodec", "<", type, ">>"]

/-- The text of a term. -/
def Term.text : Term → String
  | known name => name
  | borrowed name => lay ["&", name]
  | quoted s => literal s
  | owned s => lay [literal s, ". to_string ()"]
  | truth b => Source.truth b
  | place n => toString n ++ "usize"
  | order .ascending => core "range :: OrderingMode :: Ascending"
  | order .descending => core "range :: OrderingMode :: Descending"
  | filled template name => lay [":: std :: format !", round [literal template, ",", name]]
  | encoded encoding column name =>
    lay [core "codec :: encode_column ::", encoding.text, round [literal column, ", &", name]]
  | encodedAll codec column name =>
    lay [core "codec :: encode_column_list ::", angled [codec],
      round [literal column, ", &", name]]
  | textValue name copy =>
    lay ["Ok", round [core "value :: Value :: Text", round [name, ".", copy, "()"]]]

/-- The text of a method. -/
def QueryMethod.text : QueryMethod → String
  | projectFunction => "project_function"
  | relation => "relation"
  | rangeRelations => "range_relations"
  | assignment => "assignment"
  | assignmentLiteral => "assignment_literal"
  | condition => "condition"
  | indexRelation => "index_relation"
  | indexRelationPair => "index_relation_pair"
  | allowFiltering => "allow_filtering"
  | limit => "limit"
  | perPartitionLimit => "per_partition_limit"
  | ordering record => lay ["ordering ::", angled [record]]
  | consistency => "consistency"
  | serialConsistency => "serial_consistency"
  | fetchSize => "fetch_size"
  | pagingState => "paging_state"
  | ifExists => "if_exists"
  | ifNotExists => "if_not_exists"
  | usingTtl => "using_ttl"
  | usingTimestamp => "using_timestamp"

namespace Body

/-- An argument, or a tuple of them. -/
def argument : List Term → String
  | [t] => t.text
  | ts => round [listed (ts.map Term.text)]

/-- A term that is given a name. -/
def definition (named : String × Term) : String := lay ["let", named.1, "=", named.2.text, ";"]

/-- The text of a body, as statements. -/
def text (b : Body) : String :=
  lay [lay (b.locals.map definition), "self . state .", b.method.text,
    round [listed (b.arguments.map argument), if b.isClosed then "," else ""], ";"]

end Body

end WideColumn.Builder
