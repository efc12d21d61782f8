/-
# Statements that create a schema

User types first, then each table with its indexes, then each view with its.
-/
import WideColumn.Schema

namespace WideColumn.Schema

/-- Items between commas. -/
def commas (items : List String) : String := ", ".intercalate items

/-- The fields that are stored, in key order. -/
def storedFields (e : Entity) : List Field :=
  e.orderedFields.filter (!·.role.isComputed)

/-- The primary key: the partition key, in brackets unless it is one column, then the clustering
columns. -/
def primaryKey (e : Entity) : String :=
  let partition :=
    match e.partitionFields.map (·.column) with
    | [single] => single
    | several => "(" ++ commas several ++ ")"
  commas (partition :: e.clusteringFields.map (·.column))

/-- A clustering column with its direction. -/
def orderItem (f : Field) : String :=
  f.column ++ if f.role.isDescending then " DESC" else " ASC"

/-- The clause that fixes the directions of the clustering columns. -/
def clusteringOrder (e : Entity) : String :=
  match e.clusteringFields with
  | [] => ""
  | fields => " WITH CLUSTERING ORDER BY (" ++ commas (fields.map orderItem) ++ ")"

/-- Creates a user type. -/
def createType (u : UserType) : String :=
  "CREATE TYPE IF NOT EXISTS " ++ u.qualifiedType ++ " ("
    ++ commas (u.fields.map fun f => f.column ++ " " ++ f.shape.text) ++ ")"

/-- A stored column with its type. -/
def columnDefinition (s : Schema) (e : Entity) (f : Field) : String :=
  f.column ++ " " ++ s.columnType e f ++ if f.role.isStatic then " static" else ""

/-- Creates a table. -/
def createTable (s : Schema) (e : Entity) : String :=
  "CREATE TABLE IF NOT EXISTS " ++ e.qualifiedTable ++ " ("
    ++ commas ((storedFields e).map (columnDefinition s e)) ++ ", PRIMARY KEY (" ++ primaryKey e
    ++ "))" ++ clusteringOrder e

/-- Creates a view of a base. -/
def createView (view base : Entity) : String :=
  let keys := (view.partitionFields ++ view.clusteringFields).map fun f =>
    f.column ++ " IS NOT NULL"
  "CREATE MATERIALIZED VIEW IF NOT EXISTS " ++ view.qualifiedTable ++ " AS SELECT "
    ++ commas ((storedFields view).map (·.column)) ++ " FROM " ++ base.qualifiedTable
    ++ " WHERE " ++ " AND ".intercalate keys ++ " PRIMARY KEY (" ++ primaryKey view ++ ")"
    ++ clusteringOrder view

/-- What a native index is on. -/
def nativeTarget (f : Field) (kind : IndexKind) : String :=
  match kind with
  | .normal => f.column
  | .full => "FULL(" ++ f.column ++ ")"
  | .collection => if f.shape.isMap then "VALUES(" ++ f.column ++ ")" else f.column
  | .mapKey => "KEYS(" ++ f.column ++ ")"
  | .mapValue => "VALUES(" ++ f.column ++ ")"
  | .mapEntry => "ENTRIES(" ++ f.column ++ ")"

/-- The options of an analysing index; those of the analyzer only where one is used. -/
def sasiOptions (o : Declaration.Sasi) : List (String × String) :=
  let mode :=
    match o.mode with
    | .prefixes => "PREFIX"
    | .contains => "CONTAINS"
    | .sparse => "SPARSE"
  let analyzer :=
    match o.analyzer with
    | .nonTokenizing => "org.apache.cassandra.index.sasi.analyzer.NonTokenizingAnalyzer"
    | .standard => "org.apache.cassandra.index.sasi.analyzer.StandardAnalyzer"
  let normalization :=
    match o.normalization with
    | .none => []
    | .lowercase => [("normalize_lowercase", "true")]
    | .uppercase => [("normalize_uppercase", "true")]
  ("mode", mode) ::
    if o.analyzed then
      [("analyzed", "true"), ("analyzer_class", analyzer),
        ("case_sensitive", toString o.caseSensitive)] ++ normalization
    else []

/-- An option as written in a statement. -/
def optionText (option : String × String) : String :=
  "'" ++ option.1 ++ "': '" ++ option.2 ++ "'"

/-- Creates an index. -/
def createIndex (e : Entity) (f : Field) (i : Index) : String :=
  let name := i.resolvedName e.table f.column
  let custom := "CREATE CUSTOM INDEX IF NOT EXISTS " ++ name ++ " ON " ++ e.qualifiedTable ++ " ("
    ++ f.column ++ ") USING "
  match i.implementation with
  | .native => "CREATE INDEX IF NOT EXISTS " ++ name ++ " ON " ++ e.qualifiedTable ++ " ("
      ++ nativeTarget f i.kind ++ ")"
  | .sasi options => custom ++ "'org.apache.cassandra.index.sasi.SASIIndex' WITH OPTIONS = \x7b"
      ++ commas ((sasiOptions options).map optionText) ++ "\x7d"
  | .search _ => custom ++ "'com.datastax.bdp.search.solr.Cql3SolrSecondaryIndex'"

/-- Creates the indexes of an entity. -/
def createIndexes (e : Entity) : List String :=
  e.indexedFields.flatMap fun f => f.indexes.map (createIndex e f)

/-- Creates an entity and its indexes. -/
def entityStatements (s : Schema) (e : Entity) : List String :=
  (match e.viewOf.bind s.entity? with
    | some base => createView e base
    | none => createTable s e) :: createIndexes e

/-- Creates everything. -/
def statements (s : Schema) : List String :=
  s.userTypes.map createType
    ++ (s.entities.filter (!·.isView)).flatMap (entityStatements s)
    ++ (s.entities.filter (·.isView)).flatMap (entityStatements s)

end WideColumn.Schema
