/-
# Where chains begin

The manager of an entity holds the session and has a method for each kind of statement, which
makes the first builder of a chain.
-/
import WideColumn.Builder.Writing
import WideColumn.Schema.Ddl

namespace WideColumn.Builder

open WideColumn.Source

/-- The table of an entity as an expression. -/
def tableText (p : Plan) : String :=
  lay ["<", p.name, "as", core "entity :: Entity > :: qualified_table ()"]

/-- The type of the session. -/
def sessionType : String := "& 'a dyn " ++ core "executor :: Executor"

/-- A method that makes a builder around a new query. -/
def entryMember (name parameters state query : String) : Member :=
  ⟨name, builderType state,
    lay ["pub fn", name, round ["& self", parameters], "->", builderType state,
      curly [state, curly ["state :", core "query :: QueryState ::", query, ","]]]⟩

/-- A query that selects the columns of the entity. -/
def selecting (p : Plan) (json : Bool) : String :=
  lay ["select ::", angled [p.name], round ["self . session ,", truth json]]

/-- A query of a kind on the table of the entity. -/
def ofKind (p : Plan) (kind : String) : String :=
  lay ["new", round ["self . session ,", core "query :: StatementKind ::", kind, ",",
    tableText p, ","]]

/-- Methods for records and, where the store knows it, for JSON. -/
def inBothForms (p : Plan) (make : Bool → Member) : List Member :=
  make false :: if p.has .jsonStatements then [make true] else []

/-- The method that begins a select chain. -/
def selectMember (p : Plan) (json : Bool) : Member :=
  entryMember (if json then "select_json" else "select") "" (selectEntry p json)
    (selecting p json)

/-- The partition key as one value: the value of its column, or a tuple of those of all. -/
def partitionValue (p : Plan) : String :=
  match p.partition.map fun f => (f.operand f.name).encoded.text with
  | [single] => single
  | several =>
    lay [square [listed several],
      ". into_iter () . collect :: < :: std :: result :: Result < :: std :: vec :: Vec < _ > , _ >> ()",
      ". map", round [core "value :: Value :: Tuple"]]

/-- The method that begins a slice, if the table clusters. -/
def sliceMembers (p : Plan) : List Member :=
  let returns := lay [core "slice :: SliceQuery < 'a ,", p.name, ">"]
  if p.clustering.isEmpty then []
  else [⟨"slice", returns,
    lay [fixedDoc "Slice read within one partition, bounded by clustering tuples.",
      "pub fn slice",
      round ["& self ,", listed (p.partition.map fun f => typed (f.name, f.type))], "->", returns,
      curly [core "slice :: SliceQuery :: new",
        round ["self . session ,", partitionValue p]]]⟩]

/-- The methods that begin an insert. -/
def insertMembers (p : Plan) : List Member :=
  let state := p.item "Insert"
  if p.isInsertable then
    entryMember "insert" (lay [", entity : &", p.name]) state "insert (self . session , entity)"
      :: if p.has .jsonStatements then
          [entryMember "insert_json" ", json : & str" state
            (lay ["insert_json ::", angled [p.name], "(self . session , json)"])]
        else []
  else []

/-- The methods that begin an update. -/
def updateMembers (p : Plan) : List Member :=
  (if p.settable.isEmpty then []
    else [entryMember "update" "" (updateEntry p "Update") (ofKind p "Update")])
    ++ if p.statics.isEmpty then []
      else [entryMember "update_static" "" (updateEntry p "UpdateStatic") (ofKind p "Update")]

/-- The method that begins a delete of static columns. -/
def deleteStaticMember (p : Plan) : Member :=
  let state := deleteEntry p "DeleteStatic"
  let columns := p.statics.map fun f => lay ["state . project", round [literal f.column], ";"]
  ⟨"delete_static", builderType state,
    lay [fixedDoc "Deletes the static columns of one partition.",
      "pub fn delete_static (& self) ->", builderType state,
      curly ["let mut state =", core "query :: QueryState ::", ofKind p "Delete", ";",
        lay columns, state, curly ["state"]]]⟩

/-- The methods that begin a delete. -/
def deleteMembers (p : Plan) : List Member :=
  entryMember "delete" "" (deleteEntry p "Delete") (ofKind p "Delete")
    :: if p.statics.isEmpty then [] else [deleteStaticMember p]

/-- The method that begins an index chain. -/
def indexMember (p : Plan) (json : Bool) : Member :=
  entryMember (if json then "index_select_json" else "index_select") "" (indexEntry p json)
    (selecting p json)

/-- The methods that begin a writing or an index chain; a view has none. -/
def tableMembers (p : Plan) : List Member :=
  if p.entity.isView then []
  else
    insertMembers p ++ updateMembers p ++ deleteMembers p
      ++ if p.indexed.isEmpty then [] else inBothForms p (indexMember p)

/-- The method that lists the statements that create the entity. -/
def statementsMember (p : Plan) : Member :=
  let returns := "& 'static [& 'static str]"
  ⟨"schema_statements", returns,
    lay [fixedDoc "CREATE statements of this table and its indexes.", decoration ["must_use"],
      "pub const fn schema_statements () ->", returns,
      curly ["&", square [listed ((p.schema.entityStatements p.entity).map literal)]]]⟩

/-- The method that makes a manager. -/
def newMember : Member :=
  ⟨"new", "Self", lay [decoration ["must_use"], "pub const fn new",
    round ["session :", sessionType], "-> Self", curly ["Self", curly ["session"]]]⟩

/-- All methods of a manager. -/
def managerMembers (p : Plan) : List Member :=
  newMember :: inBothForms p (selectMember p) ++ sliceMembers p ++ tableMembers p
    ++ if p.emitDdl then [statementsMember p] else []

/-- The manager of an entity. -/
def managerItems (p : Plan) : List Item :=
  let manager := p.item "Manager"
  [.structure manager (lay [
      madeDoc ("Statement entry points for \x60" ++ p.entity.qualifiedTable ++ "\x60."),
      derives ["Clone", "Copy"], "pub struct", builderType manager,
      curly ["session :", sessionType, ","]]),
    .methods manager (lay ["impl < 'a >", builderType manager]) [] (managerMembers p),
    .conformance manager (lay ["impl", std "fmt :: Debug for", manager, "< '_ >", curly [
      "fn fmt (& self , f : & mut :: std :: fmt :: Formatter < '_ >) -> :: std :: fmt :: Result",
      curly ["f . debug_struct", round [std "stringify !", round [manager]], ". field",
        round [literal "table", ", &", tableText p], ". finish_non_exhaustive ()"]]])]

end WideColumn.Builder
