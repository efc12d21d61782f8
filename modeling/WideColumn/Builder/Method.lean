/-
# Builder states and their methods

A builder is a structure around a query.  Each of its methods uses up the builder: it adds
something to the query and goes on in the same or another state, or it sends the query off.  A
state that may already end a chain passes the methods of the chain's last state on.

What a method does is data here; its body and its source follow from that.
-/
import WideColumn.Builder.Body

namespace WideColumn.Builder

open WideColumn.Source

/-- A parameter whose value is bound for a column. -/
structure Operand where
  parameter : String
  type : String
  column : String
  encoding : Encoding
  deriving DecidableEq

/-- A step that a state does not take by itself, without a value that has to be encoded. -/
inductive Setting where
  | limit
  | perPartitionLimit
  | naturalOrder (record : String)
  | reversedOrder (record : String)
  | consistency
  | serialConsistency
  | fetchSize
  | pagingState
  | ifExists
  | ifNotExists
  | usingTtl
  | usingTimestamp
  deriving DecidableEq

/-- What a method adds to the query. -/
inductive Action where
  /-- Calls a function in the projection. -/
  | projectFunction
  /-- A relation with one value. -/
  | relate (relation : String) (operand : Operand)
  /-- A relation with a list of values. -/
  | relateAll (relation : String) (operand : Operand)
  /-- A relation with a value that is given as JSON text. -/
  | relateJson (relation : String)
  /-- Two relations that bound the column at a place of the key. -/
  | relateRange (position : Nat) (lower upper : String) (low high : Operand)
  /-- An assignment with one value. -/
  | assign (assignment : String) (operand : Operand)
  /-- An assignment without a value. -/
  | assignLiteral (assignment : String)
  /-- An assignment to the item of a list at a place that is given as well. -/
  | assignItem (column : String) (operand : Operand)
  /-- A condition with one value. -/
  | condition (text : String) (operand : Operand)
  /-- A relation that an index serves, a native one or not. -/
  | relateIndex (relation : String) (native : Bool) (operand : Operand)
  /-- A relation with a text pattern. -/
  | relateLike (relation : String) (before after : String)
  /-- A relation with the key and the value of a map's entry. -/
  | relateEntry (relation : String) (key value : Operand)
  /-- A relation with the text of a search. -/
  | relateSearch (column : String)
  | allowFiltering
  | set (s : Setting)
  deriving DecidableEq

/-- How a query is sent off. -/
inductive Terminal where
  | statement
  | execute
  | executeAsync
  | getJsonList
  | getJsonOne
  | getList (record : String)
  | getOne (record : String)
  | getRows
  | getListAsync (record : String)
  deriving DecidableEq

/-- What a method does. -/
inductive Act where
  /-- Adds to the query and goes on in a state, or in the same one. -/
  | change (name : String) (action : Action) (next : Option String)
  /-- Sends the query off. -/
  | finish (terminal : Terminal)
  deriving DecidableEq

/-- A method of a state: an act of its own, or one that it passes on to another state. -/
structure Method where
  act : Act
  via : Option String := none
  deriving DecidableEq

/-- A state of a builder. -/
structure State where
  name : String
  methods : List Method
  deriving DecidableEq

/-! ## Names -/

namespace Setting

/-- The name of the method. -/
def name : Setting → String
  | limit => "limit"
  | perPartitionLimit => "per_partition_limit"
  | naturalOrder _ => "with_natural_order"
  | reversedOrder _ => "with_reversed_order"
  | consistency => "with_consistency"
  | serialConsistency => "with_serial_consistency"
  | fetchSize => "with_fetch_size"
  | pagingState => "with_paging_state"
  | ifExists => "if_exists"
  | ifNotExists => "if_not_exists"
  | usingTtl => "using_ttl"
  | usingTimestamp => "using_timestamp"

/-- The parameter and its type. -/
def parameter? : Setting → Option (String × String)
  | limit | perPartitionLimit => some ("limit", "u32")
  | naturalOrder _ | reversedOrder _ | ifExists | ifNotExists => none
  | consistency | serialConsistency =>
    some ("consistency", core "statement :: Consistency")
  | fetchSize => some ("fetch_size", "u32")
  | pagingState => some ("paging_state", vecType "u8")
  | usingTtl => some ("seconds", "u32")
  | usingTimestamp => some ("micros", "i64")

/-- What the method does: one call on the query, with the parameter if there is one. -/
def body : Setting → Body
  | limit => { method := .limit, arguments := [[.known "limit"]] }
  | perPartitionLimit => { method := .perPartitionLimit, arguments := [[.known "limit"]] }
  | naturalOrder record => { method := .ordering record, arguments := [[.order .ascending]] }
  | reversedOrder record => { method := .ordering record, arguments := [[.order .descending]] }
  | consistency => { method := .consistency, arguments := [[.known "consistency"]] }
  | serialConsistency => { method := .serialConsistency, arguments := [[.known "consistency"]] }
  | fetchSize => { method := .fetchSize, arguments := [[.known "fetch_size"]] }
  | pagingState => { method := .pagingState, arguments := [[.known "paging_state"]] }
  | ifExists => { method := .ifExists }
  | ifNotExists => { method := .ifNotExists }
  | usingTtl => { method := .usingTtl, arguments := [[.known "seconds"]] }
  | usingTimestamp => { method := .usingTimestamp, arguments := [[.known "micros"]] }

end Setting

namespace Terminal

/-- The name of the method. -/
def name : Terminal → String
  | statement => "statement"
  | execute => "execute"
  | executeAsync => "execute_async"
  | getJsonList => "get_json_list"
  | getJsonOne => "get_json_one"
  | getList _ => "get_list"
  | getOne _ => "get_one"
  | getRows => "get_rows"
  | getListAsync _ => "get_list_async"

/-- Whether the method waits for the answer. -/
def isAsync : Terminal → Bool
  | executeAsync | getListAsync _ => true
  | _ => false

/-- The type of the answer. -/
def output : Terminal → String
  | statement => resultType (core "statement :: Statement")
  | execute | executeAsync => resultType "()"
  | getJsonList => resultType (vecType (std "string :: String"))
  | getJsonOne => resultType (optionType (std "string :: String"))
  | getList record | getListAsync record => resultType (vecType record)
  | getOne record => resultType (optionType record)
  | getRows => resultType (vecType (core "executor :: Row"))

/-- The call on the query. -/
def call (t : Terminal) : String :=
  match t with
  | getList record | getOne record | getListAsync record =>
    lay [t.name, "::", angled [record], "()"]
  | _ => t.name ++ " ()"

end Terminal

namespace Act

/-- The name of the method. -/
def name : Act → String
  | change name _ _ => name
  | finish t => t.name

end Act

namespace Method

def name (m : Method) : String := m.act.name

/-- The state that a method leads to from a state, unless it sends the query off. -/
def target? (m : Method) (state : String) : Option String :=
  match m.act with
  | .change _ _ next => some (next.getD (m.via.getD state))
  | .finish _ => none

end Method

/-- The same methods for an earlier state. -/
def passedTo (state : String) (ms : List Method) : List Method :=
  ms.map fun m => ⟨m.act, some state⟩

/-! ## Source -/

/-- A builder type. -/
def builderType (state : String) : String := lay [state, "< 'a >"]

/-- A builder around the query of this one. -/
def rebuilt (state : String) : String := lay [state, curly ["state : self . state"]]

/-- A parameter with its type. -/
def typed (parameter : String × String) : String := lay [parameter.1, ":", parameter.2]

namespace Operand

/-- The parameter, borrowed. -/
def borrowed (o : Operand) : Term := .borrowed o.parameter

/-- The parameter, encoded. -/
def encoded (o : Operand) : Term := .encoded o.encoding o.column o.parameter

def typed (o : Operand) : String × String := (o.parameter, o.type)

end Operand

namespace Action

/-- The parameters with their types. -/
def parameters : Action → List (String × String)
  | projectFunction => [("call", "& " ++ core "query :: function :: FunctionCall"),
      ("alias", "& str")]
  | relate _ o | assign _ o | condition _ o | relateIndex _ _ o => [o.typed]
  | relateAll _ o => [(o.parameter, vecType o.type)]
  | relateJson _ => [("json", "& str")]
  | relateRange _ _ _ low high => [low.typed, high.typed]
  | assignLiteral _ | allowFiltering => []
  | assignItem _ o => [("index", "usize"), o.typed]
  | relateLike .. => [("text", "& str")]
  | relateEntry _ key value => [key.typed, value.typed]
  | relateSearch _ => [("query", "& str")]
  | set s => s.parameter?.toList

/-- The list of parameters after the receiver, as it stands between the brackets. -/
def parameterList (a : Action) : String :=
  let items := listed (a.parameters.map Builder.typed)
  match a with
  | set _ => lay [",", items]
  | projectFunction => lay [",", items, ","]
  | _ => if items.isEmpty then "" else lay [",", items]

/-- What a method does to the query. -/
def body : Action → Body
  | projectFunction =>
    { method := .projectFunction, arguments := [[.known "call"], [.known "alias"]] }
  | relate text o =>
    { method := .relation, arguments := [[.quoted text], [o.borrowed], [o.encoded]] }
  | relateAll text o =>
    let codec :=
      match o.encoding with
      | .codec type | .builtIn type => type
    { locals := [("encoded", .encodedAll codec o.column o.parameter)]
      method := .relation
      arguments := [[.quoted text], [o.borrowed], [.known "encoded"]] }
  | relateJson text =>
    { method := .relation
      arguments := [[.quoted text], [.borrowed "json"], [.textValue "json" "to_string"]]
      isClosed := true }
  | relateRange position lower upper low high =>
    { locals := [("low", low.encoded), ("high", high.encoded)]
      method := .rangeRelations
      arguments := [[.place position], [.owned lower, low.borrowed, .known "low"],
        [.owned upper, high.borrowed, .known "high"]]
      isClosed := true }
  | assign text o =>
    { method := .assignment, arguments := [[.quoted text], [o.borrowed], [o.encoded]] }
  | assignLiteral text => { method := .assignmentLiteral, arguments := [[.quoted text]] }
  | assignItem column o =>
    { method := .assignment
      arguments := [[.filled (column ++ "[\x7b\x7d] = ?") "index"], [o.borrowed], [o.encoded]] }
  | condition text o =>
    { method := .condition, arguments := [[.quoted text], [o.borrowed], [o.encoded]] }
  | relateIndex text native o =>
    { method := .indexRelation
      arguments := [[.quoted text], [.truth native], [o.borrowed], [o.encoded]] }
  | relateLike text before after =>
    { locals := [("pattern", .filled (before ++ "\x7b\x7d" ++ after) "text")]
      method := .indexRelation
      arguments := [[.quoted text], [.truth false], [.borrowed "pattern"],
        [.textValue "pattern" "clone"]]
      isClosed := true }
  | relateEntry text key value =>
    { locals := [("encoded_key", key.encoded), ("encoded_value", value.encoded)]
      method := .indexRelationPair
      arguments := [[.quoted text], [.truth true], [key.borrowed, .known "encoded_key"],
        [value.borrowed, .known "encoded_value"]]
      isClosed := true }
  | relateSearch column =>
    { locals := [("query", .filled (column ++ ":\x7b\x7d") "query")]
      method := .indexRelation
      arguments := [[.quoted "solr_query = ?"], [.truth false], [.borrowed "query"],
        [.textValue "query" "clone"]]
      isClosed := true }
  | allowFiltering => { method := .allowFiltering }
  | set s => s.body

end Action

namespace Method

/-- The type that a method returns. -/
def returns (m : Method) : String :=
  match m.act, m.via with
  | .finish t, _ => t.output
  | .change _ _ (some next), _ => builderType next
  | .change _ _ none, some state => builderType state
  | .change _ _ none, none => "Self"

/-- The text of a method. -/
def text (m : Method) : String :=
  match m.act, m.via with
  | .change name action next, none =>
    let result :=
      match next with
      | some state => rebuilt state
      | none => "self"
    lay ["pub fn", name, round ["mut self", action.parameterList], "->", m.returns,
      curly [action.body.text, result]]
  | .change name action _, some state =>
    lay ["pub fn", name, round ["self", action.parameterList], "->", m.returns,
      curly [rebuilt state, ".", name, round [listed (action.parameters.map (·.1))]]]
  | .finish t, none =>
    lay [if t.isAsync then "pub async fn" else "pub fn", t.name, "(self) ->", m.returns,
      curly ["self . state .", t.call, if t.isAsync then ". await" else ""]]
  | .finish t, some state =>
    lay [if t.isAsync then "pub async fn" else "pub fn", t.name, "(self) ->", m.returns,
      curly [rebuilt state, ".", t.name, "()", if t.isAsync then ". await" else ""]]

/-- A method as a member of its state. -/
def member (m : Method) : Member := ⟨m.name, m.returns, m.text⟩

end Method

/-- The items that define a state. -/
def State.items (s : State) : List Item :=
  [.structure s.name (lay [decoration ["must_use"], "pub struct", builderType s.name,
      curly ["state :", core "query :: QueryState < 'a > ,"]]),
    .methods s.name (lay ["impl < 'a >", builderType s.name]) [] (s.methods.map Method.member)]

end WideColumn.Builder
