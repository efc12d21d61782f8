/-
# Builders that read

A select chain equates the partition columns one by one, then as many clustering columns as
wanted, may bound the next one, and ends.  An index chain relates indexed columns instead, in any
order and number.  Either reads records or JSON.
-/
import WideColumn.Builder.Plan

namespace WideColumn.Builder

open WideColumn.Source

/-! ## Select -/

/-- The family of the chains that read records or JSON. -/
def selectFamily (json : Bool) : String := if json then "SelectJson" else "Select"

/-- The ways to send a reading query off. -/
def readTerminals (p : Plan) (json : Bool) : List Method :=
  if json then [finish .getJsonList, finish .getJsonOne]
  else [finish (.getList p.name), finish (.getOne p.name), finish .getRows,
    finish (.getListAsync p.name)]

/-- The methods of the last state of a reading chain. -/
def readMethods (p : Plan) (json ordering : Bool) : List Method :=
  [setting .limit]
    ++ (if p.has .perPartitionLimit then [setting .perPartitionLimit] else [])
    ++ (if ordering then [setting (.naturalOrder p.name), setting (.reversedOrder p.name)] else [])
    ++ consistencyMethods
    ++ [setting .fetchSize, setting .pagingState, finish .statement]
    ++ readTerminals p json

/-- Membership of the last partition column in a list. -/
def among (f : PlannedField) (next : String) : Method :=
  change (f.name ++ "_in") (.relateAll (f.relation "IN") (f.operand "values")) (some next)

/-- Equality of a partition column with JSON text. -/
def equateJson (f : PlannedField) (next : String) : Method :=
  change (f.name ++ "_from_json") (.relateJson (f.column ++ " = fromJson(?)")) (some next)

/-- The states of the partition columns; `first` tells that none came before. -/
def partitionStates (p : Plan) (family after : String) :
    (first : Bool) → List PlannedField → List State
  | _, [] => []
  | first, f :: fs =>
    let next := p.stateForFirst family fs after
    ⟨p.stateFor family f,
      (if first && !p.schema.functions.isEmpty then
          [change "with_function" .projectFunction none] else [])
        ++ [equate f f.name next]
        ++ (if fs.isEmpty then [among f next] else [])
        ++ if p.has .jsonRelations then [equateJson f next] else []⟩
      :: partitionStates p family after false fs

/-- The states of the clustering columns from a place of the key on; each may end the chain. -/
def clusteringStates (p : Plan) (family last : String) (lastMethods : List Method) :
    (position : Nat) → List PlannedField → List State
  | _, [] => []
  | position, f :: fs =>
    ⟨p.stateFor family f,
      equate f (f.name ++ "_eq") (p.stateForFirst family fs last)
        :: boundMethods f position last ++ passedTo last lastMethods⟩
      :: clusteringStates p family last lastMethods (position + 1) fs

/-- The states of a select family. -/
def selectStates (p : Plan) (json : Bool) : List State :=
  let family := selectFamily json
  let last := p.lastState family
  let lastMethods := readMethods p json (!p.clustering.isEmpty)
  partitionStates p family (p.stateForFirst family p.clustering last) true p.partition
    ++ clusteringStates p family last lastMethods 1 p.clustering
    ++ [⟨last, lastMethods⟩]

/-- The state in which a select chain begins. -/
def selectEntry (p : Plan) (json : Bool) : String :=
  let family := selectFamily json
  p.stateForFirst family p.partition (p.lastState family)

/-! ## Indexes -/

/-- The family of the index chains that read records or JSON. -/
def indexFamily (json : Bool) : String := if json then "IndexSelectJson" else "IndexSelect"

/-- A relation of an indexed column with a value of its own type. -/
def relateWhole (f : PlannedField) (suffix operator : String) (native : Bool)
    (next : Option String) : Method :=
  change (f.name ++ suffix) (.relateIndex (f.relation operator) native (f.operand "value")) next

/-- A relation of an indexed column with a value of another type. -/
def relatePart (f : PlannedField) (suffix operator type : String) (next : Option String) : Method :=
  change (f.name ++ suffix)
    (.relateIndex (f.relation operator) true (f.operandOf "value" type)) next

/-- A relation of an indexed column with a text pattern. -/
def relatePattern (f : PlannedField) (suffix before after : String) (next : Option String) :
    Method :=
  change (f.name ++ suffix) (.relateLike (f.relation "LIKE") before after) next

/-- The shape that a relation with a part of a value is about. -/
def partShape (s : Shape) : Shape :=
  match s with
  | .list _ e | .set _ e | .map _ _ e => e
  | s => s

/-- The relations that a native index serves. -/
def nativeRelations (p : Plan) (f : PlannedField) (kind : IndexKind) (next : Option String) :
    Except GenerationError (List Method) :=
  match kind, f.model.shape with
  | .normal, _ | .full, _ => .ok [relateWhole f "_eq" "=" true next]
  | .collection, s | .mapValue, s => do
    let part ← p.builtInType (partShape s)
    return [relatePart f "_contains" "CONTAINS" part next]
  | .mapKey, .map _ k _ => do
    let key ← p.builtInType k
    return [relatePart f "_contains_key" "CONTAINS KEY" key next]
  | .mapKey, _ => .ok [relatePart f "_contains_key" "CONTAINS KEY" f.type next]
  | .mapEntry, .map _ k v => do
    let key ← p.builtInType k
    let value ← p.builtInType v
    return [change (f.name ++ "_contains_entry")
      (.relateEntry (f.column ++ "[?] = ?") (f.operandOf "key" key) (f.operandOf "value" value))
      next]
  | .mapEntry, _ => .ok []

/-- The comparisons of an indexed column. -/
def comparisons (f : PlannedField) (next : Option String) : List Method :=
  [relateWhole f "_gt" ">" false next, relateWhole f "_gte" ">=" false next,
    relateWhole f "_lt" "<" false next, relateWhole f "_lte" "<=" false next]

/-- Patterns for the beginning, the end and the inside of a text. -/
def patterns (f : PlannedField) (next : Option String) : List Method :=
  [relatePattern f "_starts_with" "" "%" next, relatePattern f "_ends_with" "%" "" next,
    relatePattern f "_contains_text" "%" "%" next]

/-- Whether the store compares scalars of a kind by an analysing index. -/
def isComparable (s : Shape) : Bool := s.scalar?.any fun c => c.isNumeric || c.isTemporal

/-- Whether a shape is a text. -/
def isText (s : Shape) : Bool := s.scalar?.any Scalar.isText

/-- The relations that an analysing index serves, beside equality. -/
def sasiRelations (f : PlannedField) (mode : SasiMode) (next : Option String) : List Method :=
  let s := f.model.shape
  match mode with
  | .prefixes =>
    if isText s then [relatePattern f "_starts_with" "" "%" next]
    else if isComparable s then comparisons f next else []
  | .contains =>
    if isText s then patterns f next ++ [relatePattern f "_like" "" "" next] else []
  | .sparse => if isComparable s then comparisons f next else []

/-- The relations that a search index serves, beside equality. -/
def searchRelations (f : PlannedField) (fullText : Bool) (next : Option String) : List Method :=
  (if isText f.model.shape then patterns f next else [])
    ++ if fullText then
        [change (f.name ++ "_solr_query") (.relateSearch (Text.unquoted f.column)) next]
      else []

/-- The relations that an index serves. -/
def indexRelations (p : Plan) (f : PlannedField) (next : Option String) (i : Schema.Index) :
    Except GenerationError (List Method) :=
  match i.implementation with
  | .native => nativeRelations p f i.kind next
  | .sasi options => .ok (relateWhole f "_eq" "=" false next :: sasiRelations f options.mode next)
  | .search options =>
    .ok (relateWhole f "_eq" "=" false next :: searchRelations f options.fullText next)

/-- The relations of all indexed columns. -/
def allIndexRelations (p : Plan) (next : Option String) : Except GenerationError (List Method) :=
  (p.indexed.flatMap fun f => f.model.indexes.map fun i => (f, i)).flatMapM fun (f, i) =>
    indexRelations p f next i

/-- The states of an index family: one before the first relation, and one after it. -/
def indexStates (p : Plan) (json : Bool) : Except GenerationError (List State) := do
  let family := indexFamily json
  let last := p.lastState family
  let first ← allIndexRelations p (some last)
  let more ← allIndexRelations p none
  return [⟨p.item family, first⟩,
    ⟨last, change "allow_filtering" .allowFiltering none :: more ++ readMethods p json false⟩]

/-- The state in which an index chain begins. -/
def indexEntry (p : Plan) (json : Bool) : String := p.item (indexFamily json)

end WideColumn.Builder
