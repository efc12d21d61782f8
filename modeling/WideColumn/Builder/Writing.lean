/-
# Builders that write

An insert has one state.  An update takes at least one assignment, then equates the key columns
one by one, and ends.  A delete equates the partition columns and, as far as the store allows,
narrows the rows by clustering columns.  Updates and deletes of static columns need the partition
key alone.

An update or delete goes through either if a row exists or under conditions on its columns, never
both: each leads to a state of its own.
-/
import WideColumn.Builder.Reading

namespace WideColumn.Builder

open WideColumn.Source

/-- The ways to send a writing query off. -/
def writeTerminals : List Method :=
  [finish .statement, finish .execute, finish .executeAsync]

/-- When the written cells end and since when they count. -/
def usingMethods (ttl : Bool) : List Method :=
  (if ttl then [setting .usingTtl] else []) ++ [setting .usingTimestamp]

/-- What every writing query can do in the end. -/
def writeMethods (ttl : Bool) : List Method :=
  usingMethods ttl ++ consistencyMethods ++ writeTerminals

/-! ## Insert -/

/-- The state of an insert. -/
def insertStates (p : Plan) : List State :=
  if p.isInsertable then
    [⟨p.item "Insert",
      (if p.has .lightweightTransactions then [setting .ifNotExists] else [])
        ++ writeMethods true⟩]
  else []

/-! ## Conditions -/

/-- A condition on a column. -/
def testField (f : PlannedField) (next : Option String) : Method :=
  change ("if_" ++ f.name ++ "_eq") (.condition (f.relation "=") (f.operand "value")) next

/-- The conditional methods of the last state of a family. -/
def conditionalMethods (p : Plan) (family : String) (tested : List PlannedField) : List Method :=
  if p.has .lightweightTransactions then
    change "if_exists" (.set .ifExists) (some (p.item (family ++ "IfExists")))
      :: tested.map fun f => testField f (some (p.item (family ++ "If")))
  else []

/-- The states that conditions lead to. -/
def conditionalStates (p : Plan) (family : String) (tested : List PlannedField)
    (tail : List Method) : List State :=
  if p.has .lightweightTransactions then
    ⟨p.item (family ++ "IfExists"), tail⟩ ::
      if tested.isEmpty then []
      else [⟨p.item (family ++ "If"), tested.map (testField · none) ++ tail⟩]
  else []

/-- States that equate columns one by one. -/
def keyStates (p : Plan) (family after : String) : List PlannedField → List State
  | [] => []
  | f :: fs =>
    ⟨p.stateFor family f, [equate f f.name (p.stateForFirst family fs after)]⟩
      :: keyStates p family after fs

/-! ## Update -/

/-- Steps of a counter. -/
def counterMethods (f : PlannedField) (next : Option String) : List Method :=
  [change (f.name ++ "_incr")
      (.assign (f.column ++ " = " ++ f.column ++ " + ?") (f.operandOf "by" "i64")) next,
    change (f.name ++ "_decr")
      (.assign (f.column ++ " = " ++ f.column ++ " - ?") (f.operandOf "by" "i64")) next]

/-- Assignment of a whole value, or of none. -/
def wholeMethods (f : PlannedField) (next : Option String) : List Method :=
  [change (f.name ++ "_set") (.assign (f.relation "=") (f.operand "value")) next,
    change (f.name ++ "_set_null") (.assignLiteral (f.column ++ " = null")) next]

/-- Addition to a collection. -/
def append (f : PlannedField) (suffix parameter : String) (next : Option String) : Method :=
  change (f.name ++ suffix)
    (.assign (f.column ++ " = " ++ f.column ++ " + ?") (f.operand parameter)) next

/-- Removal from a collection. -/
def remove (f : PlannedField) (suffix : String) (operand : Operand) (next : Option String) :
    Method :=
  change (f.name ++ suffix) (.assign (f.column ++ " = " ++ f.column ++ " - ?") operand) next

/-- Assignments to the fields of a user type. -/
def typeFieldMethods (p : Plan) (f : PlannedField) (next : Option String)
    (u : Schema.UserType) : Except GenerationError (List Method) :=
  u.fields.mapM fun sub => do
    let ident ← name sub.name
    let type ← p.builtInType sub.shape
    return change (f.name ++ "_" ++ ident ++ "_set")
      (.assign (f.column ++ "." ++ sub.column ++ " = ?") (f.operandOf "value" type)) next

/-- Assignments to parts of a value. -/
def partMethods (p : Plan) (f : PlannedField) (next : Option String) :
    Except GenerationError (List Method) :=
  match f.model.shape with
  | .list _ e => do
    let element ← p.builtInType e
    return [append f "_append_to" "values" next,
      change (f.name ++ "_prepend_to")
        (.assign (f.column ++ " = ? + " ++ f.column) (f.operand "values")) next,
      change (f.name ++ "_set_at_index")
        (.assignItem f.column (f.operandOf "value" element)) next,
      remove f "_remove_from" (f.operand "values") next]
  | .set _ _ => .ok [append f "_add_to" "values" next,
      remove f "_remove_from" (f.operand "values") next]
  | .map _ k _ => do
    let keys := lay [std "collections :: BTreeSet", angled [← p.builtInType k]]
    return [append f "_put_to" "entries" next,
      remove f "_remove_by_key" (f.operandOf "keys" keys) next]
  | .udt _ name =>
    match Schema.userType? p.schema.userTypes name with
    | some u => typeFieldMethods p f next u
    | none => .ok []
  | .scalar .. | .counter _ | .tuple .. => .ok []

/-- The assignments of a field. -/
def setMethods (p : Plan) (next : Option String) (f : PlannedField) :
    Except GenerationError (List Method) :=
  if f.model.role.isCounter then .ok (counterMethods f next)
  else if !f.isNative || f.model.shape.frozen then .ok (wholeMethods f next)
  else do
    return wholeMethods f next ++ (← partMethods p f next)

/-- The states of an update family over some settable fields and key columns. -/
def updateFamily (p : Plan) (family : String) (settable keys tested : List PlannedField) :
    Except GenerationError (List State) :=
  match keys with
  | [] => .ok []
  | first :: others => do
    let more := p.item (family ++ "SetOrWhere")
    let last := p.lastState family
    let firstMethods ← settable.flatMapM (setMethods p (some more))
    let moreMethods ← settable.flatMapM (setMethods p none)
    let tail := writeMethods (!p.entity.hasCounters)
    return [⟨p.item (family ++ "Set"), firstMethods⟩,
        ⟨more, moreMethods ++ [equate first first.name (p.stateForFirst family others last)]⟩]
      ++ keyStates p family last others
      ++ ⟨last, conditionalMethods p family tested ++ tail⟩
        :: conditionalStates p family tested tail

/-- The states of an update family, if there is something to set. -/
def updateFamilyIfAny (p : Plan) (family : String) (settable keys tested : List PlannedField) :
    Except GenerationError (List State) :=
  if settable.isEmpty then .ok [] else updateFamily p family settable keys tested

/-- The states of both update families. -/
def updateStates (p : Plan) : Except GenerationError (List State) := do
  let keys := p.partition ++ p.clustering
  let tested := p.statics.filter (!·.model.role.isCounter)
  let whole ← updateFamilyIfAny p "Update" p.settable keys p.testable
  let static ← updateFamilyIfAny p "UpdateStatic" p.statics p.partition tested
  return whole ++ static

/-! ## Delete -/

/-- The states of the clustering columns of a delete from a place of the key on.  A whole partition
can always be deleted; anything else short of the whole key only where the store deletes ranges. -/
def narrowingStates (p : Plan) (family last : String) (lastMethods : List Method) :
    (position : Nat) → List PlannedField → List State
  | _, [] => []
  | position, f :: fs =>
    let ranges := p.has .clusteringRangeDelete
    ⟨p.stateFor family f,
      equate f (f.name ++ "_eq") (p.stateForFirst family fs last)
        :: (if ranges then boundMethods f position last else [])
        ++ if position == 1 || ranges then passedTo last lastMethods else []⟩
      :: narrowingStates p family last lastMethods (position + 1) fs

/-- The states of a delete family over some clustering columns. -/
def deleteFamily (p : Plan) (family : String) (clustering tested : List PlannedField) :
    List State :=
  let last := p.lastState family
  let tail := writeMethods false
  let lastMethods := conditionalMethods p family tested ++ tail
  keyStates p family (p.stateForFirst family clustering last) p.partition
    ++ narrowingStates p family last lastMethods 1 clustering
    ++ ⟨last, lastMethods⟩ :: conditionalStates p family tested tail

/-- The states of both delete families. -/
def deleteStates (p : Plan) : List State :=
  deleteFamily p "Delete" p.clustering p.testable
    ++ if p.statics.isEmpty then [] else deleteFamily p "DeleteStatic" [] []

/-- The state in which a delete chain begins. -/
def deleteEntry (p : Plan) (family : String) : String :=
  p.stateForFirst family p.partition (p.lastState family)

/-- The state in which an update chain begins. -/
def updateEntry (p : Plan) (family : String) : String := p.item (family ++ "Set")

end WideColumn.Builder
