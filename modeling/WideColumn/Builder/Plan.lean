/-
# Plans

What the builders of an entity have to know: its fields with their names, types and codecs as they
stand in source, and the profile of the store that the source is for.
-/
import WideColumn.Builder.Method
import WideColumn.Key.Shape
import WideColumn.Schema.Capabilities
import WideColumn.Source.Whole

namespace WideColumn.Builder

open WideColumn.Source

/-- Why no source is generated. -/
inductive GenerationError where
  | capability (cause : CapabilityError)
  /-- A text that is no name. -/
  | name (input : String)
  /-- A text that is no type. -/
  | type (input : String)
  /-- A shape that has no built-in type. -/
  | shape (text : String) (cause : Schema.ResolveError)
  /-- A field without a strategy. -/
  | codec (entity field : String)
  /-- A number makes an overloaded function no name either. -/
  | overload (name : String)

/-- The wording of a generation error. -/
def GenerationError.message : GenerationError → String
  | capability cause => cause.message
  | name input => "invalid identifier '" ++ input ++ "'"
  | type input => "invalid type '" ++ input ++ "'"
  | shape text _ => "cannot map '" ++ text ++ "' to a Rust type"
  | codec entity field =>
    "entity '" ++ entity ++ "' field '" ++ field ++ "' has no resolved codec"
  | overload text => "'" ++ text ++ "' is not a valid identifier"

/-- A name in source. -/
def name (input : String) : Except GenerationError String :=
  match identifier? input with
  | some w => .ok w
  | none => .error (.name input)

/-- A type in source. -/
def type (input : String) : Except GenerationError String :=
  match Type.ofText? input with
  | some t => .ok t
  | none => .error (.type input)

/-- The built-in type of a shape, in source. -/
def builtInType (types : List Schema.UserType) (s : Shape) : Except GenerationError String :=
  match Schema.nativeType types s with
  | .ok t => type t
  | .error e => .error (.shape s.text e)

/-- A field as it stands in source. -/
structure PlannedField where
  model : Schema.Field
  name : String
  type : String
  codec : String
  /-- Whether the built-in codec of its shape carries the field. -/
  isNative : Bool

namespace PlannedField

/-- The field's part in the name of a state. -/
def pascal (f : PlannedField) : String := Text.pascalCase f.model.name

def column (f : PlannedField) : String := f.model.column

/-- Whether the field may be absent. -/
def isOptional (f : PlannedField) : Bool := f.model.optional && !f.model.isKey

/-- A parameter of the field's own type. -/
def operand (f : PlannedField) (parameter : String) : Operand :=
  ⟨parameter, f.type, f.column, .codec f.codec⟩

/-- A parameter of another type, bound for the field's column. -/
def operandOf (f : PlannedField) (parameter type : String) : Operand :=
  ⟨parameter, type, f.column, .builtIn type⟩

/-- A relation or assignment with one value. -/
def relation (f : PlannedField) (operator : String) : String :=
  f.column ++ " " ++ operator ++ " ?"

end PlannedField

/-- An entity as it stands in source. -/
structure Plan where
  schema : Schema
  profile : Profile
  emitDdl : Bool
  entity : Schema.Entity
  name : String
  /-- Key fields in key order, then the others. -/
  fields : List PlannedField

namespace Plan

/-- Whether the store has a feature. -/
def has (p : Plan) (f : Feature) : Bool := p.profile.has f

/-- The name of an item that belongs to the entity. -/
def item (p : Plan) (suffix : String) : String := p.name ++ suffix

def partition (p : Plan) : List PlannedField := p.fields.filter (·.model.role.isPartition)

def clustering (p : Plan) : List PlannedField := p.fields.filter (·.model.role.isClustering)

def statics (p : Plan) : List PlannedField := p.fields.filter (·.model.role.isStatic)

/-- The fields that an update can set. -/
def settable (p : Plan) : List PlannedField :=
  p.fields.filter fun f => !f.model.isKey && !f.model.role.isComputed

/-- The fields that a condition can test. -/
def testable (p : Plan) : List PlannedField :=
  p.settable.filter (!·.model.role.isCounter)

def indexed (p : Plan) : List PlannedField := p.fields.filter (!·.model.indexes.isEmpty)

/-- Whether rows can be inserted: into tables without counters. -/
def isInsertable (p : Plan) : Bool := !p.entity.isView && !p.entity.hasCounters

/-- The built-in type of a shape, in source. -/
def builtInType (p : Plan) (s : Shape) : Except GenerationError String :=
  Builder.builtInType p.schema.userTypes s

/-- The name of the state in which a field of a family is next. -/
def stateFor (p : Plan) (family : String) (f : PlannedField) : String :=
  p.item (family ++ "Where" ++ f.pascal)

/-- The name of the last state of a family. -/
def lastState (p : Plan) (family : String) : String := p.item (family ++ "End")

/-- The name of the state in which the first of some fields is next, or of another state. -/
def stateForFirst (p : Plan) (family : String) (fs : List PlannedField) (otherwise : String) :
    String :=
  match fs with
  | f :: _ => p.stateFor family f
  | [] => otherwise

end Plan

/-- Plans a field. -/
def planField (schema : Schema) (entity : Schema.Entity) (f : Schema.Field) :
    Except GenerationError PlannedField := do
  let strategy ←
    match schema.codec? entity f with
    | some s => pure s
    | none => .error (.codec entity.name f.name)
  let ident ← name f.name
  let sourceType ← type strategy.sourceType
  let codecType ← type strategy.codecType
  return ⟨f, ident, sourceType, codecType, strategy matches .native _⟩

/-- Plans an entity. -/
def plan (schema : Schema) (profile : Profile) (emitDdl : Bool) (entity : Schema.Entity) :
    Except GenerationError Plan := do
  let fields ← entity.orderedFields.mapM (planField schema entity)
  let ident ← name entity.name
  return ⟨schema, profile, emitDdl, entity, ident, fields⟩

/-! ## Methods that several families share -/

/-- A method that goes on in a state, or stays if there is none. -/
def change (name : String) (action : Action) (next : Option String) : Method :=
  ⟨.change name action next, none⟩

/-- A method that changes a setting and stays. -/
def setting (s : Setting) : Method := change s.name (.set s) none

/-- A method that sends the query off. -/
def finish (t : Terminal) : Method := ⟨.finish t, none⟩

/-- Equality on a key column. -/
def equate (f : PlannedField) (name next : String) : Method :=
  change name (.relate (f.relation "=") (f.operand "value")) (some next)

/-- A one-sided bound on a clustering column. -/
def bound (f : PlannedField) (suffix operator next : String) : Method :=
  change (f.name ++ suffix) (.relate (f.relation operator) (f.operand "value")) (some next)

/-- A two-sided bound on a clustering column. -/
def boundBoth (f : PlannedField) (position : Nat) (suffix lower upper next : String) : Method :=
  change (f.name ++ suffix)
    (.relateRange position (f.relation lower) (f.relation upper) (f.operand "lower")
      (f.operand "upper")) (some next)

/-- The bounds of one shape on the clustering column at a place of the key. -/
def boundsOfShape (f : PlannedField) (position : Nat) (next : String) (s : Key.SliceShape) :
    List Method :=
  match s.lower, s.upper with
  | true, false => [bound f "_gt" ">" next, bound f "_gte" ">=" next]
  | false, true => [bound f "_lt" "<" next, bound f "_lte" "<=" next]
  | _, _ => [boundBoth f position "_gt_and_lt" ">" "<" next,
      boundBoth f position "_gt_and_lte" ">" "<=" next,
      boundBoth f position "_gte_and_lt" ">=" "<" next,
      boundBoth f position "_gte_and_lte" ">=" "<=" next]

/-- The bounds that are legal on the clustering column at a place of the key. -/
def boundMethods (f : PlannedField) (position : Nat) (next : String) : List Method :=
  (Key.legalShapes position).flatMap (boundsOfShape f position next)

def consistencyMethods : List Method :=
  [setting .consistency, setting .serialConsistency]

end WideColumn.Builder
