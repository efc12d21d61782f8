/-
# What the methods of builders mean

A method names types, codecs and records that it does not define.  A VOCABULARY says what these
names stand for.  Under a vocabulary every term of a body means a DATUM once the parameters have
data, and the body means the call on the query that it makes with them (`Action.call?`).

A body means nothing where it would not compile: a parameter is given data of another type, a name
is not known, a codec is not one for the type of a source, or an argument is not of the kind that
the query's method takes.
-/
import WideColumn.Builder.Method
import WideColumn.Mapping
import WideColumn.Proofs.Query.Call

namespace WideColumn.Builder

open WideColumn.Key

/-! ## 1. Vocabularies and data -/

/-- What the names that source leaves open stand for. -/
structure Vocabulary where
  /-- The values of a type. -/
  Value : String → Type
  /-- A value of a type as it is shown to people. -/
  spoken : (type : String) → Value type → String
  /-- The codec of an encoding, for values of a type. -/
  codec? : Encoding → (type : String) → Option (Codec (Value type))
  /-- The mapping of a record. -/
  mapping? : String → Option Mapping

/-- What a term of a body can mean. -/
inductive Datum (V : Vocabulary) where
  /-- A value of a type. -/
  | source (type : String) (a : V.Value type)
  | sources (type : String) (as : List (V.Value type))
  | text (s : String)
  | truth (b : Bool)
  | number (n : Nat)
  | instant (n : Int)
  | bytes (bs : List UInt8)
  | function (call : FunctionCall)
  | consistency (c : Consistency)
  | direction (d : Direction)
  /-- A value for the store, or the failure to encode it. -/
  | encoded (v : Except Error Value)

namespace Datum

variable {V : Vocabulary}

/-- Whether a parameter of a type may be given this. -/
def hasType : Datum V → String → Bool
  | source type _, t => t == type
  | sources type _, t => t == Source.vecType type
  | text _, t => t == "& str"
  | number _, t => t == "u32" || t == "usize"
  | instant _, t => t == "i64"
  | bytes _, t => t == Source.vecType "u8"
  | function _, t => t == "& " ++ Source.core "query :: function :: FunctionCall"
  | consistency _, t => t == Source.core "statement :: Consistency"
  | truth _, _ | direction _, _ | encoded _, _ => false

/-- What is bound of a source with its value. -/
def operand? : (source value : Datum V) → Option WideColumn.Operand
  | source type a, encoded v => some ⟨V.spoken type a, v⟩
  | sources type as, encoded v => some ⟨Value.bracketed (as.map (V.spoken type)), v⟩
  | text s, encoded v => some ⟨Text.quoted s, v⟩
  | _, _ => none

/-- How what may stand in a template is written there. -/
def written? : Datum V → Option String
  | text s => some s
  | number n => some (toString n)
  | _ => none

end Datum

/-! ## 2. Bodies -/

/-- A template with texts in its holes, in order; two braces stand for one. -/
def fill? : (fillings : List (List Char)) → (template : List Char) → Option (List Char)
  | fs, '{' :: '{' :: rest => (fill? fs rest).map ('{' :: ·)
  | fs, '}' :: '}' :: rest => (fill? fs rest).map ('}' :: ·)
  | f :: fs, '{' :: '}' :: rest => (fill? fs rest).map (f ++ ·)
  | fs, c :: rest => if c = '{' ∨ c = '}' then none else (fill? fs rest).map (c :: ·)
  | [], [] => some []
  | _ :: _, [] => none

variable (V : Vocabulary)

/-- What a term means, by what is known under names. -/
def Term.datum? (known : List (String × Datum V)) : Term → Option (Datum V)
  | .known name | .borrowed name => known.lookup name
  | .quoted s | .owned s => some (.text s)
  | .truth b => some (.truth b)
  | .place n => some (.number n)
  | .order d => some (.direction d)
  | .filled template name => do
    let written ← (← known.lookup name).written?
    let filled ← fill? [written.toList] template.toList
    return .text (String.ofList filled)
  | .encoded encoding column name =>
    match known.lookup name with
    | some (.source type a) =>
      (V.codec? encoding type).map fun codec => .encoded (codec.encodeColumn column a)
    | _ => none
  | .encodedAll codec column name =>
    match known.lookup name with
    | some (.sources type as) =>
      (V.codec? (.codec codec) type).map fun codec => .encoded (codec.encodeColumnList column as)
    | _ => none
  | .textValue name copy =>
    match known.lookup name with
    | some (.text s) =>
      if copy = "to_string" ∨ copy = "clone" then some (.encoded (.ok (.text s))) else none
    | _ => none

/-- The call that a method of a query makes with arguments. -/
def QueryMethod.call? : QueryMethod → List (List (Datum V)) → Option Query.Call
  | .projectFunction, [[.function call], [.text aliasName]] => some (.projectCall call aliasName)
  | .relation, [[.text text], [source], [value]] => (source.operand? value).map (.relate text)
  | .rangeRelations, [[.number n], [.text lowerText, a, v], [.text upperText, b, w]] =>
    (a.operand? v).bind fun lower =>
      (b.operand? w).map fun upper => .relateRange n lowerText lower upperText upper
  | .assignment, [[.text text], [source], [value]] => (source.operand? value).map (.assign text)
  | .assignmentLiteral, [[.text text]] => some (.assignLiteral text)
  | .condition, [[.text text], [source], [value]] => (source.operand? value).map (.condition text)
  | .indexRelation, [[.text text], [.truth native], [source], [value]] =>
    (source.operand? value).map (.relateIndex text native)
  | .indexRelationPair, [[.text text], [.truth native], [a, v], [b, w]] =>
    (a.operand? v).bind fun first => (b.operand? w).map (.relateIndexPair text native first)
  | .allowFiltering, [] => some .allowFiltering
  | .limit, [[.number n]] => some (.limit n)
  | .perPartitionLimit, [[.number n]] => some (.perPartitionLimit n)
  | .ordering record, [[.direction d]] =>
    (V.mapping? record).map fun m => .orderByClustering m.clusteringColumns d
  | .consistency, [[.consistency c]] => some (.options fun o => { o with consistency := some c })
  | .serialConsistency, [[.consistency c]] =>
    some (.options fun o => { o with serialConsistency := some c })
  | .fetchSize, [[.number n]] => some (.options fun o => { o with fetchSize := some n })
  | .pagingState, [[.bytes bs]] => some (.options fun o => { o with pagingState := some bs })
  | .ifExists, [] => some .ifExists
  | .ifNotExists, [] => some .ifNotExists
  | .usingTtl, [[.number n]] => some (.usingTtl n)
  | .usingTimestamp, [[.instant n]] => some (.usingTimestamp n)
  | _, _ => none

/-- What is known once terms have been given names, one after another. -/
def learn? (known : List (String × Datum V)) :
    List (String × Term) → Option (List (String × Datum V))
  | [] => some known
  | (name, t) :: more => (t.datum? V known).bind fun d => learn? ((name, d) :: known) more

/-- The call that a body makes by what is known under the names of its parameters. -/
def Body.call? (given : List (String × Datum V)) (b : Body) : Option Query.Call := do
  let known ← learn? V given b.locals
  let arguments ← b.arguments.mapM fun ts => ts.mapM (Term.datum? V known)
  b.method.call? V arguments

/-- Parameters with the data that they are given, one for each. -/
def receive? : (parameters : List (String × String)) → List (Datum V) →
    Option (List (String × Datum V))
  | [], [] => some []
  | (name, type) :: parameters, d :: ds =>
    if d.hasType type then (receive? parameters ds).map ((name, d) :: ·) else none
  | _, _ => none

/-- **The call that an action makes** with data for its parameters, in order. -/
def Action.call? (given : List (Datum V)) (a : Action) : Option Query.Call :=
  (receive? V a.parameters given).bind fun known => a.body.call? V known

/-- The calls that an action can make, whatever it is given. -/
def Makes (a : Action) (c : Query.Call) : Prop := ∃ given, a.call? V given = some c

variable {V} {known : List (String × Datum V)}

@[simp] theorem Term.datum?_known (name : String) :
    Term.datum? V known (.known name) = known.lookup name := rfl

@[simp] theorem Term.datum?_borrowed (name : String) :
    Term.datum? V known (.borrowed name) = known.lookup name := rfl

@[simp] theorem Term.datum?_quoted (s : String) :
    Term.datum? V known (.quoted s) = some (.text s) := rfl

@[simp] theorem Term.datum?_owned (s : String) :
    Term.datum? V known (.owned s) = some (.text s) := rfl

@[simp] theorem Term.datum?_place (n : Nat) :
    Term.datum? V known (.place n) = some (.number n) := rfl

/-- A source that is known under a name, encoded by its codec. -/
theorem Term.datum?_encoded {encoding : Encoding} {column name type : String} {a : V.Value type}
    {codec : Codec (V.Value type)} (hname : known.lookup name = some (.source type a))
    (hcodec : V.codec? encoding type = some codec) :
    Term.datum? V known (.encoded encoding column name) =
      some (.encoded (codec.encodeColumn column a)) := by
  simp only [Term.datum?, hname, hcodec, Option.map_some]

/-- The natural order goes by the clustering columns of the record's mapping. -/
theorem call?_naturalOrder {record : String} {m : Mapping} (h : V.mapping? record = some m) :
    Action.call? V [] (.set (.naturalOrder record)) =
      some (.orderByClustering m.clusteringColumns .ascending) := by
  show (V.mapping? record).map _ = _
  rw [h]
  rfl

theorem call?_reversedOrder {record : String} {m : Mapping} (h : V.mapping? record = some m) :
    Action.call? V [] (.set (.reversedOrder record)) =
      some (.orderByClustering m.clusteringColumns .descending) := by
  show (V.mapping? record).map _ = _
  rw [h]
  rfl

/-- The vocabulary of whole numbers, which the built-in codecs carry; it knows no record. -/
def wholeNumbers : Vocabulary where
  Value _ := Data
  spoken _ := Data.spoken
  codec? encoding type :=
    ([("i8", .tinyint), ("i16", .smallint), ("i32", .int), ("i64", .bigint)].lookup type).bind
      fun t =>
        if encoding = .builtIn type
            ∨ encoding = .codec (Source.core "codec :: NativeCodec < " ++ type ++ " >") then
          some (.native t)
        else none
  mapping? _ := none

/-! ## 3. What a call adds -/

/-- The clause that a method of a query adds to. -/
def QueryMethod.clause? : QueryMethod → Option Query.Clause
  | .projectFunction => some .projection
  | .relation | .rangeRelations | .indexRelation | .indexRelationPair => some .relations
  | .assignment | .assignmentLiteral => some .assignments
  | .condition => some .conditions
  | _ => none

/-- The texts of the relations that it adds, if these are its arguments. -/
def QueryMethod.relations : QueryMethod → List (List (Datum V)) → List String
  | .relation, [.text s] :: _ | .indexRelation, [.text s] :: _
  | .indexRelationPair, [.text s] :: _ => [s]
  | .rangeRelations, [_, .text s :: _, .text t :: _] => [s, t]
  | _, _ => []

/-- **A method of a query adds to one clause**, and its arguments have the texts of relations. -/
theorem QueryMethod.adds_of_call? {method : QueryMethod} {arguments : List (List (Datum V))}
    {c : Query.Call} (h : method.call? V arguments = some c) :
    c.clause? = method.clause? ∧ (c.pushes .relations).map (·.text) = method.relations arguments
      ∧ (method.clause? = some .assignments → c.pushes .assignments ≠ [])
      ∧ (c = .ifExists → method = .ifExists) := by
  unfold QueryMethod.call? at h
  split at h
  all_goals simp only [Option.map_eq_some_iff, Option.bind_eq_some_iff, Option.some.injEq,
    reduceCtorEq] at h
  -- the operands of a call play no part in what is asked
  all_goals first
    | subst h
    | obtain ⟨_, -, rfl⟩ := h
    | obtain ⟨_, -, _, -, rfl⟩ := h
  all_goals simp [QueryMethod.clause?, QueryMethod.relations, Query.Call.clause?,
    Query.Call.pushes, Query.Call.added, Query.fragment]

/-- A row of arguments that begins with a text. -/
theorem exists_of_mapM_quoted {text : String} {rows : List (List Term)}
    {arguments : List (List (Datum V))}
    (h : ([.quoted text] :: rows).mapM (fun ts => ts.mapM (Term.datum? V known)) =
      some arguments) : ∃ more, arguments = [.text text] :: more := by
  simp only [List.mapM_cons, List.mapM_nil, Term.datum?_quoted, Option.pure_def,
    Option.bind_eq_bind, Option.bind_some, Option.bind_eq_some_iff, Option.some.injEq] at h
  obtain ⟨more, -, rfl⟩ := h
  exact ⟨more, rfl⟩

/-- The call of an action is one of its body's method. -/
theorem Action.exists_of_call? {a : Action} {given : List (Datum V)} {c : Query.Call}
    (h : a.call? V given = some c) :
    ∃ known arguments,
      a.body.arguments.mapM (fun ts => ts.mapM (Term.datum? V known)) = some arguments
        ∧ a.body.method.call? V arguments = some c := by
  simp only [Action.call?, Body.call?, Option.bind_eq_bind, Option.bind_eq_some_iff] at h
  obtain ⟨-, -, known, -, arguments, harguments, hcall⟩ := h
  exact ⟨known, arguments, harguments, hcall⟩

end WideColumn.Builder
