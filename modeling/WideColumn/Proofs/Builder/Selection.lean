/-
# Selections by a key

A SELECTION is what a reader of one partition says: the partition key, clustering values that are
equated, bounds on the clustering column after them, which bounds belong to it, and a direction.
A select chain says it by methods: an equality for each column in turn, a method for the bounds
whose name tells the comparisons, and an order.

What the reader gives for a column is an INPUT: a source of the field's own type, of which the
field's codec makes a value.  The methods are given the sources, and encode them themselves.

Such a chain is there for every selection that fits its table (`chain_of_selection`): the states of
the key columns follow one another, and every shape of bounds is legal on every clustering column.
-/
import Mathlib.Data.List.Forall2
import WideColumn.Builder.Reading
import WideColumn.Proofs.Builder.Chain
import WideColumn.Proofs.Key.Shape

namespace WideColumn

open WideColumn.Key

/-- The operand that a value was bound from. -/
def Bound.operand (b : Bound) : Operand := ⟨b.spoken, .ok b.value⟩

/-- The ending of the names of methods that compare. -/
def Key.Operator.suffix : Operator → String
  | .eq => "_eq"
  | .gt => "_gt"
  | .ge => "_gte"
  | .lt => "_lt"
  | .le => "_lte"

namespace Builder

/-! ## 1. Inputs -/

/-- What is given for a column: a source of a type, and the value that it is stored as. -/
structure Input (V : Vocabulary) where
  type : String
  source : V.Value type
  value : Value

namespace Input

variable {V : Vocabulary}

/-- What a method is given. -/
def datum (i : Input V) : Datum V := .source i.type i.source

/-- What the statement binds. -/
def bound (i : Input V) : Bound := ⟨V.spoken i.type i.source, i.value⟩

/-- **An input fits a field** if it is of the field's type, and its value is what the field's codec
encodes it as. -/
structure Fits (i : Input V) (f : PlannedField) : Prop where
  type : i.type = f.type
  encodes : ∃ codec, V.codec? (.codec f.codec) i.type = some codec
    ∧ codec.encode i.source = .ok i.value

variable {i j : Input V} {f : PlannedField}

/-- The parameter of a field takes an input that fits. -/
theorem Fits.hasType (h : i.Fits f) : i.datum.hasType f.type = true := by
  simp [datum, Datum.hasType, h.type]

/-- The field's codec encodes it under whatever name it is known. -/
theorem Fits.datum?_encoded (h : i.Fits f) {known : List (String × Datum V)} {name : String}
    (hname : known.lookup name = some i.datum) :
    Term.datum? V known (f.operand name).encoded = some (.encoded (.ok i.value)) := by
  obtain ⟨codec, hcodec, hencode⟩ := h.encodes
  have hencoded : Term.datum? V known (f.operand name).encoded =
      some (.encoded (codec.encodeColumn f.column i.source)) := Term.datum?_encoded hname hcodec
  rw [hencoded, Codec.encodeColumn, hencode]
  rfl

theorem datum?_borrowed (f : PlannedField) (name : String) (known : List (String × Datum V)) :
    Term.datum? V known (f.operand name).borrowed = known.lookup name := rfl

/-- What a statement binds of it. -/
theorem operand?_datum (i : Input V) :
    i.datum.operand? (.encoded (.ok i.value)) = some i.bound.operand := rfl

/-- **A relation binds what it is given, encoded by the field's codec.** -/
theorem Fits.call?_relate (h : i.Fits f) (text : String) :
    Action.call? V [i.datum] (.relate text (f.operand "value")) =
      some (.relate text i.bound.operand) := by
  have hreceived : receive? V (Action.relate text (f.operand "value")).parameters [i.datum] =
      some [("value", i.datum)] := by
    simp [receive?, Action.parameters, Operand.typed, PlannedField.operand, h.hasType]
  have hvalue : [("value", i.datum)].lookup "value" = some i.datum := rfl
  have hencoded := h.datum?_encoded hvalue
  simp only [Action.call?, hreceived, Option.bind_some, Body.call?, Action.body, learn?,
    List.mapM_cons, List.mapM_nil, Term.datum?_quoted, datum?_borrowed, hvalue, hencoded,
    Option.pure_def, Option.bind_eq_bind, QueryMethod.call?, operand?_datum, Option.map_some]

/-- So do the two relations of bounds. -/
theorem Fits.call?_relateRange (h : i.Fits f) (h' : j.Fits f) (position : Nat)
    (lowerText upperText : String) :
    Action.call? V [i.datum, j.datum]
        (.relateRange position lowerText upperText (f.operand "lower") (f.operand "upper")) =
      some (.relateRange position lowerText i.bound.operand upperText j.bound.operand) := by
  have hreceived : receive? V (Action.relateRange position lowerText upperText (f.operand "lower")
      (f.operand "upper")).parameters [i.datum, j.datum] =
      some [("lower", i.datum), ("upper", j.datum)] := by
    simp [receive?, Action.parameters, Operand.typed, PlannedField.operand, h.hasType, h'.hasType]
  -- both bounds are encoded before the call, the lower one first
  obtain ⟨known, hknown⟩ : ∃ known, known = [("high", Datum.encoded (.ok j.value)),
      ("low", .encoded (.ok i.value)), ("lower", i.datum), ("upper", j.datum)] := ⟨_, rfl⟩
  have hlearnt : learn? V [("lower", i.datum), ("upper", j.datum)]
      [("low", (f.operand "lower").encoded), ("high", (f.operand "upper").encoded)] =
        some known := by
    have hlower : [("lower", i.datum), ("upper", j.datum)].lookup "lower" = some i.datum := rfl
    have hupper : [("low", Datum.encoded (.ok i.value)), ("lower", i.datum),
        ("upper", j.datum)].lookup "upper" = some j.datum := rfl
    simp only [learn?, h.datum?_encoded hlower, h'.datum?_encoded hupper, Option.bind_some, hknown]
  have hlower : known.lookup "lower" = some i.datum := by rw [hknown]; rfl
  have hupper : known.lookup "upper" = some j.datum := by rw [hknown]; rfl
  have hlow : known.lookup "low" = some (.encoded (.ok i.value)) := by rw [hknown]; rfl
  have hhigh : known.lookup "high" = some (.encoded (.ok j.value)) := by rw [hknown]; rfl
  simp only [Action.call?, hreceived, Option.bind_some, Body.call?, Action.body, hlearnt,
    List.mapM_cons, List.mapM_nil, Term.datum?_owned, Term.datum?_place, Term.datum?_known,
    datum?_borrowed, hlower, hupper, hlow, hhigh, Option.pure_def, Option.bind_eq_bind,
    QueryMethod.call?, operand?_datum, Option.map_some]

end Input

/-! ## 2. Selections -/

/-- What a reader of one partition says, with something for each column. -/
structure Selection (α : Type) where
  /-- For the partition columns. -/
  keys : List α
  /-- For the clustering columns that are equated. -/
  fixed : List α
  lower : Option α
  upper : Option α
  bounding : Bounding
  direction : Direction

/-- Equalities of partition columns, each of which leads to the next one. -/
def equatePartition {V : Vocabulary} (p : Plan) (family after : String) :
    List PlannedField → List (Input V) → List (Use V)
  | f :: fs, i :: is =>
    ⟨equate f f.name (p.stateForFirst family fs after), [i.datum]⟩
      :: equatePartition p family after fs is
  | _, _ => []

/-- Equalities of clustering columns. -/
def equateClustering {V : Vocabulary} (p : Plan) (family last : String) :
    List PlannedField → List (Input V) → List (Use V)
  | f :: fs, i :: is =>
    ⟨equate f (f.name ++ "_eq") (p.stateForFirst family fs last), [i.datum]⟩
      :: equateClustering p family last fs is
  | _, _ => []

/-- The method that bounds a column on the sides of a shape. -/
def boundMethod (f : PlannedField) (position : Nat) (next : String) (bounding : Bounding)
    (shape : SliceShape) : Method :=
  let start := bounding.startOperator
  let stop := bounding.endOperator
  match shape.lower, shape.upper with
  | true, false => bound f start.suffix start.symbol next
  | false, true => bound f stop.suffix stop.symbol next
  | _, _ =>
    boundBoth f position (start.suffix ++ "_and" ++ stop.suffix) start.symbol stop.symbol next

/-- The equalities of columns with values, as calls. -/
def equalityCalls (fs : List PlannedField) (bs : List Bound) : List Query.Call :=
  List.zipWith (fun f b => .relate (f.relation "=") b.operand) fs bs

/-- The method that orders the rows. -/
def orderSetting (p : Plan) : Direction → Setting
  | .ascending => .naturalOrder p.name
  | .descending => .reversedOrder p.name

namespace Selection

variable {α β : Type}

/-- The same with something else for each column. -/
def map (f : α → β) (s : Selection α) : Selection β :=
  ⟨s.keys.map f, s.fixed.map f, s.lower.map f, s.upper.map f, s.bounding, s.direction⟩

/-- Which sides are bounded. -/
def shape (s : Selection α) : SliceShape := ⟨s.lower.isSome, s.upper.isSome⟩

/-- The place in the key of the column that is bounded. -/
def position (s : Selection α) : Nat := s.fixed.length + 1

/-- **A selection fits a table** if there is an input for each partition column, for the first
clustering columns, and for a bound of the next. -/
structure Fits {V : Vocabulary} (s : Selection (Input V)) (p : Plan) : Prop where
  keys : List.Forall₂ Input.Fits s.keys p.partition
  fixed : List.Forall₂ Input.Fits s.fixed (p.clustering.take s.fixed.length)
  bounds : ∃ f, p.clustering[s.fixed.length]? = some f
    ∧ (∀ i ∈ s.lower, i.Fits f) ∧ ∀ i ∈ s.upper, i.Fits f

/-- The uses of a select chain that say a selection. -/
def uses {V : Vocabulary} (s : Selection (Input V)) (p : Plan) : List (Use V) :=
  let family := selectFamily false
  let last := p.lastState family
  equatePartition p family (p.stateForFirst family p.clustering last) p.partition s.keys
    ++ equateClustering p family last p.clustering s.fixed
    ++ ((p.clustering[s.fixed.length]?).map fun f =>
      ⟨boundMethod f s.position last s.bounding s.shape,
        (s.lower.toList ++ s.upper.toList).map Input.datum⟩).toList
    ++ [⟨setting (orderSetting p s.direction), []⟩]

/-- The bounds of a column, as calls. -/
def boundCalls (s : Selection Bound) (f : PlannedField) : List Query.Call :=
  let start := f.relation s.bounding.startOperator.symbol
  let stop := f.relation s.bounding.endOperator.symbol
  match s.lower, s.upper with
  | some a, some b => [.relateRange s.position start a.operand stop b.operand]
  | some a, none => [.relate start a.operand]
  | none, some b => [.relate stop b.operand]
  | none, none => []

/-- The calls that those uses make. -/
def calls (s : Selection Bound) (p : Plan) (m : Mapping) : List Query.Call :=
  equalityCalls p.partition s.keys ++ equalityCalls p.clustering s.fixed
    ++ (p.clustering[s.fixed.length]?).toList.flatMap s.boundCalls
    ++ [.orderByClustering m.clusteringColumns s.direction]

end Selection

/-! ## 3. Equalities -/

variable {V : Vocabulary} {states : List State} {p : Plan} {family last after : String}

/-- The states of the partition columns lead from one to the next. -/
theorem chain_equatePartition {first : Bool} {fs : List PlannedField} {is : List (Input V)}
    (hfits : List.Forall₂ Input.Fits is fs)
    (hstates : ∀ s ∈ partitionStates p family after first fs, s ∈ states) :
    Chain V states (p.stateForFirst family fs after) (equatePartition p family after fs is)
      (equalityCalls fs (is.map Input.bound)) after := by
  induction hfits generalizing first with
  | nil => exact .nil after
  | @cons i f is fs hfit _ ih =>
    have hmore : ∀ s ∈ partitionStates p family after false fs, s ∈ states :=
      fun s hs => hstates s (List.mem_cons_of_mem _ hs)
    have hstate := hstates _ List.mem_cons_self
    have hfirst : Chain V states (p.stateFor family f)
        [⟨equate f f.name (p.stateForFirst family fs after), [i.datum]⟩]
        [.relate (f.relation "=") i.bound.operand] (p.stateForFirst family fs after) :=
      Chain.single hstate (by simp [equate]) (hfit.call?_relate _)
    exact hfirst.append (ih hmore)

/-- The states of the clustering columns lead from one to the next, and any of them may go on by
bounds of its own column. -/
theorem chain_equateClustering {lastMethods : List Method} {fs : List PlannedField}
    {is : List (Input V)} {position : Nat} {f : PlannedField} (hf : fs[is.length]? = some f)
    (hfits : List.Forall₂ Input.Fits is (fs.take is.length))
    (hstates : ∀ s ∈ clusteringStates p family last lastMethods position fs, s ∈ states) :
    ∃ s ∈ states, (∀ method ∈ boundMethods f (position + is.length) last, method ∈ s.methods) ∧
      Chain V states (p.stateForFirst family fs last) (equateClustering p family last fs is)
        (equalityCalls fs (is.map Input.bound)) s.name := by
  induction fs generalizing is position with
  | nil => simp at hf
  | cons g fs ih =>
    have hstate := hstates _ List.mem_cons_self
    cases is with
    | nil =>
      obtain rfl : g = f := by simpa using hf
      refine ⟨_, hstate, ?_, .nil _⟩
      intro method hmethod
      exact List.mem_cons_of_mem _ (List.mem_append_left _ hmethod)
    | cons i is =>
      obtain ⟨hfit, hfits⟩ := List.forall₂_cons.mp hfits
      have hmore : ∀ s ∈ clusteringStates p family last lastMethods (position + 1) fs,
          s ∈ states := fun s hs => hstates s (List.mem_cons_of_mem _ hs)
      have hfirst : Chain V states (p.stateFor family g)
          [⟨equate g (g.name ++ "_eq") (p.stateForFirst family fs last), [i.datum]⟩]
          [.relate (g.relation "=") i.bound.operand] (p.stateForFirst family fs last) :=
        Chain.single hstate List.mem_cons_self (hfit.call?_relate _)
      obtain ⟨s, hs, hbounds, hrest⟩ := ih (by simpa using hf) hfits hmore
      refine ⟨s, hs, ?_, hfirst.append hrest⟩
      intro method hmethod
      exact hbounds method (by rwa [Nat.add_right_comm, Nat.add_assoc])

/-! ## 4. Bounds -/

/-- The method of some bounds is one of the methods of their column. -/
theorem boundMethod_mem {f : PlannedField} {position : Nat} {next : String} {shape : SliceShape}
    (h : position ≠ 0) (hshape : shape ∈ SliceShape.all) (bounding : Bounding) :
    boundMethod f position next bounding shape ∈ boundMethods f position next := by
  refine List.mem_flatMap.mpr ⟨shape, mem_legalShapes_of_ne_zero h shape hshape, ?_⟩
  simp only [SliceShape.all, List.mem_cons, List.not_mem_nil, or_false] at hshape
  rcases hshape with rfl | rfl | rfl
  · cases bounding <;> simp [boundMethod, boundsOfShape, SliceShape.atMost, Bounding.endOperator,
      Operator.suffix, Operator.symbol]
  · cases bounding <;> simp [boundMethod, boundsOfShape, SliceShape.atLeast,
      Bounding.startOperator, Operator.suffix, Operator.symbol]
  · cases bounding <;> simp [boundMethod, boundsOfShape, SliceShape.between,
      Bounding.startOperator, Bounding.endOperator, Operator.suffix, Operator.symbol]

/-- A selection with a bound on some side has one of the shapes. -/
theorem Selection.shape_mem {α : Type} {s : Selection α} (h : s.lower ≠ none ∨ s.upper ≠ none) :
    s.shape ∈ SliceShape.all := by
  cases hlower : s.lower <;> cases hupper : s.upper <;>
    simp_all [Selection.shape, SliceShape.all, SliceShape.atMost, SliceShape.atLeast,
      SliceShape.between]

/-- The method of bounds makes their call and ends the key. -/
theorem chain_boundMethod {s : Selection (Input V)} {state : State} {f : PlannedField}
    (hstate : state ∈ states) (hlower : ∀ i ∈ s.lower, i.Fits f) (hupper : ∀ i ∈ s.upper, i.Fits f)
    (hsome : s.lower ≠ none ∨ s.upper ≠ none)
    (hmethods : ∀ method ∈ boundMethods f s.position last, method ∈ state.methods) :
    Chain V states state.name [⟨boundMethod f s.position last s.bounding s.shape,
      (s.lower.toList ++ s.upper.toList).map Input.datum⟩] ((s.map Input.bound).boundCalls f)
      last := by
  have hmem : boundMethod f s.position last s.bounding s.shape ∈ state.methods :=
    hmethods _ (boundMethod_mem (Nat.succ_ne_zero _) (Selection.shape_mem hsome) s.bounding)
  obtain ⟨keys, fixed, lower, upper, bounding, direction⟩ := s
  cases lower with
  | none =>
    cases upper with
    | none => simp at hsome
    | some b => exact Chain.single hstate hmem ((hupper b rfl).call?_relate _)
  | some a =>
    cases upper with
    | none => exact Chain.single hstate hmem ((hlower a rfl).call?_relate _)
    | some b =>
      simp only [Selection.boundCalls, Selection.map, Selection.position, List.length_map,
        Option.map_some]
      exact Chain.single hstate hmem ((hlower a rfl).call?_relateRange (hupper b rfl) _ _ _)

/-! ## 5. Whole selections -/

/-- The last state of a select chain, where there is an order to choose. -/
def lastSelectState (p : Plan) : State :=
  ⟨p.lastState (selectFamily false), readMethods p false true⟩

theorem lastSelectState_mem (h : p.clustering ≠ []) : lastSelectState p ∈ selectStates p false := by
  have hsome : (!p.clustering.isEmpty) = true := by simpa using h
  simp [lastSelectState, selectStates, hsome]

theorem orderSetting_mem (d : Direction) :
    setting (orderSetting p d) ∈ (lastSelectState p).methods := by
  cases d <;> simp [lastSelectState, readMethods, orderSetting]

/-- **A select chain says every selection that fits its table.** -/
theorem chain_of_selection {s : Selection (Input V)} {m : Mapping} (hpartition : p.partition ≠ [])
    (hrecord : V.mapping? p.name = some m) (hfits : s.Fits p)
    (hsome : s.lower ≠ none ∨ s.upper ≠ none) :
    Chain V (selectStates p false) (selectEntry p false) (s.uses p)
      ((s.map Input.bound).calls p m) (lastSelectState p).name := by
  obtain ⟨f, hvarying, hlower, hupper⟩ := hfits.bounds
  have hclustering : p.clustering ≠ [] := by
    intro hnone
    simp [hnone] at hvarying
  have hentry : selectEntry p false = p.stateForFirst (selectFamily false) p.partition
      (p.stateForFirst (selectFamily false) p.clustering (p.lastState (selectFamily false))) := by
    obtain ⟨f, fs, hfs⟩ := List.exists_cons_of_ne_nil hpartition
    rw [selectEntry, hfs]
    rfl
  -- the states of the two parts of the key are states of the family
  have hpart : ∀ state ∈ partitionStates p (selectFamily false)
      (p.stateForFirst (selectFamily false) p.clustering (p.lastState (selectFamily false))) true
      p.partition, state ∈ selectStates p false :=
    fun state h => List.mem_append_left _ (List.mem_append_left _ h)
  have hclust : ∀ state ∈ clusteringStates p (selectFamily false)
      (p.lastState (selectFamily false)) (readMethods p false (!p.clustering.isEmpty)) 1
      p.clustering, state ∈ selectStates p false :=
    fun state h => List.mem_append_left _ (List.mem_append_right _ h)
  obtain ⟨state, hstate, hbounds, hequal⟩ := chain_equateClustering hvarying hfits.fixed hclust
  rw [Nat.add_comm] at hbounds
  have hbound : Chain V (selectStates p false) state.name _ _ (lastSelectState p).name :=
    chain_boundMethod hstate hlower hupper hsome hbounds
  have horder : Chain V (selectStates p false) (lastSelectState p).name
      [⟨setting (orderSetting p s.direction), []⟩]
      [.orderByClustering m.clusteringColumns s.direction] (lastSelectState p).name := by
    refine Chain.staying (lastSelectState_mem hclustering) (orderSetting_mem s.direction) ?_
    cases s.direction
    · exact call?_naturalOrder hrecord
    · exact call?_reversedOrder hrecord
  have hposition : (s.map Input.bound).fixed.length = s.fixed.length := List.length_map _
  rw [hentry, Selection.uses, Selection.calls, hposition, hvarying]
  simp only [Option.map_some, Option.toList_some, List.flatMap_cons, List.flatMap_nil,
    List.append_nil]
  exact (((chain_equatePartition hfits.keys hpart).append hequal).append hbound).append horder

end Builder

end WideColumn
