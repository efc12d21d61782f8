/-
# Markers and what they mark

Unwrapping a type takes its MARKERS off, `frozen` and `indexed`, and leaves its CONSTRUCTORS.  Every
part of a type stands in a context, the frames around it (`occurrences`), and the context alone
decides what becomes of the part.

* A constructor becomes a node of the shape.  It is frozen if one of the frames around it is, and
  its depth is the number of constructors around it (`Context.place`).
* An `indexed` becomes one index marker: on the whole value if only markers lie around it, on the
  element, key or value if it stands right inside the outermost constructor, and misplaced anywhere
  else (`Context.marker`).

Both hold of unwrapping in any context (`nodes_unwrap`, `markers_unwrap`).  For the markers the
statement has to know of the frame right around the part: a list, set or map replaces the marker
that its part has noted first.
-/
import Mathlib.Data.List.Basic
import WideColumn.Type.Unwrap

namespace WideColumn

namespace TypeExpr

variable {e : TypeExpr}

/-! ## 1. Parts of a type and the contexts they stand in -/

/-- What lies right around a part of a type. -/
inductive Frame where
  | list
  | set
  | key
  | value
  | item
  | frozen
  | indexed
  deriving DecidableEq

namespace Frame

def isMarker : Frame → Bool
  | frozen | indexed => true
  | list | set | key | value | item => false

/-- The index that a marker asks for right inside a frame, if only markers lie around the frame. -/
def marker : Frame → Marker
  | list | set => some (.element, .collection)
  | key => some (.mapKey, .mapKey)
  | value => some (.mapValue, .mapValue)
  | item => none
  | frozen | indexed => some (.field, .normal)

end Frame

/-- The frames around a part of a type, from the inside out. -/
abbrev Context := List Frame

namespace Context

/-- Whether something around the part is marked as frozen. -/
def frozen (context : Context) : Bool := context.contains .frozen

/-- How many constructors lie around the part. -/
def depth (context : Context) : Nat := context.countP (!·.isMarker)

/-- Where a node of a shape stands. -/
def place (context : Context) : Place := ⟨context.frozen, context.depth⟩

/-- The index that a marker asks for. -/
def marker : Context → Marker
  | [] => some (.field, .normal)
  | frame :: outer => if outer.all Frame.isMarker then frame.marker else none

/-- Only markers lie around the part. -/
def AroundRoot (context : Context) : Prop := ∀ frame ∈ context, frame.isMarker = true

/-- The part is the element, a key or a value of the outermost constructor. -/
def InsideRoot : Context → Prop
  | [] => False
  | frame :: outer => frame ∈ [Frame.list, .set, .key, .value] ∧ AroundRoot outer

end Context

mutual

/-- Every part of a type with its context, in the order of the text. -/
def occurrences (context : Context) : TypeExpr → List (TypeExpr × Context)
  | scalar s => [(scalar s, context)]
  | counter => [(counter, context)]
  | udt name => [(udt name, context)]
  | list e => (list e, context) :: occurrences (.list :: context) e
  | set e => (set e, context) :: occurrences (.set :: context) e
  | map k v => (map k v, context)
      :: (occurrences (.key :: context) k ++ occurrences (.value :: context) v)
  | tuple es => (tuple es, context) :: occurrencesAll (.item :: context) es
  | frozen e => (frozen e, context) :: occurrences (.frozen :: context) e
  | indexed e => (indexed e, context) :: occurrences (.indexed :: context) e

/-- Every part of a row of types in one context. -/
def occurrencesAll (context : Context) : List TypeExpr → List (TypeExpr × Context)
  | [] => []
  | e :: es => occurrences context e ++ occurrencesAll context es

end

/-- Whether a part is there only to mark what it has inside. -/
def isMarker : TypeExpr → Bool
  | frozen _ | indexed _ => true
  | scalar _ | counter | list _ | set _ | map _ _ | tuple _ | udt _ => false

/-- The constructors of a type with their contexts. -/
def constructors (context : Context) (e : TypeExpr) : List (TypeExpr × Context) :=
  (e.occurrences context).filter (!·.1.isMarker)

/-- The constructors of a row of types. -/
def constructorsAll (context : Context) (es : List TypeExpr) : List (TypeExpr × Context) :=
  (occurrencesAll context es).filter (!·.1.isMarker)

/-- The contexts of the index markers of a type. -/
def indexedIn (context : Context) (e : TypeExpr) : List Context :=
  ((e.occurrences context).filter (·.1.isIndexed)).map (·.2)

/-- The contexts of the index markers of a row of types. -/
def indexedInAll (context : Context) (es : List TypeExpr) : List Context :=
  ((occurrencesAll context es).filter (·.1.isIndexed)).map (·.2)

section Parts

variable {context : Context} {k v : TypeExpr} {es : List TypeExpr}

theorem constructors_list : (list e).constructors context =
    (list e, context) :: e.constructors (.list :: context) := rfl

theorem constructors_set : (set e).constructors context =
    (set e, context) :: e.constructors (.set :: context) := rfl

theorem constructors_map : (map k v).constructors context = (map k v, context)
    :: (k.constructors (.key :: context) ++ v.constructors (.value :: context)) := by
  simp [constructors, occurrences, isMarker]

theorem constructors_tuple : (tuple es).constructors context =
    (tuple es, context) :: constructorsAll (.item :: context) es := rfl

theorem constructors_frozen : (frozen e).constructors context =
    e.constructors (.frozen :: context) := rfl

theorem constructors_indexed : (indexed e).constructors context =
    e.constructors (.indexed :: context) := rfl

theorem constructorsAll_cons : constructorsAll context (e :: es) =
    e.constructors context ++ constructorsAll context es := by
  simp [constructors, constructorsAll, occurrencesAll]

theorem indexedIn_list : (list e).indexedIn context = e.indexedIn (.list :: context) := rfl

theorem indexedIn_set : (set e).indexedIn context = e.indexedIn (.set :: context) := rfl

theorem indexedIn_map : (map k v).indexedIn context =
    k.indexedIn (.key :: context) ++ v.indexedIn (.value :: context) := by
  simp [indexedIn, occurrences, isIndexed]

theorem indexedIn_tuple : (tuple es).indexedIn context = indexedInAll (.item :: context) es := rfl

theorem indexedIn_frozen : (frozen e).indexedIn context = e.indexedIn (.frozen :: context) := rfl

theorem indexedIn_indexed : (indexed e).indexedIn context =
    context :: e.indexedIn (.indexed :: context) := rfl

theorem indexedInAll_cons : indexedInAll context (e :: es) =
    e.indexedIn context ++ indexedInAll context es := by
  simp [indexedIn, indexedInAll, occurrencesAll]

end Parts

/-! ## 2. What a context decides -/

namespace Context

variable {context : Context} {frame : Frame}

theorem frozen_cons (h : frame.isMarker = false) :
    frozen (frame :: context) = context.frozen := by
  cases frame with
  | frozen | indexed => cases h
  | list | set | key | value | item => rfl

theorem depth_cons (h : frame.isMarker = false) :
    depth (frame :: context) = context.depth + 1 := by
  simp [depth, h]

theorem frozen_cons_frozen : frozen (.frozen :: context) = true := rfl

theorem depth_cons_marker (h : frame.isMarker = true) :
    depth (frame :: context) = context.depth := by
  simp [depth, h]

theorem all_isMarker_iff : context.all Frame.isMarker = true ↔ context.depth = 0 := by
  simp [depth, List.countP_eq_zero]

/-- A marker right inside a frame of a part that an index can cover. -/
theorem marker_cons {slot : IndexSlot} {kind : IndexKind} (h : frame.marker = some (slot, kind)) :
    marker (frame :: context) = partMarker context.depth slot kind := by
  simp only [marker, all_isMarker_iff, h, partMarker, beq_iff_eq]

theorem marker_cons_item : marker (.item :: context) = none := by
  simp [marker, Frame.marker]

/-- Misplaced are the markers that are neither around the root nor right inside it. -/
theorem marker_eq_none_iff :
    context.marker = none ↔ ¬ context.AroundRoot ∧ ¬ context.InsideRoot := by
  cases context with
  | nil => simp [marker, AroundRoot]
  | cons frame outer =>
    simp only [marker, AroundRoot, InsideRoot, ← List.all_eq_true, List.all_cons]
    cases outer.all Frame.isMarker <;> cases frame <;> simp [Frame.marker, Frame.isMarker]

end Context

/-! ## 3. The shape has the constructors of the type -/

mutual

/-- The type without its markers, and with the stored names of user types. -/
def bare (names : TypeNames) : TypeExpr → TypeExpr
  | scalar s => scalar s
  | counter => counter
  | list e => list (bare names e)
  | set e => set (bare names e)
  | map k v => map (bare names k) (bare names v)
  | tuple es => tuple (bareAll names es)
  | frozen e | indexed e => bare names e
  | udt name => udt (names.stored name)

/-- The types of a row without their markers. -/
def bareAll (names : TypeNames) : List TypeExpr → List TypeExpr
  | [] => []
  | e :: es => bare names e :: bareAll names es

end

end TypeExpr

namespace Shape

mutual

/-- The constructors of a shape, as a type. -/
def bare : Shape → TypeExpr
  | scalar _ s => .scalar s
  | counter _ => .counter
  | list _ e => .list (bare e)
  | set _ e => .set (bare e)
  | map _ k v => .map (bare k) (bare v)
  | tuple _ es => .tuple (bareAll es)
  | udt _ name => .udt name

/-- The constructors of a row of shapes. -/
def bareAll : List Shape → List TypeExpr
  | [] => []
  | s :: ss => bare s :: bareAll ss

end

mutual

/-- Every node of a shape, in the order of the text. -/
def nodes : Shape → List Shape
  | scalar p s => [scalar p s]
  | counter p => [counter p]
  | udt p name => [udt p name]
  | list p e => list p e :: nodes e
  | set p e => set p e :: nodes e
  | map p k v => map p k v :: (nodes k ++ nodes v)
  | tuple p es => tuple p es :: nodesAll es

/-- Every node of a row of shapes. -/
def nodesAll : List Shape → List Shape
  | [] => []
  | s :: ss => nodes s ++ nodesAll ss

end

end Shape

namespace TypeExpr

mutual

/-- Unwrapping keeps the constructors. -/
theorem bare_unwrap (names : TypeNames) (frozen : Bool) (depth : Nat) :
    (e : TypeExpr) → (e.unwrap names frozen depth).1.bare = e.bare names
  | scalar _ | counter | udt _ => rfl
  | list e | set e => by simp [unwrap, bare, Shape.bare, bare_unwrap]
  | map k v => by simp [unwrap, bare, Shape.bare, bare_unwrap]
  | tuple es => by simp [unwrap, bare, Shape.bare, bareAll_unwrapAll]
  | .frozen e => by simp [unwrap, bare, bare_unwrap]
  | indexed e => by simp [unwrap, bare, bare_unwrap]

theorem bareAll_unwrapAll (names : TypeNames) (frozen : Bool) (depth : Nat) :
    (es : List TypeExpr) →
      Shape.bareAll (unwrapAll names frozen depth es).1 = bareAll names es
  | [] => rfl
  | e :: es => by simp [unwrapAll, bareAll, Shape.bareAll, bare_unwrap, bareAll_unwrapAll]

end

/-! ## 4. Every node stands where its context puts it -/

mutual

/-- **The nodes of an unwrapped type are its constructors**, each where its context puts it. -/
theorem nodes_unwrap (names : TypeNames) : (e : TypeExpr) → (context : Context) →
    (e.unwrap names context.frozen context.depth).1.nodes.map (fun node => (node.bare, node.place))
      = (e.constructors context).map fun part => (part.1.bare names, part.2.place)
  | scalar _, context | counter, context | udt _, context => rfl
  | list e, context => by
    have ih := nodes_unwrap names e (.list :: context)
    rw [Context.frozen_cons rfl, Context.depth_cons rfl] at ih
    rw [constructors_list, List.map_cons, ← ih, ← bare_unwrap names context.frozen context.depth]
    rfl
  | set e, context => by
    have ih := nodes_unwrap names e (.set :: context)
    rw [Context.frozen_cons rfl, Context.depth_cons rfl] at ih
    rw [constructors_set, List.map_cons, ← ih, ← bare_unwrap names context.frozen context.depth]
    rfl
  | map k v, context => by
    have ihKey := nodes_unwrap names k (.key :: context)
    have ihValue := nodes_unwrap names v (.value :: context)
    rw [Context.frozen_cons rfl, Context.depth_cons rfl] at ihKey ihValue
    rw [constructors_map, List.map_cons, List.map_append, ← ihKey, ← ihValue, ← List.map_append,
      ← bare_unwrap names context.frozen context.depth]
    rfl
  | tuple es, context => by
    have ih := nodesAll_unwrapAll names es (.item :: context)
    rw [Context.frozen_cons rfl, Context.depth_cons rfl] at ih
    rw [constructors_tuple, List.map_cons, ← ih, ← bare_unwrap names context.frozen context.depth]
    rfl
  | .frozen e, context => by
    have ih := nodes_unwrap names e (.frozen :: context)
    rw [Context.frozen_cons_frozen, Context.depth_cons_marker rfl] at ih
    rw [constructors_frozen, ← ih]
    rfl
  | indexed e, context => by
    have ih := nodes_unwrap names e (.indexed :: context)
    rw [Context.depth_cons_marker rfl] at ih
    rw [constructors_indexed, ← ih]
    rfl

theorem nodesAll_unwrapAll (names : TypeNames) : (es : List TypeExpr) → (context : Context) →
    (Shape.nodesAll (unwrapAll names context.frozen context.depth es).1).map
        (fun node => (node.bare, node.place))
      = (constructorsAll context es).map fun part => (part.1.bare names, part.2.place)
  | [], _ => rfl
  | e :: es, context => by
    rw [constructorsAll_cons, List.map_append, ← nodes_unwrap names e context,
      ← nodesAll_unwrapAll names es context, ← List.map_append]
    rfl

end

/-! ## 5. Every index marker is noted once -/

/-- A part with nothing right around it that would replace its marker keeps it. -/
theorem replaceMarker_own (names : TypeNames) (frozen : Bool) (depth : Nat) (e : TypeExpr) :
    replaceMarker e (partMarker depth .field .normal) (e.unwrap names frozen depth).2
      = (e.unwrap names frozen depth).2 := by
  cases e <;> rfl

mutual

/-- **The index markers of a type are those its contexts ask for**, in the order of the text.  By
induction on the type, in any context.  The frame right around decides first: a list, set or map
replaces the marker of its part, and `replaceMarker` is the identity elsewhere. -/
theorem markers_unwrap (names : TypeNames) : (e : TypeExpr) → (context : Context) →
    replaceMarker e context.marker (e.unwrap names context.frozen context.depth).2
      = (e.indexedIn context).map Context.marker
  | scalar _, context | counter, context | udt _, context => rfl
  | list e, context => by
    have ih := markers_unwrap names e (.list :: context)
    rw [Context.frozen_cons rfl, Context.depth_cons rfl, Context.marker_cons rfl] at ih
    rw [indexedIn_list, ← ih]
    rfl
  | set e, context => by
    have ih := markers_unwrap names e (.set :: context)
    rw [Context.frozen_cons rfl, Context.depth_cons rfl, Context.marker_cons rfl] at ih
    rw [indexedIn_set, ← ih]
    rfl
  | map k v, context => by
    have ihKey := markers_unwrap names k (.key :: context)
    have ihValue := markers_unwrap names v (.value :: context)
    rw [Context.frozen_cons rfl, Context.depth_cons rfl, Context.marker_cons rfl] at ihKey ihValue
    rw [indexedIn_map, List.map_append, ← ihKey, ← ihValue]
    rfl
  | tuple es, context => by
    rw [indexedIn_tuple, ← markersAll_unwrapAll names es context]
    rfl
  | .frozen e, context => by
    have ih := markers_unwrap names e (.frozen :: context)
    rw [Context.frozen_cons_frozen, Context.depth_cons_marker rfl, Context.marker_cons rfl,
      replaceMarker_own] at ih
    rw [indexedIn_frozen, ← ih]
    rfl
  | indexed e, context => by
    have ih := markers_unwrap names e (.indexed :: context)
    rw [Context.depth_cons_marker rfl, Context.marker_cons rfl, replaceMarker_own] at ih
    rw [indexedIn_indexed, List.map_cons, ← ih]
    rfl

theorem markersAll_unwrapAll (names : TypeNames) : (es : List TypeExpr) → (context : Context) →
    (unwrapAll names context.frozen (context.depth + 1) es).2
      = (indexedInAll (.item :: context) es).map Context.marker
  | [], _ => rfl
  | e :: es, context => by
    have ih := markers_unwrap names e (.item :: context)
    rw [Context.frozen_cons rfl, Context.depth_cons rfl, Context.marker_cons_item] at ih
    have hitem := (replaceMarker_own names context.frozen (context.depth + 1) e).symm.trans ih
    rw [indexedInAll_cons, List.map_append, ← hitem, ← markersAll_unwrapAll names es context]
    rfl

end

mutual

/-- A type mentions an index marker exactly if there is one to be noted. -/
theorem hasIndexMarker_iff : (e : TypeExpr) → (context : Context) →
    (e.hasIndexMarker = true ↔ e.indexedIn context ≠ [])
  | scalar _, _ | counter, _ | udt _, _ => by
    simp [hasIndexMarker, indexedIn, occurrences, isIndexed]
  | list e, context => hasIndexMarker_iff e (.list :: context)
  | set e, context => hasIndexMarker_iff e (.set :: context)
  | map k v, context => by
    rw [hasIndexMarker, Bool.or_eq_true, hasIndexMarker_iff k (.key :: context),
      hasIndexMarker_iff v (.value :: context), indexedIn_map]
    simp only [ne_eq, List.append_eq_nil_iff, not_and_or]
  | tuple es, context => anyIndexMarker_iff es (.item :: context)
  | frozen e, context => hasIndexMarker_iff e (.frozen :: context)
  | indexed e, context => by simp [hasIndexMarker, indexedIn_indexed]

theorem anyIndexMarker_iff : (es : List TypeExpr) → (context : Context) →
    (anyIndexMarker es = true ↔ indexedInAll context es ≠ [])
  | [], _ => by simp [anyIndexMarker, indexedInAll, occurrencesAll]
  | e :: es, context => by
    rw [anyIndexMarker, Bool.or_eq_true, hasIndexMarker_iff e context,
      anyIndexMarker_iff es context, indexedInAll_cons]
    simp only [ne_eq, List.append_eq_nil_iff, not_and_or]

end

/-- **What unwrapping makes of a type.**  The shape is the tree of the constructors.  Every node is
as deep as constructors lie around it, and frozen exactly if a `frozen` does.  For every `indexed`
one marker is noted, with the part and the kind that its context asks for; it is misplaced exactly
if it is neither around the root nor right inside a list, set or map that is the root.  So some
marker is noted exactly if the type mentions one. -/
theorem toShape_exact (names : TypeNames) (e : TypeExpr) :
    (e.toShape names).1.bare = e.bare names
    ∧ (e.toShape names).1.nodes.map (fun node => (node.bare, node.place))
      = (e.constructors []).map (fun part => (part.1.bare names, part.2.place))
    ∧ (e.toShape names).2 = (e.indexedIn []).map Context.marker
    ∧ (∀ context : Context,
        context.marker = none ↔ ¬ context.AroundRoot ∧ ¬ context.InsideRoot)
    ∧ ((e.toShape names).2 ≠ [] ↔ e.hasIndexMarker = true) := by
  have hmarkers : (e.toShape names).2 = (e.indexedIn []).map Context.marker :=
    (replaceMarker_own names false 0 e).symm.trans (markers_unwrap names e [])
  refine ⟨bare_unwrap names false 0 e, nodes_unwrap names e [], hmarkers,
    fun _ => Context.marker_eq_none_iff, ?_⟩
  rw [hmarkers, hasIndexMarker_iff e [], ne_eq, List.map_eq_nil_iff]

/-- A marker on the keys of the outermost map, and one that lies too deep. -/
example : ((map (indexed (scalar .text)) (frozen (list (indexed (scalar .int))))).toShape []).2 =
    [some (.mapKey, .mapKey), none] := by decide

end TypeExpr

end WideColumn
