/-
# The rule about nesting is exact

What lies inside a composite has to be frozen if it is composite itself, and nothing inside it may
count.  The rule goes down a shape with a path in its hand.  It finds as much as there is to find
and no more: one violation for each unfrozen composite and one for each counter strictly below the
outermost node, the first kind with the path of the node (`nestingFaults_perm`).

The rule is asked at three levels.  A column begins below its outermost node, a user type's field,
which is itself inside something, at that node; and a key column has to be frozen at the top as
well.  So in an accepted batch all that is nested is frozen and none of it counts
(`nested_of_load`).
-/
import Mathlib.Data.List.Perm.Basic
import WideColumn.Proofs.Schema.Accepted
import WideColumn.Proofs.Type.Node

namespace WideColumn.Schema

open WideColumn.Shape

/-! ## 1. What is found goes node by node -/

/-- The text of a path that goes on from a place. -/
def descend (place : String) (path : List Step) : String :=
  path.foldl (fun place s => step place s.label) place

theorem flatMap_within {faults : String → Shape → List Violation} {place : String} {s : Step}
    {nodes : List (List Step × Shape)} :
    (within s nodes).flatMap (fun node => faults (descend place node.1) node.2) =
      nodes.flatMap fun node => faults (descend (step place s.label) node.1) node.2 := by
  rw [within, List.flatMap_map]
  rfl

mutual

/-- **What is found inside a composite is what is found on each node**, at its place. -/
theorem nestedFaults_eq : ∀ (s : Shape) {place : String}, nestedFaults place s =
    s.located.flatMap fun node => nodeFaults (descend place node.1) node.2
  | .scalar .., _ | .counter _, _ | .udt .., _ => by
    simp only [nestedFaults, located, List.flatMap_cons, List.flatMap_nil, List.append_nil]
    rfl
  | .list _ e, _ | .set _ e, _ => by
    rw [nestedFaults, located, List.flatMap_cons, flatMap_within, nestedFaults_eq e]
    rfl
  | .map _ k v, _ => by
    rw [nestedFaults, located, List.flatMap_cons, List.flatMap_append, flatMap_within,
      flatMap_within, nestedFaults_eq k, nestedFaults_eq v, List.append_assoc]
    rfl
  | .tuple _ es, _ => by
    rw [nestedFaults, located, List.flatMap_cons, nestedItemFaults_eq es]
    rfl

theorem nestedItemFaults_eq : ∀ (ss : List Shape) {place : String} {n : Nat},
    nestedItemFaults place n ss =
      (locatedItems n ss).flatMap fun node => nodeFaults (descend place node.1) node.2
  | [], _, _ => rfl
  | s :: ss, _, _ => by
    rw [nestedItemFaults, locatedItems, List.flatMap_append, flatMap_within, nestedFaults_eq s,
      nestedItemFaults_eq ss]
    rfl

end

/-- From a place that is not the outermost one, the labels of a path stand behind it. -/
theorem descend_eq {place : String} (h : place ≠ "") (path : List Step) :
    descend place path = ".".intercalate (place :: path.map Step.label) := by
  induction path generalizing place with
  | nil => simp [descend]
  | cons s path ih =>
    have hstep : step place s.label = place ++ "." ++ s.label := by
      simp [step, h]
    have hne : step place s.label ≠ "" := by
      simp [hstep]
    rw [descend, List.foldl_cons, ← descend, ih hne, hstep, List.map_cons,
      String.intercalate_cons_cons, String.append_assoc, String.append_assoc,
      String.intercalate_cons_append, String.intercalate_cons_append]

/-- From the outermost place, the text is that of the path. -/
theorem descend_empty (path : List Step) : descend "" path = pathText path := by
  cases path with
  | nil => simp [descend, pathText]
  | cons s path =>
    have hstep : step "" s.label = s.label := rfl
    rw [descend, List.foldl_cons, ← descend, hstep, descend_eq s.label_ne_empty, pathText,
      List.map_cons]

/-- **What is found on a column is what is found on each node below the outermost one.** -/
theorem nestingFaults_eq (s : Shape) :
    nestingFaults s = s.inner.flatMap fun node => nodeFaults (pathText node.1) node.2 := by
  simp only [← descend_empty]
  cases s with
  | scalar | counter | udt => rfl
  | list p e =>
    rw [inner_list, flatMap_within]
    exact nestedFaults_eq e
  | set p e =>
    rw [inner_set, flatMap_within]
    exact nestedFaults_eq e
  | map p k v =>
    rw [inner_map, List.flatMap_append, flatMap_within, flatMap_within]
    exact congrArg₂ (· ++ ·) (nestedFaults_eq k) (nestedFaults_eq v)
  | tuple p es => exact nestedItemFaults_eq es

/-! ## 2. What is found, by its kind -/

/-- A violation for each item of a kind. -/
theorem flatMap_ite {α β : Type} (kind : α → Bool) (g : α → β) (as : List α) :
    as.flatMap (fun a => if kind a then [g a] else []) = (as.filter kind).map g := by
  induction as with
  | nil => rfl
  | cons a as ih =>
    rw [List.flatMap_cons, List.filter_cons, ih]
    split <;> rfl

/-- **The rule finds each unfrozen composite and each counter once**, and nothing else. -/
theorem nestingFaults_perm (s : Shape) : (nestingFaults s).Perm
    (((s.inner.filter fun node => node.2.isComposite && !node.2.frozen).map fun node =>
        .unfrozenNested node.2.describe (pathText node.1))
      ++ (s.inner.filter fun node => node.2.isCounter).map fun _ => .counterPlacement .nested) := by
  rw [nestingFaults_eq, ← flatMap_ite, ← flatMap_ite]
  exact (List.flatMap_append_perm s.inner _ _).symm.trans List.perm_append_comm

/-- No two nodes below the outermost one have paths that are written alike. -/
theorem nodup_pathTexts (s : Shape) : (s.inner.map fun node => pathText node.1).Nodup := by
  have hpaths := (nodup_inner s).map fun _ _ => eq_of_pathText
  rwa [List.map_map] at hpaths

/-! ## 3. Accepted batches -/

/-- **A shape may lie inside a composite**: where it is composite it is frozen, and it does not
count. -/
structure MayNest (s : Shape) : Prop where
  frozen : s.isComposite = true → s.frozen = true
  uncounted : s.isCounter = false

theorem nodeFaults_eq_nil_iff {path : String} {s : Shape} :
    nodeFaults path s = [] ↔ MayNest s := by
  simp only [nodeFaults, List.append_eq_nil_iff, ite_eq_right_iff, List.cons_ne_nil, imp_false,
    Bool.and_eq_true, Bool.not_eq_true', Bool.not_eq_true, not_and, Bool.not_eq_false]
  exact ⟨fun h => ⟨h.2, h.1⟩, fun h => ⟨h.uncounted, h.frozen⟩⟩

/-- **All that is nested in a schema may be**: what lies below the outermost node of a column, and
all in the fields of a user type, which lie inside something.  A composite in a key is frozen at the
top as well. -/
structure NestsWell (s : Schema) : Prop where
  columns : ∀ e ∈ s.entities, ∀ f ∈ e.fields, ∀ node ∈ f.shape.inner, MayNest node.2
  typeFields : ∀ u ∈ s.userTypes, ∀ f ∈ u.fields, ∀ node ∈ f.shape.located, MayNest node.2
  keys : ∀ e ∈ s.entities, ∀ f ∈ e.fields, f.isKey = true → f.shape.isComposite = true →
    f.shape.frozen = true

theorem nestsWell_of_load {d : Declaration} {registry : Registry} {defaults : Defaults} {s : Schema}
    (h : load d registry defaults = .ok s) : s.NestsWell where
  columns e he f hf := by
    have hnesting := ((accepted_of_entity h he).fields f hf).nesting
    rw [nestingFaults_eq, List.flatMap_eq_nil_iff] at hnesting
    exact fun node hnode => nodeFaults_eq_nil_iff.mp (hnesting node hnode)
  typeFields u hu f hf := by
    have hnesting := ((accepted_of_load h).ofUserTypes u hu).nesting f hf
    rw [typeFieldFaults, nestedFaults_eq, List.flatMap_eq_nil_iff] at hnesting
    exact fun node hnode => nodeFaults_eq_nil_iff.mp (hnesting node hnode)
  keys e he f hf hkey hcomposite := by
    have hshape := ((accepted_of_entity h he).fields f hf).keyShape hkey
    simpa [keyShapeFaults, hcomposite] using hshape

/-- **The rule about nesting is exact.**  For every shape it finds one violation for each unfrozen
composite and one for each counter strictly below the outermost node, and nothing else.  Those
nodes are the ends of the paths that are not empty; the first kind of violation tells the path, and
no two nodes have paths that are written alike.  So all that is nested in an accepted batch may
be. -/
theorem nesting_exact (shape : Shape) :
    (nestingFaults shape).Perm
        (((shape.inner.filter fun node => node.2.isComposite && !node.2.frozen).map fun node =>
            .unfrozenNested node.2.describe (pathText node.1))
          ++ (shape.inner.filter fun node => node.2.isCounter).map fun _ =>
            .counterPlacement .nested)
      ∧ (∀ path node, (path, node) ∈ shape.inner ↔ path ≠ [] ∧ shape.at? path = some node)
      ∧ (shape.inner.map fun node => pathText node.1).Nodup
      ∧ ∀ d registry defaults s, load d registry defaults = .ok s → s.NestsWell :=
  ⟨nestingFaults_perm shape, fun _ _ => mem_inner_iff shape, nodup_pathTexts shape,
    fun _ _ _ _ => nestsWell_of_load⟩

/-- Parcels with the stops on their way. -/
def parcelRecords : Declaration where
  userTypes := [
    { name := "Stop"
      fields := [⟨"street", "text", none⟩, ⟨"codes", "frozen<list<int>>", none⟩] }]
  entities := [
    { name := "Parcel"
      fields := [
        (Declaration.Field.typed "way" "frozen<tuple<int, list<text>>>").inPartition 0,
        Declaration.Field.typed "stops" "map<int, frozen<list<Stop>>>"] }]

/-- The shape of `map<list<counter>, tuple<frozen<set<text>>, list<int>>>`. -/
def countedStops : Shape :=
  .map ⟨false, 0⟩ (.list ⟨false, 1⟩ (.counter ⟨false, 2⟩))
    (.tuple ⟨false, 1⟩ [.set ⟨true, 2⟩ (.scalar ⟨true, 3⟩ .text),
      .list ⟨false, 2⟩ (.scalar ⟨false, 3⟩ .int)])

theorem nesting_exact_parcels :
    (∃ s, load parcelRecords {} {} = .ok s ∧ s.NestsWell)
      ∧ nestingFaults countedStops = [.unfrozenNested "list" "key", .counterPlacement .nested,
        .unfrozenNested "tuple" "value", .unfrozenNested "list" "value.1"]
      ∧ countedStops.at? [.value, .item 1] = some (.list ⟨false, 2⟩ (.scalar ⟨false, 3⟩ .int)) := by
  have haccepted : (load parcelRecords {} {}).toOption.isSome = true := by decide +kernel
  obtain ⟨s, hs⟩ := Option.isSome_iff_exists.mp haccepted
  have hload := Except.toOption_eq_some_iff.mp hs
  exact ⟨⟨s, hload, (nesting_exact countedStops).2.2.2 _ _ _ s hload⟩, by decide, rfl⟩

end WideColumn.Schema
