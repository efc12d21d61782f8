/-
# The nodes of a shape and their paths

A node of a shape is told by its PATH: the steps that lead to it from the outermost node, each one
from a node to one of its parts.  A shape lists all its nodes with their paths, in the order of the
text, and the list is as good as the paths: a node is listed under a path exactly if the path leads
to it (`mem_located_iff`), and no path is listed twice (`nodup_located`).  What a shape collects or
asks of all its nodes can so be told by paths (`mem_udtNames_iff`, `any_iff`).

A path is written as the labels of its steps with dots between them.  No label has a dot in it and
items are numbered, so PATHS THAT ARE WRITTEN ALIKE ARE THE SAME (`eq_of_pathText`).
-/
import Mathlib.Data.List.Nodup
import WideColumn.Proofs.Text.Digits
import WideColumn.Type.Shape

namespace WideColumn.Shape

/-! ## 1. Paths -/

/-- A step from a node to one of its parts. -/
inductive Step where
  | element
  | key
  | value
  | item (n : Nat)
  deriving DecidableEq

/-- The name of a step; items of a tuple go by their number. -/
def Step.label : Step → String
  | element => "element"
  | key => "key"
  | value => "value"
  | item n => toString n

/-- The part of a node that a step leads to. -/
def part? : Shape → Step → Option Shape
  | list _ e, .element | set _ e, .element => some e
  | map _ k _, .key => some k
  | map _ _ v, .value => some v
  | tuple _ es, .item n => es[n]?
  | _, _ => none

/-- The node that a path leads to. -/
def at? (s : Shape) : List Step → Option Shape
  | [] => some s
  | step :: path => (s.part? step).bind (·.at? path)

/-- A path as text. -/
def pathText (path : List Step) : String := ".".intercalate (path.map Step.label)

/-! ## 2. The list of nodes -/

/-- Nodes of a part, as nodes of what the part is a part of. -/
def within (step : Step) (nodes : List (List Step × Shape)) : List (List Step × Shape) :=
  nodes.map fun node => (step :: node.1, node.2)

mutual

/-- Every node of a shape with its path, in the order of the text. -/
def located : Shape → List (List Step × Shape)
  | scalar p s => [([], scalar p s)]
  | counter p => [([], counter p)]
  | udt p name => [([], udt p name)]
  | list p e => ([], list p e) :: within .element (located e)
  | set p e => ([], set p e) :: within .element (located e)
  | map p k v => ([], map p k v) :: (within .key (located k) ++ within .value (located v))
  | tuple p es => ([], tuple p es) :: locatedItems 0 es

/-- Every node of the items of a tuple, numbered from `n`. -/
def locatedItems (n : Nat) : List Shape → List (List Step × Shape)
  | [] => []
  | s :: ss => within (.item n) (located s) ++ locatedItems (n + 1) ss

end

/-- The nodes strictly below the outermost one, with their paths. -/
def inner (s : Shape) : List (List Step × Shape) := s.located.tail

theorem located_eq (s : Shape) : s.located = ([], s) :: s.inner := by
  cases s <;> rfl

section
variable {p : Place} {e k v : Shape}

theorem inner_list : (list p e).inner = within .element e.located := rfl

theorem inner_set : (set p e).inner = within .element e.located := rfl

theorem inner_map : (map p k v).inner = within .key k.located ++ within .value v.located := rfl

end

variable {step : Step} {path : List Step} {node : Shape} {nodes : List (List Step × Shape)}

theorem mem_within : (path, node) ∈ within step nodes ↔
    ∃ rest, path = step :: rest ∧ (rest, node) ∈ nodes := by
  simp only [within, List.mem_map, Prod.mk.injEq]
  constructor
  · rintro ⟨⟨rest, t⟩, hmem, rfl, rfl⟩
    exact ⟨rest, rfl, hmem⟩
  · rintro ⟨rest, rfl, hmem⟩
    exact ⟨(rest, node), hmem, rfl, rfl⟩

/-- Nodes of parts have paths of their own where those of the parts have. -/
theorem nodup_within (h : (nodes.map (·.1)).Nodup) : ((within step nodes).map (·.1)).Nodup := by
  have hpaths : (within step nodes).map (·.1) = (nodes.map (·.1)).map (step :: ·) := by
    simp only [within, List.map_map]
    rfl
  rw [hpaths]
  exact h.map (List.cons_injective)

theorem head_of_mem_within (h : path ∈ (within step nodes).map (·.1)) : path.head? = some step := by
  obtain ⟨⟨_, t⟩, hmem, rfl⟩ := List.mem_map.mp h
  obtain ⟨rest, rfl, -⟩ := mem_within.mp hmem
  rfl

mutual

/-- **A node is listed under a path exactly if the path leads to it.** -/
theorem mem_located_iff : ∀ (s : Shape) {path : List Step} {node : Shape},
    (path, node) ∈ s.located ↔ s.at? path = some node
  | scalar p c, path, node | counter p, path, node | udt p c, path, node => by
    cases path <;> simp [located, at?, part?, eq_comm]
  | list p e, path, node => by
    cases path with
    | nil => simp [located, at?, mem_within, eq_comm]
    | cons step rest =>
      cases step <;> simp [located, at?, part?, mem_within, mem_located_iff e]
  | set p e, path, node => by
    cases path with
    | nil => simp [located, at?, mem_within, eq_comm]
    | cons step rest =>
      cases step <;> simp [located, at?, part?, mem_within, mem_located_iff e]
  | map p k v, path, node => by
    cases path with
    | nil => simp [located, at?, mem_within, eq_comm]
    | cons step rest =>
      cases step <;>
        simp [located, at?, part?, mem_within, mem_located_iff k, mem_located_iff v]
  | tuple p es, path, node => by
    cases path with
    | nil =>
      simp only [located, at?, List.mem_cons, mem_locatedItems_iff es, Prod.mk.injEq, true_and,
        List.nil_eq, reduceCtorEq, false_and, exists_false, or_false, Option.some.injEq]
      exact eq_comm
    | cons step rest =>
      cases step <;> simp [located, at?, part?, mem_locatedItems_iff es, Option.bind_eq_some_iff]

theorem mem_locatedItems_iff : ∀ (ss : List Shape) {n : Nat} {path : List Step} {node : Shape},
    (path, node) ∈ locatedItems n ss ↔
      ∃ k rest t, path = .item (n + k) :: rest ∧ ss[k]? = some t ∧ t.at? rest = some node
  | [], n, path, node => by simp [locatedItems]
  | s :: ss, n, path, node => by
    rw [locatedItems, List.mem_append, mem_within, mem_locatedItems_iff ss]
    constructor
    · rintro (⟨rest, rfl, hmem⟩ | ⟨k, rest, t, rfl, ht, hmem⟩)
      · exact ⟨0, rest, s, rfl, rfl, (mem_located_iff s).mp hmem⟩
      · exact ⟨k + 1, rest, t, by rw [Nat.add_right_comm, Nat.add_assoc], ht, hmem⟩
    · rintro ⟨k, rest, t, rfl, ht, hmem⟩
      cases k with
      | zero =>
        cases ht
        exact .inl ⟨rest, rfl, (mem_located_iff s).mpr hmem⟩
      | succ k => exact .inr ⟨k, rest, t, by rw [Nat.add_right_comm, Nat.add_assoc], ht, hmem⟩

end

mutual

/-- **No path is listed twice.** -/
theorem nodup_located : ∀ s : Shape, (s.located.map (·.1)).Nodup
  | scalar .. | counter _ | udt .. => List.nodup_singleton _
  | list _ e | set _ e => by
    rw [located, List.map_cons, List.nodup_cons]
    refine ⟨fun h => ?_, nodup_within (nodup_located e)⟩
    cases head_of_mem_within h
  | map _ k v => by
    rw [located, List.map_cons, List.map_append, List.nodup_cons, List.mem_append,
      List.nodup_append']
    refine ⟨?_, nodup_within (nodup_located k), nodup_within (nodup_located v), ?_⟩
    · rintro (h | h) <;> cases head_of_mem_within h
    · intro path hkey hvalue
      have hstep := (head_of_mem_within hkey).symm.trans (head_of_mem_within hvalue)
      cases hstep
  | tuple _ es => by
    rw [located, List.map_cons, List.nodup_cons]
    refine ⟨fun h => ?_, nodup_locatedItems es⟩
    obtain ⟨⟨path, t⟩, hmem, rfl⟩ := List.mem_map.mp h
    obtain ⟨k, rest, t', hpath, -⟩ := (mem_locatedItems_iff es).mp hmem
    cases hpath

theorem nodup_locatedItems : ∀ (ss : List Shape) {n : Nat},
    ((locatedItems n ss).map (·.1)).Nodup
  | [], _ => List.nodup_nil
  | s :: ss, n => by
    rw [locatedItems, List.map_append, List.nodup_append']
    refine ⟨nodup_within (nodup_located s), nodup_locatedItems ss, fun path hfirst hrest => ?_⟩
    obtain ⟨⟨path, t⟩, hmem, rfl⟩ := List.mem_map.mp hrest
    obtain ⟨k, rest, t', rfl, -⟩ := (mem_locatedItems_iff ss).mp hmem
    have hstep := head_of_mem_within hfirst
    simp only [List.head?_cons, Option.some.injEq, Step.item.injEq] at hstep
    omega

end

/-- The nodes below the outermost one are those with a path that is not empty. -/
theorem mem_inner_iff (s : Shape) :
    (path, node) ∈ s.inner ↔ path ≠ [] ∧ s.at? path = some node := by
  have hnodup := nodup_located s
  rw [located_eq, List.map_cons, List.nodup_cons] at hnodup
  rw [← mem_located_iff, located_eq, List.mem_cons]
  constructor
  · intro hmem
    refine ⟨fun hnil => hnodup.1 ?_, .inr hmem⟩
    exact List.mem_map.mpr ⟨(path, node), hmem, hnil⟩
  · rintro ⟨hpath, heq | hmem⟩
    · cases heq
      exact absurd rfl hpath
    · exact hmem

/-- No path of the nodes below the outermost one is listed twice. -/
theorem nodup_inner (s : Shape) : (s.inner.map (·.1)).Nodup := by
  have hnodup := nodup_located s
  rw [located_eq, List.map_cons] at hnodup
  exact hnodup.of_cons

/-! ## 3. What is asked of all nodes -/

/-- **A user type is named in a shape**: some node, at whatever depth, is that type. -/
def Names (s : Shape) (name : String) : Prop :=
  ∃ path p, s.at? path = some (udt p name)

theorem filterMap_within {α : Type} {f : Shape → Option α} :
    (within step nodes).filterMap (fun n => f n.2) = nodes.filterMap fun n => f n.2 := by
  rw [within, List.filterMap_map]
  rfl

theorem any_within {test : Shape → Bool} :
    (within step nodes).any (fun n => test n.2) = nodes.any fun n => test n.2 := by
  rw [within, List.any_map]
  rfl

mutual

/-- The names that a shape collects are those of its nodes. -/
theorem udtNames_eq : ∀ s : Shape, s.udtNames = s.located.filterMap fun n => n.2.udtName?
  | scalar .. | counter _ | udt .. => rfl
  | list p e | set p e => by
    rw [located, List.filterMap_cons_none rfl, filterMap_within, ← udtNames_eq e, udtNames]
  | map p k v => by
    rw [located, List.filterMap_cons_none rfl, List.filterMap_append, filterMap_within,
      filterMap_within, ← udtNames_eq k, ← udtNames_eq v, udtNames]
  | tuple p es => by
    rw [located, List.filterMap_cons_none rfl, ← udtNamesAll_eq es, udtNames]

theorem udtNamesAll_eq : ∀ (ss : List Shape) {n : Nat},
    udtNamesAll ss = (locatedItems n ss).filterMap fun n => n.2.udtName?
  | [], _ => rfl
  | s :: ss, _ => by
    rw [locatedItems, List.filterMap_append, filterMap_within, ← udtNames_eq s,
      ← udtNamesAll_eq ss, udtNamesAll]

end

mutual

/-- What some node satisfies is satisfied by one that is listed. -/
theorem any_eq (test : Shape → Bool) : ∀ s : Shape, s.any test = s.located.any fun n => test n.2
  | scalar .. | counter _ | udt .. => by
    simp only [any, located, List.any_cons, List.any_nil, Bool.or_false]
  | list p e | set p e => by
    rw [located, List.any_cons, any_within, ← any_eq test e, any]
  | map p k v => by
    rw [located, List.any_cons, List.any_append, any_within, any_within, ← any_eq test k,
      ← any_eq test v, any, Bool.or_assoc]
  | tuple p es => by
    rw [located, List.any_cons, ← anyOf_eq test es, any]

theorem anyOf_eq (test : Shape → Bool) : ∀ (ss : List Shape) {n : Nat},
    anyOf test ss = (locatedItems n ss).any fun n => test n.2
  | [], _ => rfl
  | s :: ss, _ => by
    rw [locatedItems, List.any_append, any_within, ← any_eq test s, ← anyOf_eq test ss, anyOf]

end

/-- **The names that a shape collects are the user types that are named in it.** -/
theorem mem_udtNames_iff {s : Shape} {name : String} : name ∈ s.udtNames ↔ s.Names name := by
  have hname : ∀ t : Shape, t.udtName? = some name ↔ ∃ p, t = udt p name := by
    intro t
    cases t <;> simp [udtName?]
  simp only [udtNames_eq, List.mem_filterMap, Prod.exists, mem_located_iff, hname, Names]
  constructor
  · rintro ⟨path, _, hat, p, rfl⟩
    exact ⟨path, p, hat⟩
  · rintro ⟨path, p, hat⟩
    exact ⟨path, _, hat, p, rfl⟩

/-- **Some node satisfies a test exactly if a path leads to one that does.** -/
theorem any_iff {s : Shape} {test : Shape → Bool} :
    s.any test = true ↔ ∃ path t, s.at? path = some t ∧ test t = true := by
  simp only [any_eq, List.any_eq_true, Prod.exists, mem_located_iff]

/-! ## 4. Paths as texts -/

theorem Step.label_ne_empty (step : Step) : step.label ≠ "" := by
  cases step with
  | item n => exact Nat.repr_ne_empty
  | element | key | value => decide

/-- No label has a dot in it. -/
theorem Step.dot_notMem (step : Step) : '.' ∉ step.label.toList := by
  cases step with
  | item n => exact fun h => absurd (Text.isDigit_of_mem_toString h) (by decide)
  | element | key | value => decide

/-- Steps with one label are the same: there is an `e` in each word, and none in a number. -/
theorem Step.eq_of_label {a b : Step} (h : a.label = b.label) : a = b := by
  have hword : ∀ (n : Nat) (word : String), toString n = word →
      ∀ c ∈ word.toList, c.isDigit = true := by
    rintro n _ rfl c hc
    exact Text.isDigit_of_mem_toString hc
  cases a <;> cases b <;> simp only [Step.label] at h
  case item.item m n => rw [Text.eq_of_toString h]
  case item.element n | item.key n | item.value n =>
    exact absurd (hword n _ h 'e' (by decide)) (by decide)
  case element.item n | key.item n | value.item n =>
    exact absurd (hword n _ h.symm 'e' (by decide)) (by decide)
  all_goals first | rfl | exact absurd h (by decide)

/-- **Paths that are written alike are the same.** -/
theorem eq_of_pathText {p q : List Step} (h : pathText p = pathText q) : p = q := by
  have hread : ∀ path : List Step, ((pathText path).split '.').toList.map (·.copy)
      = if path = [] then [""] else path.map Step.label := by
    intro path
    have hdots : ∀ s ∈ path.map Step.label, '.' ∉ s.toList := by
      simpa using fun step _ => Step.dot_notMem step
    rw [pathText, show "." = String.singleton '.' from rfl]
    simpa only [List.map_eq_nil_iff] using String.toList_split_intercalate hdots
  have hlabels := (hread p).symm.trans (h ▸ hread q)
  have hinj := List.map_injective_iff.mpr fun _ _ => Step.eq_of_label
  cases p with
  | nil =>
    cases q with
    | nil => rfl
    | cons step rest =>
      simp only [reduceCtorEq, if_true, if_false, List.map_cons, List.cons.injEq] at hlabels
      exact absurd hlabels.1.symm step.label_ne_empty
  | cons step rest =>
    cases q with
    | nil =>
      simp only [reduceCtorEq, if_true, if_false, List.map_cons, List.cons.injEq] at hlabels
      exact absurd hlabels.1 step.label_ne_empty
    | cons step' rest' => exact hinj (by simpa only [reduceCtorEq, if_false] using hlabels)

end WideColumn.Shape
