/-
# What stands in an error tree under one route

The children of a tree made of findings stand in increasing order, so there is at most one of each
route, and a finding that is put into the tree changes the child of its own route and no other.
Hence the child of a route is the tree of those findings that lie under the route, seen from there
(`child_ofFindings`).  Of a whole tree the violations are those that were found, each at the place
of its route (`mem_flatten_ofFindings`).

The routes are compared here, not the dotted places made of them: two rows of routes can have one
place, as soon as a route has a dot of its own.
-/
import Mathlib.Data.List.Basic
import WideColumn.Schema.ErrorTree

open scoped List

namespace WideColumn.Schema

/-- A finding that lies under a route, seen from there. -/
def Finding.below? (route : String) (f : Finding) : Option Finding :=
  match f.path with
  | [] => none
  | r :: rest => if r == route then some ⟨rest, f.violation⟩ else none

/-- The findings that lie under a route, seen from there. -/
def below (route : String) (fs : List Finding) : List Finding :=
  fs.filterMap (Finding.below? route)

namespace ErrorTree

variable {t : ErrorTree} {cs : List (String × ErrorTree)} {route r : String}
  {change : ErrorTree → ErrorTree} {f : Finding} {fs : List Finding}

/-! ## 1. Children in increasing order -/

/-- The routes of a row of children increase. -/
def Increasing (cs : List (String × ErrorTree)) : Prop :=
  cs.Pairwise fun a b => a.1 < b.1

theorem lookup_cons_eq :
    ((route, t) :: cs).lookup r = if r = route then some t else cs.lookup r := by
  rw [List.lookup_cons]
  by_cases hr : r = route
  · simp [hr]
  · rw [if_neg hr, beq_eq_false_iff_ne.mpr hr]

theorem lookup_eq_none_of_lt (h : ∀ b ∈ cs, route < b.1) : cs.lookup route = none := by
  refine List.lookup_eq_none_iff.mpr ?_
  rintro b hb
  refine bne_iff_ne.mpr ?_
  rintro rfl
  exact String.lt_irrefl _ (h b hb)

/-- A change at a route keeps the other children, and puts one at the route. -/
theorem mem_changeAt {b : String × ErrorTree} (h : b ∈ changeAt route change cs) :
    b ∈ cs ∨ b.1 = route ∧ ∃ t, (t = empty ∨ (route, t) ∈ cs) ∧ b.2 = change t := by
  induction cs with
  | nil =>
    obtain rfl := List.mem_singleton.mp h
    exact .inr ⟨rfl, empty, .inl rfl, rfl⟩
  | cons a rest ih =>
    obtain ⟨r, t⟩ := a
    rw [changeAt] at h
    split at h
    · rcases List.mem_cons.mp h with rfl | h
      · exact .inr ⟨rfl, empty, .inl rfl, rfl⟩
      · exact .inl h
    · split at h
      · rename_i heq
        obtain rfl := beq_iff_eq.mp heq
        rcases List.mem_cons.mp h with rfl | h
        · exact .inr ⟨rfl, t, .inr List.mem_cons_self, rfl⟩
        · exact .inl (List.mem_cons_of_mem _ h)
      · rcases List.mem_cons.mp h with rfl | h
        · exact .inl List.mem_cons_self
        · rcases ih h with hmem | ⟨heq, t', ht', hchange⟩
          · exact .inl (List.mem_cons_of_mem _ hmem)
          · exact .inr ⟨heq, t', ht'.imp_right (List.mem_cons_of_mem _), hchange⟩

/-- A change at a route keeps the order of the routes. -/
theorem increasing_changeAt (h : Increasing cs) : Increasing (changeAt route change cs) := by
  induction cs with
  | nil => exact List.pairwise_singleton _ _
  | cons a rest ih =>
    obtain ⟨hfirst, hrest⟩ := List.pairwise_cons.mp h
    rw [changeAt]
    split
    · rename_i hlt
      refine List.pairwise_cons.mpr ⟨List.forall_mem_cons.mpr ⟨hlt, ?_⟩, h⟩
      exact fun b hb => String.lt_trans hlt (hfirst b hb)
    · rename_i hnlt
      split
      · exact List.pairwise_cons.mpr ⟨hfirst, hrest⟩
      · rename_i hne
        refine List.pairwise_cons.mpr ⟨?_, ih hrest⟩
        intro b hb
        rcases mem_changeAt hb with hmem | ⟨heq, -⟩
        · exact hfirst b hmem
        · have hle : a.1 ≤ route := String.not_lt.mp hnlt
          have hne : a.1 ≠ route := fun heq => hne (by simp [heq])
          exact heq ▸ String.not_le.mp fun hge => hne (String.le_antisymm hle hge)

/-- A change at a route is seen there and nowhere else. -/
theorem lookup_changeAt (h : Increasing cs) :
    (changeAt route change cs).lookup r =
      if r = route then some (change ((cs.lookup route).getD empty)) else cs.lookup r := by
  induction cs with
  | nil => exact lookup_cons_eq
  | cons a rest ih =>
    obtain ⟨r', t'⟩ := a
    obtain ⟨hfirst, hrest⟩ := List.pairwise_cons.mp h
    rw [changeAt]
    split
    · rename_i hlt
      have hnone : ((r', t') :: rest).lookup route = none := by
        refine lookup_eq_none_of_lt (List.forall_mem_cons.mpr ⟨hlt, ?_⟩)
        exact fun b hb => String.lt_trans hlt (hfirst b hb)
      rw [lookup_cons_eq, hnone]
      rfl
    · split
      · rename_i heq
        obtain rfl := beq_iff_eq.mp heq
        simp only [lookup_cons_eq, if_true, Option.getD_some]
        split <;> rfl
      · rename_i hne
        have hne : route ≠ r' := fun heq => hne (beq_iff_eq.mpr heq)
        simp only [lookup_cons_eq, ih hrest, if_neg hne]
        by_cases hr : r = route
        · subst hr
          simp only [if_true, if_neg hne]
        · rw [if_neg hr]
          simp [hr]

/-! ## 2. Findings put into a tree -/

/-- A tree with one more finding. -/
def insert (t : ErrorTree) (f : Finding) : ErrorTree :=
  t.onPath f.path (.add f.violation)

/-- The tree below a node at a route, an empty one if there is none. -/
def child (t : ErrorTree) (route : String) : ErrorTree :=
  (t.children.lookup route).getD empty

theorem increasing_insert (h : Increasing t.children) : Increasing (t.insert f).children := by
  obtain ⟨vs, cs⟩ := t
  obtain ⟨_ | ⟨r, path⟩, v⟩ := f
  · exact h
  · exact increasing_changeAt h

/-- What is put into a tree goes to the child of its own route. -/
theorem child_insert (h : Increasing t.children) :
    (t.insert f).child route = (f.below? route).toList.foldl insert (t.child route) := by
  obtain ⟨vs, cs⟩ := t
  obtain ⟨_ | ⟨r, path⟩, v⟩ := f
  · rfl
  · have hlookup : (insert (node vs cs) ⟨r :: path, v⟩).children.lookup route =
        if route = r then some (insert (child (node vs cs) r) ⟨path, v⟩) else cs.lookup route :=
      lookup_changeAt h
    rw [child, hlookup]
    by_cases hr : route = r
    · subst hr
      simp [Finding.below?]
    · have hne : (r == route) = false := beq_eq_false_iff_ne.mpr (Ne.symm hr)
      simp [Finding.below?, hr, hne, child, children]

theorem child_foldl_insert (h : Increasing t.children) :
    (fs.foldl insert t).child route = (below route fs).foldl insert (t.child route) := by
  induction fs generalizing t with
  | nil => rfl
  | cons f fs ih =>
    rw [List.foldl_cons, ih (increasing_insert h), child_insert h, ← List.foldl_append]
    congr 1
    cases hf : f.below? route <;> simp [below, hf]

/-- **The child of a route is the tree of the findings under the route.** -/
theorem child_ofFindings (fs : List Finding) (route : String) :
    (ofFindings fs).child route = ofFindings (below route fs) :=
  child_foldl_insert List.Pairwise.nil

/-! ## 3. The violations under a route -/

/-- The violations under a route, with their places. -/
def flattenUnder (t : ErrorTree) (route : String) : List (String × Violation) :=
  (t.child route).flattenBelow route

/-! ## 4. All violations -/

/-- **A change at a route that adds entries adds them to the whole**, at whatever place in it. -/
theorem perm_flattenAll_changeAt {place : String} {added : List (String × Violation)}
    (h : ∀ t, (flattenBelow (extend place route) (change t)).Perm
      (flattenBelow (extend place route) t ++ added)) :
    (flattenAll place (changeAt route change cs)).Perm (flattenAll place cs ++ added) := by
  have hempty : (flattenBelow (extend place route) (change empty)).Perm added := h empty
  induction cs with
  | nil => simpa [changeAt, flattenAll] using hempty
  | cons a rest ih =>
    obtain ⟨r, t⟩ := a
    rw [changeAt]
    split
    · exact (hempty.append_right _).trans List.perm_append_comm
    · split
      · rename_i heq
        obtain rfl := beq_iff_eq.mp heq
        rw [flattenAll, flattenAll]
        calc flattenBelow (extend place route) (change t) ++ flattenAll place rest
          _ ~ flattenBelow (extend place route) t ++ added ++ flattenAll place rest :=
            (h t).append_right _
          _ ~ flattenBelow (extend place route) t ++ flattenAll place rest ++ added := by
            simpa only [List.append_assoc] using List.perm_append_comm.append_left _
      · rw [flattenAll, flattenAll, List.append_assoc]
        exact ih.append_left _

/-- What is put at the end of a row of routes is added to the whole, at their place. -/
theorem perm_flattenBelow_onPath {path : List String} {v : Violation} :
    ∀ {t : ErrorTree} {place : String}, (flattenBelow place (t.onPath path (.add v))).Perm
      (flattenBelow place t ++ [(path.foldl extend place, v)]) := by
  induction path with
  | nil =>
    intro t place
    obtain ⟨vs, cs⟩ := t
    simpa [onPath, add, flattenBelow] using
      (List.perm_append_singleton (place, v) (flattenAll place cs)).symm.append_left _
  | cons r path ih =>
    intro t place
    obtain ⟨vs, cs⟩ := t
    change (flattenBelow place (node vs
      (changeAt r (fun t => t.onPath path (.add v)) cs))).Perm _
    rw [flattenBelow, flattenBelow, List.append_assoc, List.foldl_cons]
    exact (perm_flattenAll_changeAt fun t => ih).append_left _

end ErrorTree

/-- The dotted place of a finding. -/
def Finding.place (f : Finding) : String := f.path.foldl ErrorTree.extend ""

namespace ErrorTree

/-- **The violations of a tree of findings are those that were found**, each at its place. -/
theorem mem_flatten_ofFindings {fs : List Finding} {place : String} {v : Violation} :
    (place, v) ∈ (ofFindings fs).flatten ↔ ∃ f ∈ fs, f.place = place ∧ f.violation = v := by
  have hfold : ∀ t : ErrorTree, (place, v) ∈ (fs.foldl insert t).flatten ↔
      (place, v) ∈ t.flatten ∨ ∃ f ∈ fs, f.place = place ∧ f.violation = v := by
    induction fs with
    | nil => simp
    | cons f fs ih =>
      intro t
      have hf : (place, v) ∈ (insert t f).flatten ↔
          (place, v) ∈ t.flatten ∨ (f.place = place ∧ f.violation = v) := by
        rw [flatten, insert, perm_flattenBelow_onPath.mem_iff, List.mem_append,
          List.mem_singleton, Prod.mk.injEq, eq_comm (a := place), eq_comm (a := v)]
        rfl
      simp only [List.foldl_cons, ih, hf, List.mem_cons, exists_eq_or_imp, or_assoc]
  exact (hfold empty).trans (or_iff_right (by simp [empty, flatten, flattenBelow, flattenAll]))

end ErrorTree

end WideColumn.Schema
