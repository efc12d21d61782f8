/-
# Merging error trees loses nothing

The children of a node are kept in increasing order of their routes, each route once, and so at
every node below (`Ordered`).  Every tree that the operations make is such a tree.  A merge of two
of them is seen from three sides, which are three separate recursions over the tree.

* COUNTING and FLATTENING take all children in a row.  Merging puts every child into the row of the
  other tree, one by one, so the violations of a merge are those of both trees in some order
  (`perm_flattenBelow_merge`).  No order of the routes is needed for this.
* LOOKING UP goes by route.  The child of a merge at a route is the merge of the two children there,
  or the only one there is (`lookup_merge`), and a tree is determined by what is found at its routes
  (`Increasing.ext`).  This is where the order is needed, and what makes merging associative.

Nodes without violations, which looking up leaves behind, count for none of the three.
-/
import WideColumn.Proofs.Schema.ErrorTree

open scoped List

namespace WideColumn.Schema.ErrorTree

variable {a b c t : ErrorTree} {ts cs : List (String × ErrorTree)} {vs : List Violation}
  {route r : String} {change : ErrorTree → ErrorTree}

/-! ## 1. Trees in order -/

/-- **The children of every node stand in increasing order of their routes**, each route once. -/
inductive Ordered : ErrorTree → Prop where
  | intro {vs : List Violation} {cs : List (String × ErrorTree)} (increasing : Increasing cs)
      (children : ∀ e ∈ cs, Ordered e.2) : Ordered (node vs cs)

theorem ordered_node_iff :
    (node vs cs).Ordered ↔ Increasing cs ∧ ∀ e ∈ cs, e.2.Ordered := by
  constructor
  · rintro ⟨hcs, hall⟩
    exact ⟨hcs, hall⟩
  · rintro ⟨hcs, hall⟩
    exact .intro hcs hall

theorem ordered_empty : empty.Ordered := .intro List.Pairwise.nil nofun

theorem mem_of_lookup (h : cs.lookup route = some c) : (route, c) ∈ cs := by
  obtain ⟨before, after, rfl, -⟩ := List.lookup_eq_some_iff.mp h
  exact List.mem_append_right _ List.mem_cons_self

theorem Ordered.of_lookup (h : t.Ordered) (hlookup : t.children.lookup route = some c) :
    c.Ordered := by
  obtain ⟨vs, cs⟩ := t
  exact (ordered_node_iff.mp h).2 (route, c) (mem_of_lookup hlookup)

theorem Ordered.add (h : t.Ordered) (v : Violation) : (t.add v).Ordered := by
  obtain ⟨hcs, hall⟩ := h
  exact .intro hcs hall

/-- A change below a node keeps the order if it keeps that of what it changes. -/
theorem Ordered.onRoute (h : t.Ordered) (hchange : ∀ t, t.Ordered → (change t).Ordered) :
    (t.onRoute route change).Ordered := by
  obtain ⟨hcs, hall⟩ := h
  refine .intro (increasing_changeAt hcs) fun e he => ?_
  rcases mem_changeAt he with he | ⟨-, t, rfl | ht, hvalue⟩
  · exact hall e he
  · exact hvalue ▸ hchange empty ordered_empty
  · exact hvalue ▸ hchange t (hall _ ht)

theorem Ordered.onPath (path : List String) (hchange : ∀ t, t.Ordered → (change t).Ordered)
    (h : t.Ordered) : (t.onPath path change).Ordered := by
  induction path generalizing t with
  | nil => exact hchange t h
  | cons r path ih => exact h.onRoute fun t ht => ih ht

theorem ordered_mergeChildren (h : (node vs ts).Ordered)
    (hmerge : ∀ e ∈ cs, ∀ t : ErrorTree, t.Ordered → (t.merge e.2).Ordered) :
    (node vs (mergeChildren ts cs)).Ordered := by
  induction cs generalizing ts with
  | nil => exact h
  | cons e rest ih =>
    obtain ⟨hfirst, hrest⟩ := List.forall_mem_cons.mp hmerge
    rw [mergeChildren]
    exact ih (h.onRoute hfirst) hrest

/-- A merge of trees in order is in order. -/
theorem ordered_merge (ha : a.Ordered) (hb : b.Ordered) : (a.merge b).Ordered := by
  induction hb generalizing a with
  | intro _ _ ih =>
    obtain ⟨hcs, hall⟩ := ha
    exact ordered_mergeChildren (.intro hcs hall) fun e he t ht => ih e he ht

theorem ordered_ofFindings (fs : List Finding) : (ofFindings fs).Ordered :=
  List.foldlRecOn fs _ ordered_empty fun _ ht f _ => ht.onPath f.path fun _ ht => ht.add f.violation

/-! ## 2. Violations in a row -/

mutual

/-- The violations of a merge are those of both trees, wherever they are put. -/
theorem perm_flattenBelow_merge : ∀ (b a : ErrorTree) (place : String),
    flattenBelow place (a.merge b) ~ flattenBelow place a ++ flattenBelow place b
  | node vs cs, node us ts, place => by
    have hchildren := perm_flattenAll_mergeChildren cs ts place
    simp only [merge, violations, children, flattenBelow, List.map_append, List.append_assoc]
    refine List.Perm.append_left _ ?_
    calc vs.map (fun v => (place, v)) ++ flattenAll place (mergeChildren ts cs)
      _ ~ vs.map (fun v => (place, v)) ++ (flattenAll place ts ++ flattenAll place cs) :=
        hchildren.append_left _
      _ ~ flattenAll place ts ++ (vs.map (fun v => (place, v)) ++ flattenAll place cs) := by
        simpa only [List.append_assoc] using List.perm_append_comm.append_right _

/-- Every child that is merged into a row adds its violations to those of the row. -/
theorem perm_flattenAll_mergeChildren : ∀ (cs ts : List (String × ErrorTree)) (place : String),
    flattenAll place (mergeChildren ts cs) ~ flattenAll place ts ++ flattenAll place cs
  | [], ts, place => by
    rw [mergeChildren, flattenAll, List.append_nil]
  | (route, c) :: cs, ts, place => by
    rw [mergeChildren, flattenAll, ← List.append_assoc]
    calc flattenAll place (mergeChildren (changeAt route (fun t => merge t c) ts) cs)
      _ ~ flattenAll place (changeAt route (fun t => merge t c) ts) ++ flattenAll place cs :=
        perm_flattenAll_mergeChildren cs _ place
      _ ~ flattenAll place ts ++ flattenBelow (extend place route) c ++ flattenAll place cs :=
        (perm_flattenAll_changeAt fun t => perm_flattenBelow_merge c t _).append_right _

end

mutual

theorem length_flattenBelow : ∀ (t : ErrorTree) (place : String),
    (flattenBelow place t).length = t.size
  | node vs cs, place => by
    rw [flattenBelow, size, List.length_append, List.length_map, length_flattenAll cs place]

theorem length_flattenAll : ∀ (cs : List (String × ErrorTree)) (place : String),
    (flattenAll place cs).length = sizeOfAll cs
  | [], _ => rfl
  | (route, c) :: cs, place => by
    rw [flattenAll, sizeOfAll, List.length_append, length_flattenBelow c, length_flattenAll cs place]

end

mutual

/-- A tree counts as empty exactly if there is no violation in it, whatever nodes it has. -/
theorem flattenBelow_eq_nil_iff : ∀ (t : ErrorTree) (place : String),
    flattenBelow place t = [] ↔ t.isEmpty = true
  | node vs cs, place => by
    rw [flattenBelow, isEmpty, List.append_eq_nil_iff, List.map_eq_nil_iff, Bool.and_eq_true,
      List.isEmpty_iff, flattenAll_eq_nil_iff cs place]

theorem flattenAll_eq_nil_iff : ∀ (cs : List (String × ErrorTree)) (place : String),
    flattenAll place cs = [] ↔ allEmpty cs = true
  | [], _ => by simp [flattenAll, allEmpty]
  | (route, c) :: cs, place => by
    rw [flattenAll, allEmpty, List.append_eq_nil_iff, Bool.and_eq_true, flattenBelow_eq_nil_iff c,
      flattenAll_eq_nil_iff cs place]

end

theorem result_eq_ok_iff : t.result = .ok () ↔ t.flatten = [] := by
  rw [flatten, flattenBelow_eq_nil_iff, result]
  split <;> simp [*]

/-! ## 3. Children by route -/

/-- Rows of children in which the same is found at every route are the same. -/
theorem Increasing.ext (hts : Increasing ts) (hcs : Increasing cs)
    (h : ∀ route, ts.lookup route = cs.lookup route) : ts = cs := by
  have hnone : ∀ {q q' : String} {u' : ErrorTree} {row : List (String × ErrorTree)},
      (∀ e ∈ row, q' < e.1) → q < q' → ((q', u') :: row).lookup q = none := by
    intro q q' u' row hfirst hlt
    refine lookup_eq_none_of_lt (List.forall_mem_cons.mpr ⟨hlt, ?_⟩)
    exact fun e he => String.lt_trans hlt (hfirst e he)
  induction ts generalizing cs with
  | nil =>
    cases cs with
    | nil => rfl
    | cons e' rest' =>
      obtain ⟨r', t'⟩ := e'
      simpa [lookup_cons_eq] using h r'
  | cons e rest ih =>
    obtain ⟨r, t⟩ := e
    cases cs with
    | nil => simpa [lookup_cons_eq] using h r
    | cons e' rest' =>
      obtain ⟨r', t'⟩ := e'
      obtain ⟨hfirst, hrest⟩ := List.pairwise_cons.mp hts
      obtain ⟨hfirst', hrest'⟩ := List.pairwise_cons.mp hcs
      -- A route below the first one of the other row would be found in one row only.
      have hle : r' ≤ r := String.not_lt.mp fun hlt => by simpa [hnone hfirst' hlt] using h r
      have hge : r ≤ r' := String.not_lt.mp fun hlt => by simpa [hnone hfirst hlt] using h r'
      obtain rfl := String.le_antisymm hge hle
      have ht : t = t' := by simpa [lookup_cons_eq] using h r
      have htail : rest = rest' := by
        refine ih hrest hrest' fun q => ?_
        by_cases hq : q = r
        · rw [hq, lookup_eq_none_of_lt hfirst, lookup_eq_none_of_lt hfirst']
        · simpa only [lookup_cons_eq, if_neg hq] using h q
      rw [ht, htail]

/-- **A tree in order is determined** by its own violations and by what is found at its routes. -/
theorem Ordered.ext (ha : a.Ordered) (hb : b.Ordered) (hvs : a.violations = b.violations)
    (h : ∀ route, a.children.lookup route = b.children.lookup route) : a = b := by
  obtain ⟨vs, ts⟩ := a
  obtain ⟨us, cs⟩ := b
  obtain rfl : vs = us := hvs
  exact congrArg (node vs) ((ordered_node_iff.mp ha).1.ext (ordered_node_iff.mp hb).1 h)

/-- What is found at a route of a merged row, if merging into nothing changes no child. -/
theorem lookup_mergeChildren (hts : Increasing ts) (hcs : Increasing cs)
    (hsame : ∀ e ∈ cs, empty.merge e.2 = e.2) :
    (mergeChildren ts cs).lookup r = (ts.lookup r).merge merge (cs.lookup r) := by
  induction cs generalizing ts with
  | nil => simp [mergeChildren]
  | cons e rest ih =>
    obtain ⟨route, c⟩ := e
    obtain ⟨hfirst, hrest⟩ := List.pairwise_cons.mp hcs
    obtain ⟨hc, hsame⟩ := List.forall_mem_cons.mp hsame
    rw [mergeChildren, ih (increasing_changeAt hts) hrest hsame, lookup_changeAt hts,
      lookup_cons_eq]
    by_cases hr : r = route
    · subst hr
      rw [if_pos rfl, if_pos rfl, lookup_eq_none_of_lt hfirst, Option.merge_none_right]
      cases ts.lookup r with
      | none => exact congrArg some hc
      | some t => rfl
    · rw [if_neg hr, if_neg hr]

theorem violations_merge : (a.merge b).violations = a.violations ++ b.violations := by
  obtain ⟨vs, cs⟩ := b
  rfl

/-- A tree that is merged into nothing stays the same. -/
theorem empty_merge (h : t.Ordered) : empty.merge t = t := by
  induction h with
  | @intro vs cs hcs hall ih =>
    have ht : (node vs cs).Ordered := .intro hcs hall
    refine (ordered_merge ordered_empty ht).ext ht violations_merge fun route => ?_
    exact (lookup_mergeChildren List.Pairwise.nil hcs ih).trans Option.merge_none_left

/-- **The child of a merge at a route** is the merge of the children there, or the only one. -/
theorem lookup_merge (ha : a.Ordered) (hb : b.Ordered) :
    (a.merge b).children.lookup r = (a.children.lookup r).merge merge (b.children.lookup r) := by
  obtain ⟨hts, -⟩ := ha
  obtain ⟨hcs, hall⟩ := hb
  exact lookup_mergeChildren hts hcs fun e he => empty_merge (hall e he)

/-- **Merging is associative.** -/
theorem merge_merge (ha : a.Ordered) (hb : b.Ordered) (hc : c.Ordered) :
    (a.merge b).merge c = a.merge (b.merge c) := by
  induction hc generalizing a b with
  | @intro vs cs hcs hall ih =>
    have hc : (node vs cs).Ordered := .intro hcs hall
    refine (ordered_merge (ordered_merge ha hb) hc).ext (ordered_merge ha (ordered_merge hb hc)) ?_
      fun r => ?_
    · simp only [violations_merge, List.append_assoc]
    · rw [lookup_merge (ordered_merge ha hb) hc, lookup_merge ha hb,
        lookup_merge ha (ordered_merge hb hc), lookup_merge hb hc]
      cases hra : a.children.lookup r with
      | none => simp
      | some a' =>
        cases hrb : b.children.lookup r with
        | none => simp
        | some b' =>
          cases hrc : (node vs cs).children.lookup r with
          | none => simp
          | some c' =>
            exact congrArg some (ih _ (mem_of_lookup hrc) (ha.of_lookup hra) (hb.of_lookup hrb))

/-! ## 4. What is found along a row of routes -/

theorem find?_cons {path : List String} :
    t.find? (r :: path) = (t.children.lookup r).bind (·.find? path) := rfl

/-- What is found in a merge is the merge of what is found in both trees, or the only one. -/
theorem find?_merge {path : List String} (ha : a.Ordered) (hb : b.Ordered) :
    (a.merge b).find? path = (a.find? path).merge merge (b.find? path) := by
  induction path generalizing a b with
  | nil => rfl
  | cons r path ih =>
    simp only [find?_cons, lookup_merge ha hb]
    cases hra : a.children.lookup r with
    | none => simp
    | some a' =>
      cases hrb : b.children.lookup r with
      | none => simp
      | some b' => exact ih (ha.of_lookup hra) (hb.of_lookup hrb)

/-- **The violations of a merge at a place** are those of the first tree and those of the second. -/
theorem violationsAt_merge (ha : a.Ordered) (hb : b.Ordered) (place : String) :
    (a.merge b).violationsAt place = a.violationsAt place ++ b.violationsAt place := by
  rw [violationsAt, violationsAt, violationsAt, find?_merge ha hb]
  cases a.find? (segments place) <;> cases b.find? (segments place) <;> simp [violations_merge]

/-! ## 5. Nothing is lost -/

/-- **Merging loses nothing.**  The violations of a merge are those of both trees: as many, in some
order each at its place, and at every dotted place first those of the one and then those of the
other.  It does not matter in which order three trees are merged, and a tree is a success exactly
if it has no violation. -/
theorem merge_loses_nothing (ha : a.Ordered) (hb : b.Ordered) :
    (a.merge b).Ordered
      ∧ (a.merge b).size = a.size + b.size
      ∧ (a.merge b).flatten ~ a.flatten ++ b.flatten
      ∧ (a.merge b).flatten.length = (a.merge b).size
      ∧ (∀ place, (a.merge b).violationsAt place = a.violationsAt place ++ b.violationsAt place)
      ∧ (∀ c : ErrorTree, c.Ordered → (a.merge b).merge c = a.merge (b.merge c))
      ∧ (a.result = .ok () ↔ a.flatten = []) := by
  have hperm : (a.merge b).flatten ~ a.flatten ++ b.flatten := perm_flattenBelow_merge b a ""
  have hlength : ∀ t : ErrorTree, t.flatten.length = t.size := fun t => length_flattenBelow t ""
  have hsize : (a.merge b).size = a.size + b.size := by
    rw [← hlength, hperm.length_eq, List.length_append, hlength, hlength]
  exact ⟨ordered_merge ha hb, hsize, hperm, hlength _, violationsAt_merge ha hb,
    fun c hc => merge_merge ha hb hc, result_eq_ok_iff⟩

/-- Violations of a user's table and of the whole batch. -/
def userFaults : ErrorTree :=
  .ofFindings [.here (.duplicateEntity "User"), ⟨["User", "id"], .keyIndexed⟩]

/-- More violations of the same table and of another one, beside a place that was only looked at. -/
def accountFaults : ErrorTree :=
  (ofFindings [⟨["User", "id"], .viewIndexed⟩, ⟨["Account"], .missingPartitionKey⟩]).onRoute "Visit"
    (·.onRoute "day" id)

theorem merge_loses_nothing_users :
    userFaults.Ordered ∧ accountFaults.Ordered
      ∧ (userFaults.merge accountFaults).size = userFaults.size + accountFaults.size
      ∧ (userFaults.merge accountFaults).flatten = [
          ("", .duplicateEntity "User"), ("Account", .missingPartitionKey),
          ("User.id", .keyIndexed), ("User.id", .viewIndexed)]
      ∧ (userFaults.merge accountFaults).violationsAt "User.id"
        = userFaults.violationsAt "User.id" ++ accountFaults.violationsAt "User.id"
      ∧ (userFaults.merge accountFaults).merge userFaults
        = userFaults.merge (accountFaults.merge userFaults) := by
  have ha : userFaults.Ordered := ordered_ofFindings _
  have hb : accountFaults.Ordered :=
    (ordered_ofFindings _).onRoute fun t ht => ht.onRoute fun t ht => ht
  obtain ⟨-, hsize, -, -, hat, hassoc, -⟩ := merge_loses_nothing ha hb
  exact ⟨ha, hb, hsize, by decide +kernel, hat _, hassoc _ ha⟩

/-- A place that was only looked at is no failure. -/
example : (empty.onRoute "User" (·.onRoute "id" id)).result = .ok () := rfl

end WideColumn.Schema.ErrorTree
