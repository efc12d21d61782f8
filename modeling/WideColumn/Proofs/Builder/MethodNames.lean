/-
# Which methods of one state can share a name

The methods of a state are named by words of their own, like `limit`, and by the name of a field
with an ENDING, like `_eq`.  No word ends like a field's method, and the endings that meet in one
state do not end in one another, so in general all names of a state differ.

What remains are names of fields that look like names of methods, and user types whose parts are
set one by one: the method of the part `b` of a field `a` is the one of a field `a_b`.
-/
import Mathlib.Data.List.Nodup
import WideColumn.Builder.Entry
import WideColumn.Proofs.Builder.Plan
import WideColumn.Proofs.Key.Shape

namespace WideColumn.Builder

/-! ## 1. Endings -/

/-- Neither text ends in the other. -/
def EndApart (s t : String) : Prop := ¬s.toList <:+ t.toList ∧ ¬t.toList <:+ s.toList

instance (s t : String) : Decidable (EndApart s t) :=
  inferInstanceAs (Decidable (¬s.toList <:+ t.toList ∧ ¬t.toList <:+ s.toList))

theorem append_ne_of_endApart {s t : String} (h : EndApart s t) (x y : String) :
    x ++ s ≠ y ++ t := by
  intro heq
  have hs : s.toList <:+ (x ++ s).toList := by
    rw [String.toList_append]
    exact List.suffix_append _ _
  have ht : t.toList <:+ (x ++ s).toList := by
    rw [heq, String.toList_append]
    exact List.suffix_append _ _
  exact (List.suffix_or_suffix_of_suffix hs ht).elim h.1 h.2

theorem append_not_mem {words : List String} {s : String}
    (h : ∀ w ∈ words, ¬s.toList <:+ w.toList) (x : String) : x ++ s ∉ words := by
  intro hmem
  refine h _ hmem ?_
  rw [String.toList_append]
  exact List.suffix_append _ _

section
variable {α : Type} {word : α → String} {endings : α → List String} {xs : List α}

theorem nodup_map_append {endings : List String} (h : endings.Nodup) (x : String) :
    (endings.map (x ++ ·)).Nodup :=
  h.map fun _ _ heq => (String.append_right_inj x).mp heq

/-- **Words with endings differ**, if the words do and no ending is the end of another one. -/
theorem nodup_endings (hwords : (xs.map word).Nodup) (hown : ∀ x ∈ xs, (endings x).Nodup)
    (hfree : ∀ x ∈ xs, ∀ y ∈ xs, ∀ s ∈ endings x, ∀ t ∈ endings y, s = t ∨ EndApart s t) :
    (xs.flatMap fun x => (endings x).map (word x ++ ·)).Nodup := by
  refine List.nodup_flatMap.mpr ⟨fun x hx => nodup_map_append (hown x hx) (word x), ?_⟩
  refine List.Pairwise.imp_of_mem ?_ (List.pairwise_map.mp hwords)
  intro x y hx hy hne n hn hn'
  obtain ⟨s, hs, rfl⟩ := List.mem_map.mp hn
  obtain ⟨t, ht, heq⟩ := List.mem_map.mp hn'
  rcases hfree x hx y hy s hs t ht with rfl | hapart
  · exact hne ((String.append_left_inj s).mp heq.symm)
  · exact append_ne_of_endApart hapart _ _ heq.symm

end

/-! ## 2. Words -/

variable {p : Plan} {family after : String} {f : PlannedField}

/-- The names of methods. -/
def methodNames (ms : List Method) : List String := ms.map Method.name

@[simp] theorem methodNames_append (ms ms' : List Method) :
    methodNames (ms ++ ms') = methodNames ms ++ methodNames ms' := List.map_append

@[simp] theorem methodNames_cons (m : Method) (ms : List Method) :
    methodNames (m :: ms) = m.name :: methodNames ms := rfl

@[simp] theorem methodNames_nil : methodNames [] = [] := rfl

@[simp] theorem methodNames_passedTo (state : String) (ms : List Method) :
    methodNames (passedTo state ms) = methodNames ms := List.map_map

@[simp] theorem methodNames_ite {c : Prop} [Decidable c] {ms : List Method} :
    methodNames (if c then ms else []) = if c then methodNames ms else [] := by
  split <;> rfl

@[simp] theorem name_change (name : String) (action : Action) (next : Option String) :
    (change name action next).name = name := rfl

@[simp] theorem name_setting (s : Setting) : (setting s).name = s.name := rfl

@[simp] theorem name_finish (t : Terminal) : (finish t).name = t.name := rfl

@[simp] theorem name_equate (name next : String) : (equate f name next).name = name := rfl

@[simp] theorem name_among (next : String) : (among f next).name = f.name ++ "_in" := rfl

@[simp] theorem name_equateJson (next : String) :
    (equateJson f next).name = f.name ++ "_from_json" := rfl

theorem ite_sublist {c : Prop} [Decidable c] {α : Type} (l : List α) :
    (if c then l else []).Sublist l := by
  split
  · exact .refl l
  · exact List.nil_sublist l

/-- The words that reading chains may end with. -/
def readWords : List String :=
  ["limit", "per_partition_limit", "with_natural_order", "with_reversed_order",
    "with_consistency", "with_serial_consistency", "with_fetch_size", "with_paging_state",
    "statement", "get_json_list", "get_json_one", "get_list", "get_one", "get_rows",
    "get_list_async"]

/-- The words that writing chains may end with. -/
def writeWords : List String :=
  ["using_ttl", "using_timestamp", "with_consistency", "with_serial_consistency", "statement",
    "execute", "execute_async"]

theorem names_readMethods {json ordering : Bool} :
    (methodNames (readMethods p json ordering)).Sublist readWords := by
  have hterminals : (methodNames (readTerminals p json)).Sublist
      ["get_json_list", "get_json_one", "get_list", "get_one", "get_rows", "get_list_async"] := by
    cases json with
    | false => exact .append_right (List.nil_sublist ["get_json_list", "get_json_one"]) _
    | true => exact List.sublist_append_left ["get_json_list", "get_json_one"] _
  simp only [readMethods, methodNames_append, methodNames_ite, methodNames_cons, methodNames_nil,
    consistencyMethods, name_setting, name_finish]
  exact ((((List.Sublist.refl _).append (ite_sublist _)).append (ite_sublist _)).append
    (.refl _)).append (.refl _) |>.append hterminals

theorem names_writeMethods {ttl : Bool} : (methodNames (writeMethods ttl)).Sublist writeWords := by
  cases ttl <;> decide

/-! ## 3. Select chains -/

/-- The endings of equality and bounds of a clustering column. -/
def rangeEndings : List String :=
  ["_eq", "_lt", "_lte", "_gt", "_gte", "_gt_and_lt", "_gt_and_lte", "_gte_and_lt", "_gte_and_lte"]

theorem names_boundMethods {position : Nat} (h : position ≠ 0) {next : String} :
    methodNames (boundMethods f position next) = rangeEndings.tail.map (f.name ++ ·) := by
  rw [boundMethods, Key.legalShapes_eq_all h]
  rfl

/-- Names that end in relations of a clustering column are no words of a chain's end. -/
theorem disjoint_rangeEndings {words : List String}
    (h : ∀ s ∈ rangeEndings, ∀ w ∈ words, ¬s.toList <:+ w.toList) :
    List.Disjoint (rangeEndings.map (f.name ++ ·)) words := by
  rintro _ hn hw
  obtain ⟨s, hs, rfl⟩ := List.mem_map.mp hn
  exact append_not_mem (h s hs) f.name hw

/-- Only where a function can be called from the first partition column, and that column is named
like the method which calls it, do methods of a partition column share a name. -/
theorem nodup_partitionStates_iff {first : Bool} {fs : List PlannedField} :
    (∀ s ∈ partitionStates p family after first fs, (methodNames s.methods).Nodup) ↔
      (first = true → p.schema.functions ≠ [] → ∀ f ∈ fs.head?, f.name ≠ "with_function") := by
  induction fs generalizing first with
  | nil => simp [partitionStates]
  | cons f fs ih =>
    rw [partitionStates, List.forall_mem_cons, ih, and_iff_left (by simp)]
    simp only [List.append_assoc, methodNames_append, methodNames_ite, methodNames_cons,
      methodNames_nil, name_change, name_equate, name_among, name_equateJson,
      List.cons_append, List.nil_append]
    -- the methods beside the call of a function
    have hown : (f.name :: ((if fs.isEmpty then [f.name ++ "_in"] else [])
        ++ if p.has .jsonRelations then [f.name ++ "_from_json"] else [])).Sublist
        (["", "_in", "_from_json"].map (f.name ++ ·)) := by
      simp only [List.map_cons, List.map_nil, String.append_empty]
      refine List.Sublist.cons_cons f.name ?_
      exact (ite_sublist [f.name ++ "_in"]).append (ite_sublist [f.name ++ "_from_json"])
    generalize (if fs.isEmpty then [f.name ++ "_in"] else [])
        ++ (if p.has .jsonRelations then [f.name ++ "_from_json"] else []) = others at hown ⊢
    have hnodup : (f.name :: others).Nodup := (nodup_map_append (by decide) f.name).sublist hown
    have hfunction : "with_function" ∈ f.name :: others ↔ f.name = "with_function" := by
      refine ⟨fun hmem => ?_, fun heq => heq ▸ List.mem_cons_self⟩
      obtain ⟨s, hs, hname⟩ := List.mem_map.mp (hown.subset hmem)
      rcases List.mem_cons.mp hs with rfl | hs
      · simpa using hname
      · have hends : ∀ s ∈ ["_in", "_from_json"], ∀ w ∈ ["with_function"],
            ¬s.toList <:+ w.toList := by decide
        exact absurd (hname ▸ List.mem_singleton_self _) (append_not_mem (hends s hs) f.name)
    by_cases hcall : (first && !p.schema.functions.isEmpty) = true
    · rw [if_pos hcall, List.singleton_append, List.nodup_cons, and_iff_left hnodup, hfunction]
      simp only [Bool.and_eq_true, Bool.not_eq_true', List.isEmpty_eq_false_iff] at hcall
      simp [hcall]
    · rw [if_neg hcall, List.nil_append]
      refine iff_of_true hnodup fun hfirst hsome => absurd ?_ hcall
      simp [hfirst, hsome]

/-- The methods of a clustering column have names of their own. -/
theorem nodup_clusteringStates {last : String} {json ordering : Bool} {position : Nat}
    (h : position ≠ 0) {fs : List PlannedField} :
    ∀ s ∈ clusteringStates p family last (readMethods p json ordering) position fs,
      (methodNames s.methods).Nodup := by
  induction fs generalizing position with
  | nil => intro s hs; cases hs
  | cons f fs ih =>
    refine List.forall_mem_cons.mpr ⟨?_, ih (Nat.succ_ne_zero position)⟩
    have hnames : (methodNames (equate f (f.name ++ "_eq") (p.stateForFirst family fs last)
        :: boundMethods f position last ++ passedTo last (readMethods p json ordering))).Sublist
        (rangeEndings.map (f.name ++ ·) ++ readWords) := by
      rw [methodNames_append, methodNames_cons, names_boundMethods h, methodNames_passedTo]
      exact .append_left names_readMethods _
    refine List.Nodup.sublist hnames (List.nodup_append'.mpr ⟨?_, by decide, ?_⟩)
    · exact nodup_map_append (by decide) f.name
    · exact disjoint_rangeEndings (by decide)

/-- The methods of select chains have names of their own, unless a function can be called and the
first partition column is named like the method that calls it. -/
theorem nodup_selectStates_iff {json : Bool} :
    (∀ s ∈ selectStates p json, (methodNames s.methods).Nodup) ↔
      (p.schema.functions ≠ [] → ∀ f ∈ p.partition.head?, f.name ≠ "with_function") := by
  have hread : (methodNames (readMethods p json (!p.clustering.isEmpty))).Nodup :=
    List.Nodup.sublist names_readMethods (by decide)
  simp only [selectStates, List.forall_mem_append, nodup_partitionStates_iff]
  rw [and_iff_left (by simpa using hread),
    and_iff_left (nodup_clusteringStates (Nat.succ_ne_zero 0)), forall_const]

/-! ## 4. The end of a writing chain -/

/-- The name of the condition on a column. -/
def testName (f : PlannedField) : String := "if_" ++ f.name ++ "_eq"

theorem nodup_testNames {tested : List PlannedField} (h : (tested.map (·.name)).Nodup) :
    (tested.map testName).Nodup := by
  have hmap : tested.map testName = (tested.map (·.name)).map fun n => "if_" ++ n ++ "_eq" := by
    rw [List.map_map]; rfl
  rw [hmap]
  refine h.map fun x y hxy => ?_
  exact (String.append_right_inj "if_").mp ((String.append_left_inj "_eq").mp hxy)

theorem disjoint_testNames {tested : List PlannedField} {words : List String}
    (h : ∀ w ∈ words, ¬"_eq".toList <:+ w.toList) : List.Disjoint (tested.map testName) words := by
  rintro _ hn hw
  obtain ⟨f, -, rfl⟩ := List.mem_map.mp hn
  exact append_not_mem h ("if_" ++ f.name) hw

@[simp] theorem names_conditionalMethods {tested : List PlannedField} :
    methodNames (conditionalMethods p family tested) =
      if p.has .lightweightTransactions then "if_exists" :: tested.map testName else [] := by
  rw [conditionalMethods, methodNames_ite, methodNames_cons, methodNames, List.map_map]
  rfl

/-- The methods of the last state of a writing chain have names of their own. -/
theorem nodup_endMethods {tested : List PlannedField} {ttl : Bool}
    (h : (tested.map (·.name)).Nodup) :
    (methodNames (conditionalMethods p family tested ++ writeMethods ttl)).Nodup := by
  have hall : ("if_exists" :: tested.map testName ++ writeWords).Nodup := by
    refine List.nodup_append'.mpr ⟨List.nodup_cons.mpr ⟨?_, nodup_testNames h⟩, by decide, ?_⟩
    · have hapart : List.Disjoint (tested.map testName) ["if_exists"] :=
        disjoint_testNames (by decide)
      exact fun hmem => hapart hmem (List.mem_singleton_self _)
    · exact List.disjoint_cons_left.mpr ⟨by decide, disjoint_testNames (by decide)⟩
  refine hall.sublist ?_
  rw [methodNames_append, names_conditionalMethods]
  exact (ite_sublist _).append names_writeMethods

theorem nodup_conditionalStates {tested : List PlannedField} {ttl : Bool}
    (h : (tested.map (·.name)).Nodup) :
    ∀ s ∈ conditionalStates p family tested (writeMethods ttl), (methodNames s.methods).Nodup := by
  have htail : (methodNames (writeMethods ttl)).Nodup :=
    List.Nodup.sublist names_writeMethods (by decide)
  have htests : (methodNames (tested.map (testField · none) ++ writeMethods ttl)).Nodup := by
    have hall : (tested.map testName ++ writeWords).Nodup :=
      List.nodup_append'.mpr ⟨nodup_testNames h, by decide, disjoint_testNames (by decide)⟩
    refine hall.sublist ?_
    rw [methodNames_append, methodNames, List.map_map]
    exact .append_left names_writeMethods _
  intro s hs
  rw [conditionalStates] at hs
  split at hs
  · rcases List.mem_cons.mp hs with rfl | hs
    · exact htail
    · split at hs
      · cases hs
      · obtain rfl := List.mem_singleton.mp hs
        exact htests
  · cases hs

theorem nodup_keyStates {fs : List PlannedField} :
    ∀ s ∈ keyStates p family after fs, (methodNames s.methods).Nodup := by
  induction fs with
  | nil => intro s hs; cases hs
  | cons f fs ih => exact List.forall_mem_cons.mpr ⟨List.nodup_singleton _, ih⟩

theorem nodup_insertStates : ∀ s ∈ insertStates p, (methodNames s.methods).Nodup := by
  intro s hs
  rw [insertStates] at hs
  split at hs
  · obtain rfl := List.mem_singleton.mp hs
    have hall : ("if_not_exists" :: writeWords).Nodup := by decide
    refine hall.sublist ?_
    rw [methodNames_append, methodNames_ite]
    exact (ite_sublist ["if_not_exists"]).append names_writeMethods
  · cases hs

/-! ## 5. Delete chains -/

/-- A relation of a clustering column is named like a method of the chain's end only if it is
equality, and the column is named like a condition on another one. -/
theorem mem_endMethods_iff {tested : List PlannedField} {s : String} (hs : s ∈ rangeEndings) :
    f.name ++ s ∈ methodNames (conditionalMethods p family tested ++ writeMethods false) ↔
      s = "_eq" ∧ p.has .lightweightTransactions = true
        ∧ ∃ g ∈ tested, f.name = "if_" ++ g.name := by
  have hwords : ∀ s ∈ rangeEndings, ∀ w ∈ "if_exists" :: writeWords, ¬s.toList <:+ w.toList := by
    decide
  have hapart : ∀ s ∈ rangeEndings, s = "_eq" ∨ EndApart s "_eq" := by decide
  have hwrite : f.name ++ s ∉ methodNames (writeMethods false) := fun hmem =>
    append_not_mem (hwords s hs) f.name (List.mem_cons_of_mem _ (names_writeMethods.subset hmem))
  have hexists : f.name ++ s ≠ "if_exists" := fun heq =>
    append_not_mem (hwords s hs) f.name (heq ▸ List.mem_cons_self)
  rw [methodNames_append, List.mem_append, or_iff_left hwrite, names_conditionalMethods]
  by_cases hlwt : p.has .lightweightTransactions = true
  · rw [if_pos hlwt, List.mem_cons, or_iff_right hexists, List.mem_map]
    constructor
    · rintro ⟨g, hg, hname⟩
      rcases hapart s hs with rfl | hne
      · exact ⟨rfl, hlwt, g, hg, ((String.append_left_inj "_eq").mp hname).symm⟩
      · exact absurd hname.symm (append_ne_of_endApart hne f.name ("if_" ++ g.name))
    · rintro ⟨rfl, -, g, hg, heq⟩
      exact ⟨g, hg, by rw [testName, heq]⟩
  · simp [hlwt]

/-- The clustering columns at which a delete can end, when the first one stands at a place of the
key: all of them where the store deletes ranges, and else only the first one of the key. -/
def narrowed (p : Plan) (position : Nat) (fs : List PlannedField) : List PlannedField :=
  if p.has .clusteringRangeDelete then fs else if position = 1 then fs.take 1 else []

theorem narrowed_cons {position : Nat} (h : position ≠ 0) {fs : List PlannedField} :
    narrowed p position (f :: fs) =
      (if position == 1 || p.has .clusteringRangeDelete then [f] else [])
        ++ narrowed p (position + 1) fs := by
  simp only [narrowed]
  cases p.has .clusteringRangeDelete <;> simp [h]

/-- The methods of the clustering columns of a delete have names of their own, unless a column at
which the delete can end is named like a condition on another one. -/
theorem nodup_narrowingStates_iff {last : String} {tested : List PlannedField}
    (htested : (tested.map (·.name)).Nodup) {position : Nat} (hposition : position ≠ 0)
    {fs : List PlannedField} :
    (∀ s ∈ narrowingStates p family last
        (conditionalMethods p family tested ++ writeMethods false) position fs,
      (methodNames s.methods).Nodup) ↔
      (p.has .lightweightTransactions = true →
        ∀ f ∈ narrowed p position fs, ∀ g ∈ tested, f.name ≠ "if_" ++ g.name) := by
  induction fs generalizing position with
  | nil => simp [narrowingStates, narrowed]
  | cons f fs ih =>
    have hown : (methodNames (equate f (f.name ++ "_eq") (p.stateForFirst family fs last)
        :: if p.has .clusteringRangeDelete then boundMethods f position last else [])).Sublist
        (rangeEndings.map (f.name ++ ·)) := by
      rw [methodNames_cons, methodNames_ite, names_boundMethods hposition]
      exact (ite_sublist _).cons_cons _
    have hnodup := List.Nodup.sublist hown (nodup_map_append (by decide) f.name)
    have hends : (methodNames (conditionalMethods p family tested ++ writeMethods false)).Nodup :=
      nodup_endMethods htested
    -- all that can meet is equality and a condition
    have hmeet : List.Disjoint (methodNames (equate f (f.name ++ "_eq")
          (p.stateForFirst family fs last)
        :: if p.has .clusteringRangeDelete then boundMethods f position last else []))
        (methodNames (conditionalMethods p family tested ++ writeMethods false)) ↔
        (p.has .lightweightTransactions = true → ∀ g ∈ tested, f.name ≠ "if_" ++ g.name) := by
      constructor
      · intro hdisjoint hlwt g hg heq
        refine hdisjoint List.mem_cons_self ?_
        exact (mem_endMethods_iff (by decide)).mpr ⟨rfl, hlwt, g, hg, heq⟩
      · rintro hapart _ hn hend
        obtain ⟨s, hs, rfl⟩ := List.mem_map.mp (hown.subset hn)
        obtain ⟨-, hlwt, g, hg, heq⟩ := (mem_endMethods_iff hs).mp hend
        exact hapart hlwt g hg heq
    rw [narrowingStates, List.forall_mem_cons, ih (Nat.succ_ne_zero position),
      narrowed_cons hposition, methodNames_append, methodNames_ite, methodNames_passedTo]
    by_cases hopen : (position == 1 || p.has .clusteringRangeDelete) = true
    · rw [if_pos hopen, if_pos hopen, List.nodup_append', and_iff_right hnodup,
        and_iff_right hends, hmeet]
      simp only [List.singleton_append, List.forall_mem_cons, forall_and]
    · rw [if_neg hopen, if_neg hopen, List.append_nil, and_iff_right hnodup, List.nil_append]

theorem nodup_deleteFamily_iff {clustering tested : List PlannedField}
    (htested : (tested.map (·.name)).Nodup) :
    (∀ s ∈ deleteFamily p family clustering tested, (methodNames s.methods).Nodup) ↔
      (p.has .lightweightTransactions = true →
        ∀ f ∈ narrowed p 1 clustering, ∀ g ∈ tested, f.name ≠ "if_" ++ g.name) := by
  rw [deleteFamily, List.forall_mem_append, List.forall_mem_append, List.forall_mem_cons,
    and_iff_left ⟨nodup_endMethods htested, nodup_conditionalStates htested⟩,
    and_iff_right nodup_keyStates, nodup_narrowingStates_iff htested (Nat.succ_ne_zero 0)]

/-- The methods of delete chains have names of their own, unless a column at which a delete can
end is named like a condition on another one. -/
theorem nodup_deleteStates_iff (htested : (p.testable.map (·.name)).Nodup) :
    (∀ s ∈ deleteStates p, (methodNames s.methods).Nodup) ↔
      (p.has .lightweightTransactions = true →
        ∀ f ∈ narrowed p 1 p.clustering, ∀ g ∈ p.testable, f.name ≠ "if_" ++ g.name) := by
  have hstatic : ∀ s ∈ if p.statics.isEmpty then [] else deleteFamily p "DeleteStatic" [] [],
      (methodNames s.methods).Nodup := by
    split
    · simp
    · refine (nodup_deleteFamily_iff ?_).mpr ?_ <;> simp
  rw [deleteStates, List.forall_mem_append, and_iff_left hstatic, nodup_deleteFamily_iff htested]

end WideColumn.Builder
