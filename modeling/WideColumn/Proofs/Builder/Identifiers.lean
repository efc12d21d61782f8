/-
# Which names the generator puts together

Names in source come from names in declarations.  Some are read as source and refused if they are
no names; others are put together of such names and of words of the generator, and nothing looks
at them again.  There are four kinds of these (`BuiltName`): the items of an entity, the methods of
a field, the conditions on it, and the assignments to its parts.

In an accepted batch all parts that are put together are plain words, and what makes a word
reserved does not survive being put together, so every such name is a name of source
(`identifier?_of_builtName`), whether generation succeeds in the end or not.  And no state mentions
any other name (`covered_of_states`).
-/
import WideColumn.Proofs.Builder.Failures
import WideColumn.Proofs.Builder.FieldNames
import WideColumn.Proofs.Builder.Legal
import WideColumn.Proofs.Text.Words

namespace WideColumn

/-! ## 1. What keeps a word from being reserved -/

namespace Source.IsPlainWord

variable {n : String}

/-- A word with an underscore inside is not reserved. -/
theorem identifier?_of_underscore (h : IsPlainWord n) (hmem : '_' ∈ n.toList) :
    identifier? n = some n := by
  have hreserved : ∀ w ∈ Word.reserved, '_' ∈ w.toList →
      w.toList.head?.any Char.isAlpha = false := by decide +kernel
  have hname : Word.isName n = true := by
    rw [Word.isName, Bool.not_eq_true', ← Bool.not_eq_true, List.contains_iff_mem]
    intro hres
    have hstart := h.start
    rw [hreserved n hres hmem] at hstart
    cases hstart
  rw [h.identifier?_eq, if_pos hname]

/-- A word with an upper letter after the first one is not reserved. -/
theorem identifier?_of_upper (h : IsPlainWord n) {c : Char} (hc : c ∈ n.toList.tail)
    (hupper : c.isUpper = true) : identifier? n = some n := by
  have hreserved : ∀ w ∈ Word.reserved, w.toList.tail.any Char.isUpper = false := by
    decide +kernel
  have hname : Word.isName n = true := by
    rw [Word.isName, Bool.not_eq_true', ← Bool.not_eq_true, List.contains_iff_mem]
    intro hres
    exact List.any_eq_false.mp (hreserved n hres) c hc hupper
  rw [h.identifier?_eq, if_pos hname]

end Source.IsPlainWord

/-! ## 2. Names that are put together -/

namespace Builder

open WideColumn.Source

variable {p : Plan} {family after : String} {f : PlannedField} {n : String}

/-- Endings of the methods of a field. -/
def methodEndings : List String :=
  ["_in", "_from_json", "_set"] ++ rangeEndings ++ relationEndings ++ assignmentEndings

/-- **Names that the generator puts together** for an entity. -/
inductive BuiltName (p : Plan) : String → Prop
  /-- An item: the name of the entity, then words, then it may be the name of a key column in upper
  camel case. -/
  | item {g : Group} {n : String} (hg : g ∈ itemGroups) (hn : n ∈ g.names p) : BuiltName p n
  /-- A method of a field. -/
  | method {f : PlannedField} {ending : String} (hf : f ∈ p.fields)
      (hending : ending = "" ∨ ending ∈ methodEndings) : BuiltName p (f.name ++ ending)
  /-- A condition on a field. -/
  | condition {f : PlannedField} (hf : f ∈ p.fields) : BuiltName p (testName f)
  /-- An assignment to a part of a field. -/
  | part {f : PlannedField} {u : Schema.UserType} {sub : Schema.TypeField} {ident : String}
      (hf : f ∈ p.fields) (hu : u ∈ p.schema.userTypes) (hsub : sub ∈ u.fields)
      (hident : name sub.name = .ok ident) : BuiltName p (f.name ++ "_" ++ ident ++ "_set")

/-- **The parts that names are put together of are plain words**, and names as they stand. -/
structure Plan.IsPlain (p : Plan) : Prop where
  entity : IsPlainWord p.name ∧ identifier? p.name = some p.name
  fields : ∀ f ∈ p.fields, IsPlainWord f.name ∧ identifier? f.name = some f.name
    ∧ ∀ c ∈ f.pascal.toList, isPlainChar c = true
  parts : ∀ u ∈ p.schema.userTypes, ∀ sub ∈ u.fields, ∀ ident,
    Builder.name sub.name = .ok ident → IsPlainWord ident

/-- **The plans of an accepted batch are plain.** -/
theorem isPlain_of_plan {d : Declaration} {registry : Schema.Registry}
    {defaults : Schema.Defaults} {s : Schema} {e : Schema.Entity} {profile : Profile}
    {emitDdl : Bool} (hload : Schema.load d registry defaults = .ok s) (he : e ∈ s.entities)
    (hplan : plan s profile emitDdl e = .ok p) : p.IsPlain := by
  constructor
  · have hfault := Schema.nameFault?_of_entity hload he
    have hname := name_of_plan hplan
    obtain heq := eq_of_name hfault hname
    rw [heq] at hname ⊢
    exact ⟨isPlainWord_of_nameFault? hfault, identifier?_of_name hname⟩
  · intro f hf
    obtain ⟨hfield, hmade⟩ := planField_of_plan hplan f hf
    have hfault := Schema.nameFault?_of_field hload he _ hfield
    have hname := (of_planField hmade).2
    have heq := eq_of_name hfault hname
    rw [heq] at hname ⊢
    have hword := isPlainWord_of_nameFault? hfault
    exact ⟨hword, identifier?_of_name hname, Text.isPlainChar_pascalCase hword.chars⟩
  · intro u hu sub hsub ident hident
    rw [schema_of_plan hplan] at hu
    have hfault := (Schema.nameFault?_of_userType hload hu).2 sub hsub
    rw [eq_of_name hfault hident]
    exact isPlainWord_of_nameFault? hfault

/-- An item is named by the entity and words that begin with an upper letter. -/
theorem identifier?_item (hp : p.IsPlain) {suffix : String}
    (hsuffix : ∀ c ∈ suffix.toList, isPlainChar c = true)
    (hupper : suffix.toList.head?.any Char.isUpper = true) :
    identifier? (p.item suffix) = some (p.item suffix) := by
  obtain ⟨c, hc, hletter⟩ := (Option.any_eq_true _ _).mp hupper
  obtain ⟨d, ds, hname, -⟩ := hp.entity.1.ordinary
  refine (hp.entity.1.append hsuffix).identifier?_of_upper (c := c) ?_ hletter
  rw [String.toList_append, hname]
  exact List.mem_append_right _ (List.mem_of_mem_head? hc)

theorem isPlainChar_lead : ∀ g ∈ itemGroups, (g.lead.toList.all isPlainChar = true)
    ∧ (g.lead = "" ∨ g.lead.toList.head?.any Char.isUpper = true) := by decide +kernel

/-- **The items of an entity are named by names of source.** -/
theorem identifier?_of_group (hp : p.IsPlain) {g : Group} (hg : g ∈ itemGroups)
    (hn : n ∈ g.names p) : identifier? n = some n := by
  obtain ⟨hlead, hupper⟩ := isPlainChar_lead g hg
  rw [List.all_eq_true] at hlead
  cases g with
  | single suffix =>
    obtain rfl := List.mem_singleton.mp hn
    rcases hupper with hempty | hupper
    · rw [Group.lead] at hempty
      subst hempty
      rw [Plan.item, String.append_empty]
      exact hp.entity.2
    · exact identifier?_item hp hlead hupper
  | key family =>
    obtain ⟨f, hf, rfl⟩ := List.mem_map.mp hn
    have hfield : f ∈ p.fields := (List.mem_append.mp hf).elim List.mem_of_mem_filter
      List.mem_of_mem_filter
    refine identifier?_item hp (fun c hc => ?_) (any_head?_append (hupper.resolve_left ?_))
    · rw [String.toList_append, List.mem_append] at hc
      exact hc.elim (hlead c) ((hp.fields f hfield).2.2 c)
    · intro hempty
      have hlength := congrArg String.toList hempty
      simp [Group.lead, String.toList_append] at hlength

/-- **Whatever name is put together, it is a name of source.** -/
theorem identifier?_of_builtName (hp : p.IsPlain) (h : BuiltName p n) :
    identifier? n = some n := by
  cases h with
  | item hg hn => exact identifier?_of_group hp hg hn
  | @method f ending hf hending =>
    obtain ⟨hword, hname, -⟩ := hp.fields f hf
    rcases hending with rfl | hending
    · rwa [String.append_empty]
    · have hplain : ∀ s ∈ methodEndings,
          s.toList.all isPlainChar = true ∧ '_' ∈ s.toList := by decide +kernel
      obtain ⟨hchars, hmem⟩ := hplain ending hending
      refine (hword.append (List.all_eq_true.mp hchars)).identifier?_of_underscore ?_
      rw [String.toList_append]
      exact List.mem_append_right _ hmem
  | @condition f hf =>
    have hword : IsPlainWord "if_" := ⟨by decide, List.all_eq_true.mp (by decide)⟩
    have hname := (hword.append (hp.fields f hf).1.chars).append
      (b := "_eq") (List.all_eq_true.mp (by decide))
    exact hname.identifier?_of_underscore (by simp [String.toList_append])
  | @part f u sub ident hf hu hsub hident =>
    have hword := (hp.fields f hf).1.append (b := "_") (List.all_eq_true.mp (by decide))
    have hname := (hword.append (hp.parts u hu sub hsub ident hident).chars).append
      (b := "_set") (List.all_eq_true.mp (by decide))
    exact hname.identifier?_of_underscore (by simp [String.toList_append])

/-! ## 3. What states mention -/

/-- Words that name methods of every entity alike. -/
def methodWords : List String :=
  ["with_function", "if_exists", "if_not_exists", "allow_filtering"] ++ readWords ++ writeWords

/-- The states that a method mentions: the one that it goes on in, and the one that it is passed
on to. -/
def Method.mentions (m : Method) : List String :=
  m.via.toList ++
    match m.act with
    | .change _ _ next => next.toList
    | .finish _ => []

/-- **A method is covered** if it is named by a word or by a name that is put together, and the
states that it mentions are named so. -/
structure Method.Covered (p : Plan) (m : Method) : Prop where
  name : m.name ∈ methodWords ∨ BuiltName p m.name
  mentions : ∀ t ∈ m.mentions, BuiltName p t

section
variable {m : Method} {ms : List Method} {next : Option String} {last state : String}
  {fs tested : List PlannedField} {ss : List State} {json : Bool}

theorem covered_word {name : String} {a : Action} (hname : name ∈ methodWords)
    (hnext : ∀ t ∈ next, BuiltName p t) : (change name a next).Covered p :=
  ⟨.inl hname, by simpa [Method.mentions, change] using hnext⟩

/-- A method of a field is covered where the state is that it leads to. -/
theorem covered_field (hf : f ∈ p.fields) (hnext : ∀ t ∈ next, BuiltName p t) {ending : String}
    (hending : ending = "" ∨ ending ∈ methodEndings) (a : Action) :
    (change (f.name ++ ending) a next).Covered p :=
  ⟨.inr (.method hf hending), by simpa [Method.mentions, change] using hnext⟩

/-- The equality of a key column goes by the name of the column alone. -/
theorem covered_equate (hf : f ∈ p.fields) {next : String} (hnext : BuiltName p next) :
    (equate f f.name next).Covered p := by
  have hcovered : (equate f (f.name ++ "") next).Covered p :=
    covered_field hf (by simpa using hnext) (.inl rfl) _
  rwa [String.append_empty] at hcovered

/-- Methods that rest mention no state. -/
theorem covered_of_rests (hrests : ∀ m ∈ ms, m.Rests) (hnames : methodNames ms ⊆ methodWords) :
    ∀ m ∈ ms, m.Covered p := by
  intro m hm
  refine ⟨.inl (hnames (List.mem_map_of_mem hm)), fun t ht => ?_⟩
  obtain ⟨hvia, hact⟩ := hrests m hm
  rw [Method.mentions, hvia] at ht
  cases hkind : m.act with
  | finish t => simp [hkind] at ht
  | change name a next =>
    obtain ⟨rfl, -⟩ := hact name a next hkind
    simp [hkind] at ht

theorem covered_readMethods {ordering : Bool} : ∀ m ∈ readMethods p json ordering, m.Covered p :=
  covered_of_rests rests_readMethods
    (List.Subset.trans names_readMethods.subset fun _ h =>
      List.mem_append_left _ (List.mem_append_right _ h))

theorem covered_writeMethods {ttl : Bool} : ∀ m ∈ writeMethods ttl, m.Covered p :=
  covered_of_rests rests_writeMethods
    (List.Subset.trans names_writeMethods.subset fun _ h => List.mem_append_right _ h)

/-- Methods that are passed on mention the state that they are passed on to. -/
theorem covered_passedTo (hstate : BuiltName p state) (h : ∀ m ∈ ms, m.Covered p) :
    ∀ m ∈ passedTo state ms, m.Covered p := by
  intro m hm
  obtain ⟨own, hown, rfl⟩ := List.mem_map.mp hm
  refine ⟨(h own hown).name, fun t ht => ?_⟩
  rcases List.mem_append.mp ht with ht | ht
  · rw [Option.toList_some, List.mem_singleton] at ht
    rwa [ht]
  · exact (h own hown).mentions t (List.mem_append_right _ ht)

theorem covered_boundMethods (hf : f ∈ p.fields) {position : Nat} (hposition : position ≠ 0)
    {next : String} (hnext : BuiltName p next) :
    ∀ m ∈ boundMethods f position next, m.Covered p := by
  intro m hm
  constructor
  · have hname : m.name ∈ methodNames (boundMethods f position next) := List.mem_map_of_mem hm
    rw [names_boundMethods hposition] at hname
    obtain ⟨ending, hending, heq⟩ := List.mem_map.mp hname
    rw [← heq]
    exact .inr (.method hf (.inr (List.mem_append_left _
      (List.mem_append_left _ (List.mem_append_right _ (List.mem_of_mem_tail hending))))))
  · obtain ⟨name, a, rfl, -⟩ := mem_boundMethods hm
    simpa [Method.mentions, change] using hnext

theorem keyedGroups_subset : keyedGroups ⊆ itemGroups := fun g hg => by
  simp [itemGroups, stateGroups, hg]

/-- A single item of the entity. -/
theorem builtName_single {suffix : String} (h : Group.single suffix ∈ itemGroups) :
    BuiltName p (p.item suffix) := .item h (List.mem_singleton_self _)

/-- The state of a key column. -/
theorem builtName_stateFor (h : Group.key family ∈ itemGroups)
    (hf : f ∈ p.partition ++ p.clustering) :
    BuiltName p (p.stateFor family f) := .item h (List.mem_map_of_mem hf)

theorem builtName_stateForFirst (h : Group.key family ∈ itemGroups)
    (hfs : fs ⊆ p.partition ++ p.clustering) (hafter : BuiltName p after) :
    BuiltName p (p.stateForFirst family fs after) := by
  cases fs with
  | nil => exact hafter
  | cons f fs => exact builtName_stateFor h (hfs List.mem_cons_self)

theorem mem_fields_of_key (hf : f ∈ p.partition ++ p.clustering) : f ∈ p.fields :=
  (List.mem_append.mp hf).elim List.mem_of_mem_filter List.mem_of_mem_filter

/-! ### Key columns -/

section
variable (hkey : Group.key family ∈ itemGroups) (hfs : fs ⊆ p.partition ++ p.clustering)
include hkey hfs

theorem covered_partitionStates (hafter : BuiltName p after) {first : Bool} :
    ∀ s ∈ partitionStates p family after first fs, ∀ m ∈ s.methods, m.Covered p := by
  induction fs generalizing first with
  | nil => simp [partitionStates]
  | cons f fs ih =>
    obtain ⟨hf, hothers⟩ := List.cons_subset.mp hfs
    have hnext := builtName_stateForFirst hkey hothers hafter
    have hone : ∀ ending ∈ methodEndings, ∀ a,
        (change (f.name ++ ending) a (some (p.stateForFirst family fs after))).Covered p :=
      fun ending hending => covered_field (mem_fields_of_key hf) (by simpa using hnext)
        (.inr hending)
    rw [partitionStates, List.forall_mem_cons]
    refine ⟨fun m hm => ?_, ih hothers⟩
    simp only [List.mem_append, List.mem_ite_nil_right, List.mem_singleton] at hm
    rcases hm with ((⟨-, rfl⟩ | rfl) | ⟨-, rfl⟩) | ⟨-, rfl⟩
    · exact covered_word (by decide) (by simp)
    · exact covered_equate (mem_fields_of_key hf) hnext
    · exact hone "_in" (by decide) _
    · exact hone "_from_json" (by decide) _

theorem covered_keyStates (hafter : BuiltName p after) :
    ∀ s ∈ keyStates p family after fs, ∀ m ∈ s.methods, m.Covered p := by
  induction fs with
  | nil => simp [keyStates]
  | cons f fs ih =>
    obtain ⟨hf, hothers⟩ := List.cons_subset.mp hfs
    rw [keyStates, List.forall_mem_cons]
    refine ⟨List.forall_mem_singleton.mpr ?_, ih hothers⟩
    exact covered_equate (mem_fields_of_key hf) (builtName_stateForFirst hkey hothers hafter)

variable (hlast : BuiltName p last) (hms : ∀ m ∈ ms, m.Covered p)
include hlast hms

/-- A clustering column is equated or bounded, or the chain ends. -/
theorem covered_clustering {f : PlannedField} (hf : f ∈ p.partition ++ p.clustering)
    {position : Nat} (hposition : position ≠ 0) :
    ∀ m ∈ equate f (f.name ++ "_eq") (p.stateForFirst family fs last)
      :: boundMethods f position last ++ passedTo last ms, m.Covered p := by
  refine List.forall_mem_append.mpr ⟨List.forall_mem_cons.mpr ⟨?_, ?_⟩, covered_passedTo hlast hms⟩
  · exact covered_field (mem_fields_of_key hf)
      (by simpa using builtName_stateForFirst hkey hfs hlast) (.inr (by decide)) _
  · exact covered_boundMethods (mem_fields_of_key hf) hposition hlast

theorem covered_clusteringStates {position : Nat} (hposition : position ≠ 0) :
    ∀ s ∈ clusteringStates p family last ms position fs, ∀ m ∈ s.methods, m.Covered p := by
  induction fs generalizing position with
  | nil => simp [clusteringStates]
  | cons f fs ih =>
    obtain ⟨hf, hothers⟩ := List.cons_subset.mp hfs
    rw [clusteringStates, List.forall_mem_cons]
    exact ⟨covered_clustering hkey hothers hlast hms hf hposition,
      ih hothers (Nat.succ_ne_zero position)⟩

theorem covered_narrowingStates {position : Nat} (hposition : position ≠ 0) :
    ∀ s ∈ narrowingStates p family last ms position fs, ∀ m ∈ s.methods, m.Covered p := by
  induction fs generalizing position with
  | nil => simp [narrowingStates]
  | cons f fs ih =>
    obtain ⟨hf, hothers⟩ := List.cons_subset.mp hfs
    rw [narrowingStates, List.forall_mem_cons]
    refine ⟨fun m hm => ?_, ih hothers (Nat.succ_ne_zero position)⟩
    refine covered_clustering hkey hothers hlast hms hf hposition m ?_
    simp only [List.mem_append, List.mem_cons, List.mem_ite_nil_right] at hm ⊢
    tauto

end

/-! ### Writing -/

theorem covered_testFields (htested : tested ⊆ p.fields) (hnext : ∀ t ∈ next, BuiltName p t) :
    ∀ m ∈ tested.map (testField · next), m.Covered p := by
  intro m hm
  obtain ⟨f, hf, rfl⟩ := List.mem_map.mp hm
  exact ⟨.inr (.condition (htested hf)), by simpa [Method.mentions, testField, change] using hnext⟩

section
variable (hexists : Group.single (family ++ "IfExists") ∈ itemGroups)
  (hif : Group.single (family ++ "If") ∈ itemGroups) (htested : tested ⊆ p.fields)
include hexists hif htested

theorem covered_conditionalMethods : ∀ m ∈ conditionalMethods p family tested, m.Covered p := by
  intro m hm
  rw [conditionalMethods] at hm
  rcases List.mem_cons.mp (List.mem_ite_nil_right.mp hm).2 with rfl | hm
  · exact covered_word (by decide) (by simpa using builtName_single hexists)
  · exact covered_testFields htested (by simpa using builtName_single hif) m hm

omit hexists hif in
theorem covered_conditionalStates (hms : ∀ m ∈ ms, m.Covered p) :
    ∀ s ∈ conditionalStates p family tested ms, ∀ m ∈ s.methods, m.Covered p := by
  intro s hs
  rw [conditionalStates] at hs
  rcases List.mem_cons.mp (List.mem_ite_nil_right.mp hs).2 with rfl | hs
  · exact hms
  · split at hs
    · cases hs
    · obtain rfl := List.mem_singleton.mp hs
      exact List.forall_mem_append.mpr ⟨covered_testFields htested (by simp), hms⟩

/-- The last state of a writing chain, and those that conditions lead to. -/
theorem covered_lastStates {ttl : Bool} :
    ∀ s ∈ ⟨last, conditionalMethods p family tested ++ writeMethods ttl⟩
      :: conditionalStates p family tested (writeMethods ttl), ∀ m ∈ s.methods, m.Covered p :=
  List.forall_mem_cons.mpr
    ⟨List.forall_mem_append.mpr
      ⟨covered_conditionalMethods hexists hif htested, covered_writeMethods⟩,
      covered_conditionalStates htested covered_writeMethods⟩

end

theorem covered_insertStates : ∀ s ∈ insertStates p, ∀ m ∈ s.methods, m.Covered p := by
  intro s hs
  rw [insertStates] at hs
  obtain rfl := List.mem_singleton.mp (List.mem_ite_nil_right.mp hs).2
  refine List.forall_mem_append.mpr ⟨fun m hm => ?_, covered_writeMethods⟩
  obtain rfl := List.mem_singleton.mp (List.mem_ite_nil_right.mp hm).2
  exact covered_word (by decide) (by simp)

/-! ### Assignments -/

section
variable (hf : f ∈ p.fields) (hnext : ∀ t ∈ next, BuiltName p t)
include hf hnext

theorem covered_typeFieldMethods {u : Schema.UserType} (hu : u ∈ p.schema.userTypes)
    (h : typeFieldMethods p f next u = .ok ms) : ∀ m ∈ ms, m.Covered p := by
  intro m hm
  obtain ⟨sub, hsub, hmade⟩ := Except.exists_of_mem_mapM h m hm
  simp only [Except.bind_eq_ok_iff] at hmade
  obtain ⟨ident, hident, type, -, hmade⟩ := hmade
  cases hmade
  exact ⟨.inr (.part hf hu hsub hident), by simpa [Method.mentions, change] using hnext⟩

theorem covered_partMethods (h : partMethods p f next = .ok ms) : ∀ m ∈ ms, m.Covered p := by
  have hone : ∀ ending ∈ methodEndings, ∀ a, (change (f.name ++ ending) a next).Covered p :=
    fun ending hending => covered_field hf hnext (.inr hending)
  rw [partMethods] at h
  split at h
  · obtain ⟨element, -, h⟩ := Except.bind_eq_ok_iff.mp h
    cases h
    simp only [List.forall_mem_cons, List.not_mem_nil, IsEmpty.forall_iff, implies_true, and_true]
    exact ⟨hone "_append_to" (by decide) _, hone "_prepend_to" (by decide) _,
      hone "_set_at_index" (by decide) _, hone "_remove_from" (by decide) _⟩
  · cases h
    simp only [List.forall_mem_cons, List.not_mem_nil, IsEmpty.forall_iff, implies_true, and_true]
    exact ⟨hone "_add_to" (by decide) _, hone "_remove_from" (by decide) _⟩
  · obtain ⟨key, -, h⟩ := Except.bind_eq_ok_iff.mp h
    cases h
    simp only [List.forall_mem_cons, List.not_mem_nil, IsEmpty.forall_iff, implies_true, and_true]
    exact ⟨hone "_put_to" (by decide) _, hone "_remove_by_key" (by decide) _⟩
  · split at h
    · rename_i u hu
      exact covered_typeFieldMethods hf hnext (List.mem_of_find?_eq_some hu) h
    · cases h
      simp
  all_goals
    cases h
    simp

theorem covered_setMethods (h : setMethods p next f = .ok ms) : ∀ m ∈ ms, m.Covered p := by
  have hone : ∀ ending ∈ methodEndings, ∀ a, (change (f.name ++ ending) a next).Covered p :=
    fun ending hending => covered_field hf hnext (.inr hending)
  have hwhole : ∀ m ∈ wholeMethods f next, m.Covered p := by
    simp only [wholeMethods, List.forall_mem_cons, List.not_mem_nil, IsEmpty.forall_iff,
      implies_true, and_true]
    exact ⟨hone "_set" (by decide) _, hone "_set_null" (by decide) _⟩
  rw [setMethods] at h
  split at h
  · cases h
    simp only [counterMethods, List.forall_mem_cons, List.not_mem_nil, IsEmpty.forall_iff,
      implies_true, and_true]
    exact ⟨hone "_incr" (by decide) _, hone "_decr" (by decide) _⟩
  · split at h
    · cases h
      exact hwhole
    · obtain ⟨parts, hparts, h⟩ := Except.bind_eq_ok_iff.mp h
      cases h
      exact List.forall_mem_append.mpr ⟨hwhole, covered_partMethods hf hnext hparts⟩

end

theorem covered_updateFamilyIfAny {settable keys : List PlannedField}
    (hgroups : updateGroups family ⊆ itemGroups) (hsettable : settable ⊆ p.fields)
    (hkeys : keys ⊆ p.partition ++ p.clustering) (htested : tested ⊆ p.fields)
    (h : updateFamilyIfAny p family settable keys tested = .ok ss) :
    ∀ s ∈ ss, ∀ m ∈ s.methods, m.Covered p := by
  have hset : ∀ {next ms}, (∀ t ∈ next, BuiltName p t) →
      settable.flatMapM (setMethods p next) = .ok ms → ∀ m ∈ ms, m.Covered p := by
    intro next ms hnext hms m hm
    obtain ⟨f, hf, own, hown, hm⟩ := Except.exists_of_mem_flatMapM hms m hm
    exact covered_setMethods (hsettable hf) hnext hown m hm
  have hlast : BuiltName p (p.lastState family) :=
    builtName_single (hgroups (by simp [updateGroups]))
  have hkey : Group.key family ∈ itemGroups := hgroups (by simp [updateGroups])
  rw [updateFamilyIfAny] at h
  split at h
  · cases h
    simp
  cases keys with
  | nil =>
    cases h
    simp
  | cons first others =>
    obtain ⟨hfirst, hothers⟩ := List.cons_subset.mp hkeys
    simp only [updateFamily, Except.bind_eq_ok_iff] at h
    obtain ⟨firstMethods, hfirstMethods, moreMethods, hmoreMethods, h⟩ := h
    cases h
    refine List.forall_mem_append.mpr ⟨List.forall_mem_append.mpr ⟨?_, ?_⟩, ?_⟩
    · have hmore : BuiltName p (p.item (family ++ "SetOrWhere")) :=
        builtName_single (hgroups (by simp [updateGroups]))
      refine List.forall_mem_cons.mpr ⟨hset (by simpa using hmore) hfirstMethods, ?_⟩
      refine List.forall_mem_singleton.mpr (List.forall_mem_append.mpr
        ⟨hset (by simp) hmoreMethods, List.forall_mem_singleton.mpr ?_⟩)
      exact covered_equate (mem_fields_of_key hfirst) (builtName_stateForFirst hkey hothers hlast)
    · exact covered_keyStates hkey hothers hlast
    · exact covered_lastStates (hgroups (by simp [updateGroups])) (hgroups (by simp [updateGroups]))
        htested

theorem covered_updateStates (h : updateStates p = .ok ss) :
    ∀ s ∈ ss, ∀ m ∈ s.methods, m.Covered p := by
  simp only [updateStates, Except.bind_eq_ok_iff] at h
  obtain ⟨whole, hwhole, static, hstatic, h⟩ := h
  cases h
  have hof : ∀ q : PlannedField → Bool, p.fields.filter q ⊆ p.fields :=
    fun _ => List.filter_subset_self _
  refine List.forall_mem_append.mpr ⟨?_, ?_⟩
  · exact covered_updateFamilyIfAny (fun g hg => keyedGroups_subset (by simp [keyedGroups, hg]))
      (hof _) (List.Subset.refl _)
      (List.Subset.trans (List.filter_subset_self _) (hof _)) hwhole
  · exact covered_updateFamilyIfAny (fun g hg => keyedGroups_subset (by simp [keyedGroups, hg]))
      (hof _) (List.subset_append_left _ _)
      (List.Subset.trans (List.filter_subset_self _) (hof _)) hstatic

theorem covered_deleteFamily {clustering : List PlannedField}
    (hgroups : deleteGroups family ⊆ itemGroups) (hclustering : clustering ⊆ p.clustering)
    (htested : tested ⊆ p.fields) :
    ∀ s ∈ deleteFamily p family clustering tested, ∀ m ∈ s.methods, m.Covered p := by
  have hkey : Group.key family ∈ itemGroups := hgroups (by simp [deleteGroups])
  have hlast : BuiltName p (p.lastState family) :=
    builtName_single (hgroups (by simp [deleteGroups]))
  have hkeys : clustering ⊆ p.partition ++ p.clustering :=
    List.Subset.trans hclustering (List.subset_append_right _ _)
  have hexists := hgroups (a := .single (family ++ "IfExists")) (by simp [deleteGroups])
  have hif := hgroups (a := .single (family ++ "If")) (by simp [deleteGroups])
  refine List.forall_mem_append.mpr ⟨List.forall_mem_append.mpr ⟨?_, ?_⟩, ?_⟩
  · exact covered_keyStates hkey (List.subset_append_left _ _)
      (builtName_stateForFirst hkey hkeys hlast)
  · exact covered_narrowingStates hkey hkeys hlast
      (List.forall_mem_append.mpr
        ⟨covered_conditionalMethods hexists hif htested, covered_writeMethods⟩)
      (Nat.succ_ne_zero 0)
  · exact covered_lastStates hexists hif htested

theorem covered_deleteStates : ∀ s ∈ deleteStates p, ∀ m ∈ s.methods, m.Covered p := by
  refine List.forall_mem_append.mpr ⟨?_, ?_⟩
  · exact covered_deleteFamily (fun g hg => keyedGroups_subset (by simp [keyedGroups, hg]))
      (List.Subset.refl _)
      (List.Subset.trans (List.filter_subset_self _) (List.filter_subset_self _))
  · split
    · simp
    · exact covered_deleteFamily (fun g hg => keyedGroups_subset (by simp [keyedGroups, hg]))
        (List.nil_subset _) (List.nil_subset _)

/-! ### Reading -/

theorem covered_selectStates : ∀ s ∈ selectStates p json, ∀ m ∈ s.methods, m.Covered p := by
  have hgroups : selectGroups json ⊆ itemGroups := fun g hg => by
    cases json <;> simp [itemGroups, stateGroups, keyedGroups, hg]
  have hkey : Group.key (selectFamily json) ∈ itemGroups := hgroups (by simp [selectGroups])
  have hlast : BuiltName p (p.lastState (selectFamily json)) :=
    builtName_single (hgroups (by simp [selectGroups]))
  refine List.forall_mem_append.mpr ⟨List.forall_mem_append.mpr ⟨?_, ?_⟩, ?_⟩
  · exact covered_partitionStates hkey (List.subset_append_left _ _)
      (builtName_stateForFirst hkey (List.subset_append_right _ _) hlast)
  · exact covered_clusteringStates hkey (List.subset_append_right _ _) hlast covered_readMethods
      (Nat.succ_ne_zero 0)
  · exact List.forall_mem_singleton.mpr covered_readMethods

theorem covered_readingStates : ∀ s ∈ readingStates p, ∀ m ∈ s.methods, m.Covered p := by
  refine List.forall_mem_append.mpr ⟨covered_selectStates, ?_⟩
  split
  · exact covered_selectStates
  · simp

theorem covered_relations {kind : IndexKind} (hf : f ∈ p.fields)
    (hnext : ∀ t ∈ next, BuiltName p t) (h : nativeRelations p f kind next = .ok ms) :
    ∀ m ∈ ms, m.Covered p := by
  have hone : ∀ ending ∈ methodEndings, ∀ a,
      ∀ m ∈ [change (f.name ++ ending) a next], m.Covered p :=
    fun ending hending a => List.forall_mem_singleton.mpr (covered_field hf hnext (.inr hending) a)
  rw [nativeRelations.eq_def] at h
  generalize f.model.shape = shape at h
  cases kind with
  | normal | full =>
    cases h
    exact hone "_eq" (by decide) _
  | collection | mapValue =>
    obtain ⟨part, -, h⟩ := Except.bind_eq_ok_iff.mp h
    cases h
    exact hone "_contains" (by decide) _
  | mapKey =>
    cases shape with
    | map =>
      obtain ⟨key, -, h⟩ := Except.bind_eq_ok_iff.mp h
      cases h
      exact hone "_contains_key" (by decide) _
    | _ =>
      cases h
      exact hone "_contains_key" (by decide) _
  | mapEntry =>
    cases shape with
    | map =>
      obtain ⟨key, -, h⟩ := Except.bind_eq_ok_iff.mp h
      obtain ⟨value, -, h⟩ := Except.bind_eq_ok_iff.mp h
      cases h
      exact hone "_contains_entry" (by decide) _
    | _ =>
      cases h
      simp

theorem covered_indexRelations {i : Schema.Index} (hf : f ∈ p.fields)
    (hnext : ∀ t ∈ next, BuiltName p t) (h : indexRelations p f next i = .ok ms) :
    ∀ m ∈ ms, m.Covered p := by
  have hone : ∀ ending ∈ methodEndings, ∀ a, (change (f.name ++ ending) a next).Covered p :=
    fun ending hending => covered_field hf hnext (.inr hending)
  have hpatterns : ∀ m ∈ patterns f next, m.Covered p := by
    simp only [patterns, List.forall_mem_cons, List.not_mem_nil, IsEmpty.forall_iff, implies_true,
      and_true]
    exact ⟨hone "_starts_with" (by decide) _, hone "_ends_with" (by decide) _,
      hone "_contains_text" (by decide) _⟩
  have hcomparisons : ∀ m ∈ comparisons f next, m.Covered p := by
    simp only [comparisons, List.forall_mem_cons, List.not_mem_nil, IsEmpty.forall_iff,
      implies_true, and_true]
    exact ⟨hone "_gt" (by decide) _, hone "_gte" (by decide) _, hone "_lt" (by decide) _,
      hone "_lte" (by decide) _⟩
  have hsasi : ∀ mode, ∀ m ∈ sasiRelations f mode next, m.Covered p := by
    intro mode m hm
    cases mode with
    | prefixes =>
      rw [sasiRelations] at hm
      split at hm
      · obtain rfl := List.mem_singleton.mp hm
        exact hone "_starts_with" (by decide) _
      · exact hcomparisons m (List.mem_ite_nil_right.mp hm).2
    | contains =>
      rcases List.mem_append.mp (List.mem_ite_nil_right.mp hm).2 with hm | hm
      · exact hpatterns m hm
      · obtain rfl := List.mem_singleton.mp hm
        exact hone "_like" (by decide) _
    | sparse => exact hcomparisons m (List.mem_ite_nil_right.mp hm).2
  rw [indexRelations] at h
  split at h
  · exact covered_relations hf hnext h
  · cases h
    exact List.forall_mem_cons.mpr ⟨hone "_eq" (by decide) _, hsasi _⟩
  · cases h
    refine List.forall_mem_cons.mpr ⟨hone "_eq" (by decide) _, fun m hm => ?_⟩
    rcases List.mem_append.mp hm with hm | hm
    · exact hpatterns m (List.mem_ite_nil_right.mp hm).2
    · obtain rfl := List.mem_singleton.mp (List.mem_ite_nil_right.mp hm).2
      exact hone "_solr_query" (by decide) _

theorem covered_allIndexRelations (hnext : ∀ t ∈ next, BuiltName p t)
    (h : allIndexRelations p next = .ok ms) : ∀ m ∈ ms, m.Covered p := by
  intro m hm
  obtain ⟨f, hf, i, -, own, hown, hm⟩ := exists_of_mem_allIndexRelations h hm
  exact covered_indexRelations hf hnext hown m hm

theorem covered_indexStates (h : indexStates p json = .ok ss) :
    ∀ s ∈ ss, ∀ m ∈ s.methods, m.Covered p := by
  simp only [indexStates, Except.bind_eq_ok_iff] at h
  obtain ⟨first, hfirst, more, hmore, h⟩ := h
  cases h
  have hlast : BuiltName p (p.lastState (indexFamily json)) :=
    builtName_single (by cases json <;> simp [itemGroups, stateGroups, indexGroups])
  refine List.forall_mem_cons.mpr ⟨covered_allIndexRelations (by simpa using hlast) hfirst, ?_⟩
  refine List.forall_mem_singleton.mpr (List.forall_mem_append.mpr ⟨?_, covered_readMethods⟩)
  exact List.forall_mem_cons.mpr
    ⟨covered_word (by decide) (by simp), covered_allIndexRelations (by simp) hmore⟩

theorem IndexChains.covered (h : IndexChains p ss) : ∀ s ∈ ss, ∀ m ∈ s.methods, m.Covered p := by
  cases h with
  | none => simp
  | records h => exact covered_indexStates h
  | both h hj => exact List.forall_mem_append.mpr ⟨covered_indexStates h, covered_indexStates hj⟩

/-- **Whatever the states of an entity are named, have as methods or mention, is a word or a name
that is put together.** -/
theorem covered_of_states (h : states p = .ok ss) :
    ∀ s ∈ ss, BuiltName p s.name ∧ ∀ m ∈ s.methods, m.Covered p := by
  intro s hs
  constructor
  · obtain ⟨g, hg, hn⟩ := exists_group_of_states h s hs
    exact .item (List.mem_cons_of_mem _ (List.mem_append_left _ hg)) hn
  · rcases states_cases h with ⟨-, rfl⟩ | ⟨-, updates, indexes, hupdates, hindexes, rfl⟩
    · exact covered_readingStates s hs
    · simp only [List.mem_append] at hs
      rcases hs with (((hs | hs) | hs) | hs) | hs
      · exact covered_readingStates s hs
      · exact covered_insertStates s hs
      · exact covered_updateStates hupdates s hs
      · exact covered_deleteStates s hs
      · exact hindexes.covered s hs

end

end Builder

end WideColumn
