/-
# The text of a shape denotes its type

A shape is written with `frozen` only where freezing begins, and on no leaf at all.  Reading the
text and unwrapping it puts the flags back on every node that has parts: below a frozen node all
nodes are frozen, by the way a shape is made, and that is what the reading restores as well.

What a text cannot tell is the flag of a leaf.  So two shapes are compared by their constructors,
the depths of their nodes and the flags of their composite nodes (`Shape.Matches`).

* The text of a shape is that of a type, `Shape.exprIn`, which unwraps to a shape that matches it
  (`matches_exprIn`).  The names of user types stay as they are, since no stored name is taken for
  another one (`TypeNames.stored_stored`).
* Shapes with the same constructors and flags are written alike (`Shape.exprIn_congr`).

Together, two shapes have one text exactly if they have the same constructors and flags.
-/
import Mathlib.Data.List.Pairwise
import WideColumn.Proofs.Type.Markers
import WideColumn.Proofs.Type.Written

namespace WideColumn

open WideColumn.Text (lowerAscii)

/-! ## 1. Names of user types that cannot be mistaken -/

namespace TypeNames

/-- No name of one user type equals one of the other, whatever the letter case. -/
def Unlike (a b : String × String) : Prop :=
  ∀ name ∈ [a.1, a.2], ∀ other ∈ [b.1, b.2], lowerAscii name ≠ lowerAscii other

instance : Std.Symm Unlike where
  symm _ _ h name hname other hother heq := h other hother name hname heq.symm

/-- **User types that are told apart by each of their names**, which are names without a meaning of
their own in types. -/
structure Apart (names : TypeNames) : Prop where
  plain : ∀ pair ∈ names, ∀ name ∈ [pair.1, pair.2],
    TypeExpr.IsName name ∧ Leaf.isTypeWord name = false
  unlike : names.Pairwise Unlike

variable {names : TypeNames} {name : String}

/-- A stored name is one of a user type, or else the name that was written. -/
theorem stored_eq (names : TypeNames) (name : String) : names.stored name = name ∨
    ∃ pair ∈ names, names.stored name = pair.2 := by
  rw [stored]
  simp only
  split
  · rename_i declared stored hfind
    exact .inr ⟨_, List.mem_of_find?_eq_some hfind, rfl⟩
  · exact .inl rfl

/-- No earlier user type is found under the stored name of another. -/
theorem stored_of_mem (h : names.Apart) {pair : String × String} (hpair : pair ∈ names) :
    names.stored pair.2 = pair.2 := by
  rw [stored]
  simp only
  split
  · rename_i declared stored hfind
    have hmem := List.mem_of_find?_eq_some hfind
    have hsame := List.find?_some hfind
    simp only [Bool.or_eq_true, beq_iff_eq] at hsame
    by_contra hne
    have hother : (declared, stored) ≠ pair := fun heq => hne (heq ▸ rfl)
    have hunlike := h.unlike.forall hmem hpair hother
    rcases hsame with hsame | hsame
    · exact hunlike declared (by simp) pair.2 (by simp) hsame
    · exact hunlike stored (by simp) pair.2 (by simp) hsame
  · rfl

/-- A stored name is its own stored name. -/
theorem stored_stored (h : names.Apart) (name : String) :
    names.stored (names.stored name) = names.stored name := by
  obtain hself | ⟨pair, hpair, heq⟩ := names.stored_eq name
  · rw [hself, hself]
  · rw [heq, stored_of_mem h hpair]

/-- What stands for a user type in a type does so under its stored name, too. -/
theorem plain_stored (h : names.Apart)
    (hname : TypeExpr.IsName name ∧ Leaf.isTypeWord name = false) :
    TypeExpr.IsName (names.stored name) ∧ Leaf.isTypeWord (names.stored name) = false := by
  obtain hself | ⟨pair, hpair, heq⟩ := names.stored_eq name
  · rwa [hself]
  · rw [heq]
    exact h.plain pair hpair _ (by simp)

end TypeNames

/-! ## 2. Shapes as types -/

namespace Shape

/-- Marks a type as frozen where freezing begins. -/
def freezeExpr (frozen outside : Bool) (e : TypeExpr) : TypeExpr :=
  if frozen && !outside then .frozen e else e

mutual

/-- The type that a shape is written as, inside a frozen value or not. -/
def exprIn (outside : Bool) : Shape → TypeExpr
  | scalar _ s => .scalar s
  | counter _ => .counter
  | list p e => freezeExpr p.frozen outside (.list (exprIn p.frozen e))
  | set p e => freezeExpr p.frozen outside (.set (exprIn p.frozen e))
  | map p k v => freezeExpr p.frozen outside (.map (exprIn p.frozen k) (exprIn p.frozen v))
  | tuple p es => freezeExpr p.frozen outside (.tuple (exprsIn p.frozen es))
  | udt p name => freezeExpr p.frozen outside (.udt name)

/-- The types that a row of shapes is written as. -/
def exprsIn (outside : Bool) : List Shape → List TypeExpr
  | [] => []
  | s :: ss => exprIn outside s :: exprsIn outside ss

end

theorem text_freezeExpr (frozen outside : Bool) (e : TypeExpr) :
    (freezeExpr frozen outside e).text = freezeText frozen outside e.text := by
  rw [freezeExpr, freezeText]
  split <;> rfl

mutual

/-- A shape is written as the text of a type. -/
theorem text_exprIn (outside : Bool) : (s : Shape) → (s.exprIn outside).text = s.textIn outside
  | scalar _ _ | counter _ => rfl
  | list p e | set p e => by
    rw [exprIn, text_freezeExpr, textIn, TypeExpr.text, text_exprIn p.frozen e]
  | map p k v => by
    rw [exprIn, text_freezeExpr, textIn, TypeExpr.text, text_exprIn p.frozen k,
      text_exprIn p.frozen v]
  | tuple p es => by
    rw [exprIn, text_freezeExpr, textIn, TypeExpr.text, texts_exprsIn p.frozen es]
  | udt p name => by rw [exprIn, text_freezeExpr, textIn, TypeExpr.text]

theorem texts_exprsIn (outside : Bool) : (ss : List Shape) →
    TypeExpr.texts (exprsIn outside ss) = textsIn outside ss
  | [] => rfl
  | s :: ss => by
    rw [exprsIn, TypeExpr.texts, textsIn, text_exprIn outside s, texts_exprsIn outside ss]

end

theorem hasIndexMarker_freezeExpr (frozen outside : Bool) (e : TypeExpr) :
    (freezeExpr frozen outside e).hasIndexMarker = e.hasIndexMarker := by
  rw [freezeExpr]
  split <;> rfl

theorem writable_freezeExpr {frozen outside : Bool} {e : TypeExpr} (h : e.Writable) :
    (freezeExpr frozen outside e).Writable := by
  rw [freezeExpr]
  split <;> exact h

mutual

/-- No index is written into a shape. -/
theorem hasIndexMarker_exprIn (outside : Bool) : (s : Shape) →
    (s.exprIn outside).hasIndexMarker = false
  | scalar _ _ | counter _ => rfl
  | list p e | set p e => by
    rw [exprIn, hasIndexMarker_freezeExpr]
    exact hasIndexMarker_exprIn p.frozen e
  | map p k v => by
    rw [exprIn, hasIndexMarker_freezeExpr, TypeExpr.hasIndexMarker,
      hasIndexMarker_exprIn p.frozen k, hasIndexMarker_exprIn p.frozen v, Bool.or_false]
  | tuple p es => by
    rw [exprIn, hasIndexMarker_freezeExpr]
    exact anyIndexMarker_exprsIn p.frozen es
  | udt p name => by
    rw [exprIn, hasIndexMarker_freezeExpr]
    rfl

theorem anyIndexMarker_exprsIn (outside : Bool) : (ss : List Shape) →
    TypeExpr.anyIndexMarker (exprsIn outside ss) = false
  | [] => rfl
  | s :: ss => by
    rw [exprsIn, TypeExpr.anyIndexMarker, hasIndexMarker_exprIn outside s,
      anyIndexMarker_exprsIn outside ss, Bool.or_false]

end

/-! ## 3. Shapes of one type -/

/-- The flags of the nodes that are composite, in the order of the text. -/
def compositeFlags (s : Shape) : List Bool := (s.nodes.filter isComposite).map frozen

/-- The flags of the composite nodes of a row. -/
def compositeFlagsAll (ss : List Shape) : List Bool :=
  ((nodesAll ss).filter isComposite).map frozen

theorem compositeFlags_list {p : Place} {e : Shape} :
    (list p e).compositeFlags = p.frozen :: e.compositeFlags := rfl

theorem compositeFlags_set {p : Place} {e : Shape} :
    (set p e).compositeFlags = p.frozen :: e.compositeFlags := rfl

theorem compositeFlags_map {p : Place} {k v : Shape} :
    (map p k v).compositeFlags = p.frozen :: (k.compositeFlags ++ v.compositeFlags) := by
  change p.frozen :: ((k.nodes ++ v.nodes).filter isComposite).map frozen = _
  rw [List.filter_append, List.map_append]
  rfl

theorem compositeFlags_tuple {p : Place} {es : List Shape} :
    (tuple p es).compositeFlags = p.frozen :: compositeFlagsAll es := rfl

theorem compositeFlags_udt {p : Place} {name : String} :
    (udt p name).compositeFlags = [p.frozen] := rfl

theorem compositeFlagsAll_cons {s : Shape} {ss : List Shape} :
    compositeFlagsAll (s :: ss) = s.compositeFlags ++ compositeFlagsAll ss := by
  simp [compositeFlags, compositeFlagsAll, nodesAll]

mutual

/-- By induction on the first shape.  The flags of all that follows stand behind its own, so that
those of a row need not be cut apart first. -/
theorem exprIn_congr_append : (a : Shape) → ∀ {b : Shape} {outside : Bool}
    {flags flags' : List Bool}, a.bare = b.bare →
    a.compositeFlags ++ flags = b.compositeFlags ++ flags' →
    a.exprIn outside = b.exprIn outside ∧ flags = flags'
  | scalar p s, b, outside, flags, flags', hbare, hflags => by
    cases b with
    | scalar p' s' =>
      cases hbare
      exact ⟨rfl, hflags⟩
    | _ => cases hbare
  | counter p, b, outside, flags, flags', hbare, hflags => by
    cases b with
    | counter p' => exact ⟨rfl, hflags⟩
    | _ => cases hbare
  | udt p name, b, outside, flags, flags', hbare, hflags => by
    cases b with
    | udt p' name' =>
      cases hbare
      rw [compositeFlags_udt, compositeFlags_udt, List.cons_append, List.cons_append] at hflags
      obtain ⟨hfrozen, hflags⟩ := List.cons.inj hflags
      exact ⟨by rw [exprIn, exprIn, hfrozen], hflags⟩
    | _ => cases hbare
  | list p e, b, outside, flags, flags', hbare, hflags => by
    cases b with
    | list p' e' =>
      injection hbare with hbare
      rw [compositeFlags_list, compositeFlags_list, List.cons_append, List.cons_append] at hflags
      obtain ⟨hfrozen, hflags⟩ := List.cons.inj hflags
      obtain ⟨hexpr, hrest⟩ := exprIn_congr_append e hbare hflags
      exact ⟨by rw [exprIn, exprIn, hfrozen, hexpr], hrest⟩
    | _ => cases hbare
  | set p e, b, outside, flags, flags', hbare, hflags => by
    cases b with
    | set p' e' =>
      injection hbare with hbare
      rw [compositeFlags_set, compositeFlags_set, List.cons_append, List.cons_append] at hflags
      obtain ⟨hfrozen, hflags⟩ := List.cons.inj hflags
      obtain ⟨hexpr, hrest⟩ := exprIn_congr_append e hbare hflags
      exact ⟨by rw [exprIn, exprIn, hfrozen, hexpr], hrest⟩
    | _ => cases hbare
  | map p k v, b, outside, flags, flags', hbare, hflags => by
    cases b with
    | map p' k' v' =>
      injection hbare with hkey hvalue
      rw [compositeFlags_map, compositeFlags_map, List.cons_append, List.cons_append,
        List.append_assoc, List.append_assoc] at hflags
      obtain ⟨hfrozen, hflags⟩ := List.cons.inj hflags
      obtain ⟨hkeyExpr, hflags⟩ := exprIn_congr_append k hkey hflags
      obtain ⟨hvalueExpr, hrest⟩ := exprIn_congr_append v hvalue hflags
      exact ⟨by rw [exprIn, exprIn, hfrozen, hkeyExpr, hvalueExpr], hrest⟩
    | _ => cases hbare
  | tuple p es, b, outside, flags, flags', hbare, hflags => by
    cases b with
    | tuple p' es' =>
      injection hbare with hbare
      rw [compositeFlags_tuple, compositeFlags_tuple, List.cons_append, List.cons_append] at hflags
      obtain ⟨hfrozen, hflags⟩ := List.cons.inj hflags
      obtain ⟨hexprs, hrest⟩ := exprsIn_congr_append es hbare hflags
      exact ⟨by rw [exprIn, exprIn, hfrozen, hexprs], hrest⟩
    | _ => cases hbare

theorem exprsIn_congr_append : (as : List Shape) → ∀ {bs : List Shape} {outside : Bool}
    {flags flags' : List Bool}, bareAll as = bareAll bs →
    compositeFlagsAll as ++ flags = compositeFlagsAll bs ++ flags' →
    exprsIn outside as = exprsIn outside bs ∧ flags = flags'
  | [], bs, outside, flags, flags', hbare, hflags => by
    cases bs with
    | nil => exact ⟨rfl, hflags⟩
    | cons b bs => cases hbare
  | a :: as, bs, outside, flags, flags', hbare, hflags => by
    cases bs with
    | nil => cases hbare
    | cons b bs =>
      obtain ⟨hhead, htail⟩ := List.cons.inj hbare
      rw [compositeFlagsAll_cons, compositeFlagsAll_cons, List.append_assoc,
        List.append_assoc] at hflags
      obtain ⟨hexpr, hflags⟩ := exprIn_congr_append a hhead hflags
      obtain ⟨hexprs, hrest⟩ := exprsIn_congr_append as htail hflags
      exact ⟨by rw [exprsIn, exprsIn, hexpr, hexprs], hrest⟩

end

/-- Shapes with the same constructors and flags are written alike. -/
theorem exprIn_congr {a b : Shape} (hbare : a.bare = b.bare)
    (hflags : a.compositeFlags = b.compositeFlags) (outside : Bool) :
    a.exprIn outside = b.exprIn outside :=
  (exprIn_congr_append a hbare (congrArg (· ++ []) hflags)).1

/-- **Two shapes match**: they have the same constructors, their nodes lie equally deep, and their
composite nodes are frozen alike. -/
structure Matches (a b : Shape) : Prop where
  bare : a.bare = b.bare
  depths : a.nodes.map depth = b.nodes.map depth
  flags : a.compositeFlags = b.compositeFlags

/-- Two rows of shapes match. -/
structure MatchesAll (as bs : List Shape) : Prop where
  bare : bareAll as = bareAll bs
  depths : (nodesAll as).map depth = (nodesAll bs).map depth
  flags : compositeFlagsAll as = compositeFlagsAll bs

section Matches

variable {p : Place} {a b c d : Shape} {as bs : List Shape}

theorem Matches.list (h : Matches a b) : Matches (list p a) (list p b) where
  bare := congrArg TypeExpr.list h.bare
  depths := congrArg (p.depth :: ·) h.depths
  flags := congrArg (p.frozen :: ·) h.flags

theorem Matches.set (h : Matches a b) : Matches (set p a) (set p b) where
  bare := congrArg TypeExpr.set h.bare
  depths := congrArg (p.depth :: ·) h.depths
  flags := congrArg (p.frozen :: ·) h.flags

theorem Matches.map (h : Matches a b) (h' : Matches c d) : Matches (map p a c) (map p b d) where
  bare := congrArg₂ TypeExpr.map h.bare h'.bare
  depths := by
    rw [nodes, nodes, List.map_cons, List.map_cons, List.map_append, List.map_append, h.depths,
      h'.depths]
    rfl
  flags := by rw [compositeFlags_map, compositeFlags_map, h.flags, h'.flags]

theorem MatchesAll.tuple (h : MatchesAll as bs) : Matches (tuple p as) (tuple p bs) where
  bare := congrArg TypeExpr.tuple h.bare
  depths := congrArg (p.depth :: ·) h.depths
  flags := congrArg (p.frozen :: ·) h.flags

theorem Matches.cons (h : Matches a b) (h' : MatchesAll as bs) :
    MatchesAll (a :: as) (b :: bs) where
  bare := congrArg₂ List.cons h.bare h'.bare
  depths := by
    rw [nodesAll, nodesAll, List.map_append, List.map_append, h.depths, h'.depths]
  flags := by rw [compositeFlagsAll_cons, compositeFlagsAll_cons, h.flags, h'.flags]

end Matches

end Shape

/-! ## 4. What is written of an unwrapped type -/

namespace TypeExpr

open Shape (freezeExpr exprIn exprsIn)

variable {names names' : TypeNames}

/-- Below a frozen node all nodes are frozen, so that a flag taken from outside is the own one. -/
theorem unwrap_freezeExpr {flag outside : Bool} (h : outside = true → flag = true)
    (names : TypeNames) (depth : Nat) (e : TypeExpr) :
    (freezeExpr flag outside e).unwrap names outside depth = e.unwrap names flag depth := by
  cases flag <;> cases outside
  · rfl
  · exact absurd (h rfl) nofun
  · rfl
  · rfl

mutual

/-- **What a shape is written as unwraps to a shape that matches it.**  By induction on the type
that the shape was made of.  The invariant is that nothing is frozen outside that is not frozen
here; it holds at the root, where nothing is, and passes on to the parts of a node, which are written
inside the node's own flag. -/
theorem matches_exprIn (hstored : ∀ name, names'.stored (names.stored name) = names.stored name) :
    (e : TypeExpr) → ∀ {flag outside : Bool} (depth : Nat), (outside = true → flag = true) →
    (((e.unwrap names flag depth).1.exprIn outside).unwrap names' outside depth).1.Matches
      (e.unwrap names flag depth).1
  | scalar s, flag, outside, depth, h => ⟨rfl, rfl, rfl⟩
  | counter, flag, outside, depth, h => ⟨rfl, rfl, rfl⟩
  | udt name, flag, outside, depth, h => by
    rw [unwrap, exprIn, unwrap_freezeExpr h, unwrap, hstored]
    exact ⟨rfl, rfl, rfl⟩
  | list e, flag, outside, depth, h => by
    rw [unwrap, exprIn, unwrap_freezeExpr h, unwrap]
    exact (matches_exprIn hstored e (depth + 1) id).list
  | set e, flag, outside, depth, h => by
    rw [unwrap, exprIn, unwrap_freezeExpr h, unwrap]
    exact (matches_exprIn hstored e (depth + 1) id).set
  | map k v, flag, outside, depth, h => by
    rw [unwrap, exprIn, unwrap_freezeExpr h, unwrap]
    exact (matches_exprIn hstored k (depth + 1) id).map (matches_exprIn hstored v (depth + 1) id)
  | tuple es, flag, outside, depth, h => by
    rw [unwrap, exprIn, unwrap_freezeExpr h, unwrap]
    exact (matchesAll_exprsIn hstored es (depth + 1)).tuple
  | .frozen e, flag, outside, depth, h => matches_exprIn hstored e depth fun _ => rfl
  | indexed e, flag, outside, depth, h => matches_exprIn hstored e depth h

theorem matchesAll_exprsIn
    (hstored : ∀ name, names'.stored (names.stored name) = names.stored name) :
    (es : List TypeExpr) → ∀ {flag : Bool} (depth : Nat),
    Shape.MatchesAll
      (unwrapAll names' flag depth (exprsIn flag (unwrapAll names flag depth es).1)).1
      (unwrapAll names flag depth es).1
  | [], _, _ => ⟨rfl, rfl, rfl⟩
  | e :: es, flag, depth => by
    rw [unwrapAll, exprsIn, unwrapAll]
    exact (matches_exprIn hstored e depth id).cons (matchesAll_exprsIn hstored es depth)

end

theorem exprsIn_ne_nil {es : List TypeExpr} (h : es ≠ []) (flag : Bool) (depth : Nat) :
    exprsIn flag (unwrapAll names flag depth es).1 ≠ [] := by
  cases es with
  | nil => exact absurd rfl h
  | cons e es => exact List.cons_ne_nil _ _

mutual

/-- The shape of a type that can be written can be written as well. -/
theorem writable_exprIn (hnames : names.Apart) : (e : TypeExpr) → e.Writable →
    ∀ (flag outside : Bool) (depth : Nat),
      ((e.unwrap names flag depth).1.exprIn outside).Writable
  | scalar _, _, _, _, _ => trivial
  | counter, _, _, _, _ => trivial
  | udt _, h, _, _, _ => Shape.writable_freezeExpr (TypeNames.plain_stored hnames h)
  | list e, h, flag, _, depth =>
    Shape.writable_freezeExpr (writable_exprIn hnames e h flag flag (depth + 1))
  | set e, h, flag, _, depth =>
    Shape.writable_freezeExpr (writable_exprIn hnames e h flag flag (depth + 1))
  | map k v, h, flag, _, depth =>
    Shape.writable_freezeExpr ⟨writable_exprIn hnames k h.1 flag flag (depth + 1),
      writable_exprIn hnames v h.2 flag flag (depth + 1)⟩
  | tuple es, h, flag, _, depth =>
    Shape.writable_freezeExpr ⟨exprsIn_ne_nil h.1 flag (depth + 1),
      writableAll_exprsIn hnames es h.2 flag (depth + 1)⟩
  | .frozen e, h, _, outside, depth => writable_exprIn hnames e h true outside depth
  | indexed e, h, flag, outside, depth => writable_exprIn hnames e h flag outside depth

theorem writableAll_exprsIn (hnames : names.Apart) : (es : List TypeExpr) → WritableAll es →
    ∀ (flag : Bool) (depth : Nat),
      WritableAll (exprsIn flag (unwrapAll names flag depth es).1)
  | [], _, _, _ => trivial
  | e :: es, h, flag, depth =>
    ⟨writable_exprIn hnames e h.1 flag flag depth,
      writableAll_exprsIn hnames es h.2 flag depth⟩

end

/-! ## 5. The text of a shape -/

section Whole

variable {names names' : TypeNames} {e e' : TypeExpr}

/-- The text of a shape is read as the type that the shape is written as. -/
theorem parse_text_toShape (hnames : names.Apart) (h : e.Writable) :
    parse (e.toShape names).1.text = .ok ((e.toShape names).1.exprIn false) := by
  rw [Shape.text, ← Shape.text_exprIn]
  exact parse_text_of_writable (writable_exprIn hnames e h false false 0)

theorem matches_toShape (names names' : TypeNames)
    (hstored : ∀ name, names'.stored (names.stored name) = names.stored name) (e : TypeExpr) :
    (((e.toShape names).1.exprIn false).toShape names').1.Matches (e.toShape names).1 :=
  matches_exprIn hstored e 0 nofun

/-- Shapes of one text are written as one type, which unwraps to what both of them match. -/
theorem sameType_iff (hnames : names.Apart) (hnames' : names'.Apart) (h : e.Writable)
    (h' : e'.Writable) : (e.toShape names).1.sameType (e'.toShape names').1 = true ↔
      (e.toShape names).1.bare = (e'.toShape names').1.bare
        ∧ (e.toShape names).1.compositeFlags = (e'.toShape names').1.compositeFlags := by
  rw [Shape.sameType, beq_iff_eq]
  constructor
  · intro htext
    have hread := parse_text_toShape hnames h
    rw [htext, parse_text_toShape hnames' h'] at hread
    have hexpr := Except.ok.inj hread
    -- Without declared user types every name is its own stored name.
    have hmatches := matches_toShape names [] (fun _ => rfl) e
    have hmatches' := matches_toShape names' [] (fun _ => rfl) e'
    rw [hexpr] at hmatches'
    exact ⟨hmatches.bare.symm.trans hmatches'.bare, hmatches.flags.symm.trans hmatches'.flags⟩
  · rintro ⟨hbare, hflags⟩
    rw [Shape.text, Shape.text, ← Shape.text_exprIn, ← Shape.text_exprIn,
      Shape.exprIn_congr hbare hflags]

/-- **The text of a shape denotes its type.**  Where user types are told apart by their names, the
text of the shape of a type is read again, without any index marker, and as a type whose shape has
the same constructors, the same depth at every node and the same flag at every composite node.  So
two shapes have one text exactly if they have the same constructors and the same flags at composite
nodes.  The types that can be written are those that some text is read as (`writable_iff`). -/
theorem text_denotes (hnames : names.Apart) (h : e.Writable) :
    (∃ written, parse (e.toShape names).1.text = .ok written ∧ written.hasIndexMarker = false
      ∧ (written.toShape names).1.bare = (e.toShape names).1.bare
      ∧ (written.toShape names).1.nodes.map Shape.depth = (e.toShape names).1.nodes.map Shape.depth
      ∧ (written.toShape names).1.compositeFlags = (e.toShape names).1.compositeFlags)
    ∧ ∀ {names' : TypeNames} {e' : TypeExpr}, names'.Apart → e'.Writable →
      ((e.toShape names).1.sameType (e'.toShape names').1 = true ↔
        (e.toShape names).1.bare = (e'.toShape names').1.bare
          ∧ (e.toShape names).1.compositeFlags = (e'.toShape names').1.compositeFlags) := by
  have hmatches := matches_toShape names names (TypeNames.stored_stored hnames) e
  refine ⟨⟨_, parse_text_toShape hnames h, Shape.hasIndexMarker_exprIn false _, hmatches.bare,
    hmatches.depths, hmatches.flags⟩, fun hnames' h' => sameType_iff hnames hnames' h h'⟩

/-- A user type under its declared name, in a frozen list that repeats the marker inside; the text
has the stored name and marks the list alone. -/
theorem text_denotes_of_addresses :
    let names : TypeNames := [("HomeAddress", "home_address")]
    let e := TypeExpr.map (.scalar .text) (.frozen (.list (.frozen (.udt "homeaddress"))))
    (e.toShape names).1.text = "map<text, frozen<list<home_address>>>"
    ∧ ∃ written, parse "map<text, frozen<list<home_address>>>" = .ok written
      ∧ (written.toShape names).1.compositeFlags = [false, true, true]
      ∧ (e.toShape names).1.sameType (written.toShape names).1 = true := by
  intro names e
  have hplain : ∀ name ∈ ["HomeAddress", "home_address", "homeaddress"],
      IsName name ∧ Leaf.isTypeWord name = false := by
    simp only [List.forall_mem_cons]
    exact ⟨by decide +kernel, by decide +kernel, by decide +kernel, nofun⟩
  have hnames : names.Apart := by
    refine ⟨?_, List.pairwise_singleton _ _⟩
    rintro pair hpair name hname
    obtain rfl := List.mem_singleton.mp hpair
    exact hplain name (List.mem_append_left ["homeaddress"] hname)
  have hwritable : e.Writable := ⟨trivial, hplain "homeaddress" (by simp)⟩
  have htext : (e.toShape names).1.text = "map<text, frozen<list<home_address>>>" := by
    decide +kernel
  obtain ⟨⟨written, hparse, -, hbare, -, hflags⟩, -⟩ := text_denotes hnames hwritable
  have hagain := (text_denotes hnames hwritable).2 hnames (writable_of_parse hparse)
  exact ⟨htext, written, htext ▸ hparse, hflags, hagain.mpr ⟨hbare.symm, hflags.symm⟩⟩

end Whole

end TypeExpr

end WideColumn
