/-
# The names in a type

A type is written with names, with white space and marks around them.  Neither reading nor
unwrapping loses a leaf or puts one in another place: the leaves of a shape are what the names of
its text stand for, one after the other (`leaves_toShape`).
-/
import WideColumn.Proofs.Type.Grammar

namespace WideColumn

namespace TypeExpr

variable {names : TypeNames} {frozen : Bool} {depth : Nat} {cs rest after : List Char}
  {name : String}

/-! ## 1. Unwrapping keeps the leaves -/

mutual

/-- **Unwrapping changes nothing about the leaves but the names of user types.** -/
theorem leaves_unwrap : (e : TypeExpr) → ∀ {frozen : Bool} {depth : Nat},
    (e.unwrap names frozen depth).1.leaves = e.leaves.map (Leaf.stored names)
  | .scalar _, _, _ | .counter, _, _ | .udt _, _, _ => rfl
  | .frozen e, _, _ | .indexed e, _, _ | .list e, _, _ | .set e, _, _ => leaves_unwrap e
  | .map k v, _, _ => by
    rw [unwrap, leaves, List.map_append, ← leaves_unwrap k, ← leaves_unwrap v]
    rfl
  | .tuple es, _, _ => leaves_unwrapAll es

theorem leaves_unwrapAll : (es : List TypeExpr) → ∀ {frozen : Bool} {depth : Nat},
    Shape.leavesAll (unwrapAll names frozen depth es).1 =
      (leavesAll es).map (Leaf.stored names)
  | [], _, _ => rfl
  | e :: es, _, _ => by
    rw [unwrapAll, leavesAll, List.map_append, ← leaves_unwrap e, ← leaves_unwrapAll es]
    rfl

end

/-! ## 2. Names in a text -/

/-- The names in a text, from left to right. -/
def namesIn (cs : List Char) : List String :=
  ((cs.splitOnP fun c => !isNameChar c).filter fun w => !w.isEmpty).map String.ofList

/-- What the names in a text stand for. -/
def leavesIn (cs : List Char) : List Leaf :=
  (namesIn cs).filterMap Leaf.ofName?

theorem namesIn_cons {c : Char} (h : isNameChar c = false) : namesIn (c :: cs) = namesIn cs := by
  simp [namesIn, List.splitOnP_cons_eq_if_modifyHead, h]

/-- A name reaches up to the next character that no name has. -/
theorem namesIn_append {w : List Char} (hne : w ≠ []) (hname : ∀ c ∈ w, isNameChar c = true)
    (hend : ∀ c ∈ rest.head?, isNameChar c = false) :
    namesIn (w ++ rest) = String.ofList w :: namesIn rest := by
  have hsplit : ∀ c ∈ w, (!isNameChar c) = false := by simpa using hname
  cases rest with
  | nil =>
    simp [namesIn, List.splitOnP_eq_singleton hsplit, hne]
  | cons c rest =>
    have hc : isNameChar c = false := hend c rfl
    rw [namesIn_cons hc, namesIn, List.splitOnP_append_cons_of_forall_mem hsplit c (by simp [hc])]
    simp [namesIn, hne]

theorem namesIn_skip (cs : List Char) : namesIn (skip cs) = namesIn cs := by
  induction cs with
  | nil => rfl
  | cons c cs ih =>
    rw [skip, List.dropWhile_cons]
    split
    · rename_i hblank
      exact ih.trans (namesIn_cons (isNameChar_of_isBlank hblank)).symm
    · rfl

/-! ## 3. Reading keeps the leaves -/

theorem leavesIn_scanName (h : scanName cs = .ok (name, rest)) :
    leavesIn cs = (Leaf.ofName? name).toList ++ leavesIn rest := by
  obtain ⟨⟨hne, hchars⟩, hskip, hstops⟩ := scanName_eq_ok_iff.mp h
  rw [leavesIn, ← namesIn_skip, hskip, namesIn_append hne hchars hstops, String.ofList_toList,
    List.filterMap_cons]
  cases Leaf.ofName? name <;> rfl

/-- What stands before a character that no name has, and after it. -/
theorem leavesIn_of_skip {c : Char} (hc : isNameChar c = false) (h : skip cs = c :: rest) :
    leavesIn cs = leavesIn rest := by
  rw [leavesIn, ← namesIn_skip, h, namesIn_cons hc, leavesIn]

/-- A name alone is a leaf. -/
theorem Alone.leaves_eq {e : TypeExpr} (h : Alone name e) :
    e.leaves = (Leaf.ofName? name).toList := by
  cases h with
  | counter h => simp [leaves, Leaf.ofName?, h]
  | @scalar s h =>
    have hleaf : Leaf.ofName? name = some (.scalar s) := by
      rw [Leaf.ofName?, ofName?_eq_some_iff.mpr h, h]
      cases s <;> rfl
    rw [hleaf]
    rfl
  | udt h =>
    rw [Leaf.ofName?_eq_udt_iff.mpr ⟨h, rfl⟩]
    rfl

/-- A keyword is no leaf, and adds none to those of its arguments. -/
theorem Applied.leaves_eq {es : List TypeExpr} {e : TypeExpr}
    (h : Applied (Text.lowerAscii name) es e) :
    Leaf.ofName? name = none ∧ e.leaves = leavesAll es := by
  rw [Leaf.ofName?]
  generalize Text.lowerAscii name = keyword at h ⊢
  cases h <;> simp [leaves, leavesAll]

/-- **What is read has the leaves of what was read.**  By induction on the fuel, for a type, for
arguments in brackets and for a row of them at once. -/
theorem leaves_scan (fuel : Nat) :
    (∀ {cs e rest}, scan fuel cs = .ok (e, rest) → leavesIn cs = e.leaves ++ leavesIn rest)
      ∧ (∀ {cs es rest}, scanArguments fuel cs = .ok (es, rest) →
        leavesIn cs = leavesAll es ++ leavesIn rest)
      ∧ ∀ {cs es rest}, scanMore fuel cs = .ok (es, rest) →
        leavesIn cs = leavesAll es ++ leavesIn rest := by
  induction fuel with
  | zero => exact ⟨nofun, nofun, nofun⟩
  | succ fuel ih =>
    obtain ⟨ihType, ihArguments, ihMore⟩ := ih
    refine ⟨?type, ?arguments, ?more⟩
    case type =>
      intro cs e after h
      obtain ⟨name, rest, hname, hread⟩ := scan_eq_ok_iff.mp h
      rw [leavesIn_scanName hname]
      rcases hread with ⟨halone, rfl⟩ | ⟨es, hargs, happlied⟩
      · rw [halone.leaves_eq]
      · rw [happlied.leaves_eq.1, happlied.leaves_eq.2, ihArguments hargs]
        rfl
    case arguments =>
      intro cs es after h
      obtain ⟨rest, hskip, hmore⟩ := scanArguments_eq_ok_iff.mp h
      rw [leavesIn_of_skip (by decide) hskip, ihMore hmore]
    case more =>
      intro cs es after h
      obtain ⟨e, rest, htype, hread⟩ := scanMore_eq_ok_iff.mp h
      rw [ihType htype]
      rcases hread with ⟨hskip, rfl⟩ | ⟨rest', es', hskip, hmore, rfl⟩
      · rw [leavesIn_of_skip (by decide) hskip, leavesAll, leavesAll, List.append_nil]
      · rw [leavesIn_of_skip (by decide) hskip, ihMore hmore, leavesAll, List.append_assoc]

/-- **The leaves of a type are what the names of its text stand for.** -/
theorem leaves_parse {text : String} {e : TypeExpr} (h : parse text = .ok e) :
    leavesIn text.toList = e.leaves := by
  obtain ⟨rest, hscan, hend⟩ := parse_eq_ok_iff.mp h
  have hnone : leavesIn rest = [] := by
    rw [leavesIn, ← namesIn_skip, hend]
    rfl
  rw [(leaves_scan _).1 hscan, hnone, List.append_nil]

/-- **The leaves of a shape are what the names of its text are read as**, one after the other. -/
theorem leaves_toShape {text : String} {e : TypeExpr} (h : parse text = .ok e)
    (names : TypeNames) :
    (e.toShape names).1.leaves = (namesIn text.toList).filterMap (Leaf.read? names) := by
  rw [toShape, leaves_unwrap, ← leaves_parse h, leavesIn, List.map_filterMap]
  rfl

end TypeExpr

end WideColumn
