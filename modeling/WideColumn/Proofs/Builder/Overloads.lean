/-
# Where generation breaks off

A generator answers with source or with an error.  There is one exception.  The method of an
overloaded function is named by a number after the function's name in snake case, and nobody asks
whether that is a name: where it is none, generation BREAKS OFF with no error of its own.  A
function that is not overloaded has its name read as source, and is refused with an error.

Names of functions keep to no rules.  The number changes nothing: what a word goes on with does not
matter once an underscore is in it (`isName_append`).  So generation breaks off exactly at an
overloaded function whose name in snake case begins no word, always at number zero, unless
something before it fails (`generate_breaks_off`).  All other names that are put together are names
of source; `digitNamed` is a batch that breaks off.
-/
import WideColumn.Proofs.Builder.Identifiers

namespace WideColumn

namespace Builder

open WideColumn.Schema WideColumn.Source

variable {s : Schema} {all seen : List String} {fs before after : List Schema.Function}
  {f : Schema.Function} {n : String}

/-! ## 1. The name of an overloaded function -/

/-- The name of an overloaded function in snake case, up to its number. -/
def overloadStem (f : Schema.Function) : String := Text.snakeCase f.name ++ "_"

theorem isRest_of_mem_toString (k : Nat) : ∀ c ∈ (toString k).toList, Word.isRest c = true := by
  have hdigits : ∀ n < 128, (Char.ofNat n).isDigit = true →
      Word.isRest (Char.ofNat n) = true := by decide +kernel
  intro c hc
  have hdigit := Text.isDigit_of_mem_toString hc
  have hascii : c.toNat < 128 := by
    have hnine : '9'.toNat = 57 := rfl
    have hbounds := Char.isDigit_iff_toNat.mp hdigit
    omega
  have hrest := hdigits c.toNat hascii
  rw [Char.ofNat_toNat] at hrest
  exact hrest hdigit

/-- **The number does not decide** whether an overloaded function has a name. -/
theorem functionName_overloaded (f : Schema.Function) (k : Nat) :
    functionName f (some k) =
      if isName (overloadStem f) then .ok (overloadStem f ++ toString k)
      else .error (.overload (overloadStem f ++ toString k)) := by
  rw [functionName, overloadStem, isName_append (isRest_of_mem_toString k)]

/-- A function that is not overloaded does not break off. -/
theorem functionName_ne_overload (f : Schema.Function) (n : String) :
    functionName f none ≠ .error (.overload n) := by
  simp only [functionName, name]
  split <;> simp

/-- The number of a function, where its name is overloaded. -/
def overloadNumber (all seen : List String) (f : Schema.Function) : Option Nat :=
  if 1 < all.count f.name then some (seen.count f.name) else none

theorem functionMembers_cons :
    functionMembers s all seen (f :: fs) = do
      let member ← functionMember s f (overloadNumber all seen f)
      let others ← functionMembers s all (f.name :: seen) fs
      return member :: others := rfl

/-- Where an overloaded function has a method, its name begins a word. -/
theorem isName_of_functionMembers {ms : List Member}
    (h : functionMembers s all seen fs = .ok ms) :
    ∀ f ∈ fs, 1 < all.count f.name → isName (overloadStem f) = true := by
  induction fs generalizing seen ms with
  | nil => simp
  | cons f fs ih =>
    simp only [functionMembers_cons, Except.bind_eq_ok_iff] at h
    obtain ⟨member, hmember, others, hothers, -⟩ := h
    refine List.forall_mem_cons.mpr ⟨fun hmany => ?_, ih hothers⟩
    have hname := functionName_of_functionMember hmember
    rw [overloadNumber, if_pos hmany, functionName_overloaded] at hname
    by_contra hno
    rw [if_neg hno] at hname
    cases hname

/-! ## 2. The first function without a name -/

/-- Only for its name a function of an accepted batch breaks off. -/
theorem functionMember_eq_overload_iff {d : Declaration} {registry : Registry}
    {defaults : Defaults} (hload : load d registry defaults = .ok s) (hf : f ∈ s.functions)
    (number : Option Nat) :
    functionMember s f number = .error (.overload n) ↔
      functionName f number = .error (.overload n) := by
  rw [functionMember, Except.bind_eq_error_iff]
  refine or_iff_left_of_imp ?_
  rintro ⟨ident, -, h⟩
  rcases Except.bind_eq_error_iff.mp h with hparameters | ⟨parameters, -, h⟩
  · cases failsAs_parameters hload hf _ hparameters
  · exact absurd h Except.pure_ne_error

/-- **The row of functions breaks off at the first one that does.** -/
theorem functionMembers_eq_overload_iff {d : Declaration} {registry : Registry}
    {defaults : Defaults} (hload : load d registry defaults = .ok s) (hfs : fs ⊆ s.functions) :
    functionMembers s all seen fs = .error (.overload n) ↔
      ∃ before f after, fs = before ++ f :: after
        ∧ (∃ ms, functionMembers s all seen before = .ok ms)
        ∧ functionName f (overloadNumber all ((before.map (·.name)).reverse ++ seen) f) =
          .error (.overload n) := by
  induction fs generalizing seen with
  | nil => simp [functionMembers]
  | cons g fs ih =>
    obtain ⟨hg, hothers⟩ := List.cons_subset.mp hfs
    rw [functionMembers_cons, Except.bind_eq_error_iff, functionMember_eq_overload_iff hload hg]
    constructor
    · rintro (hname | ⟨member, hmember, h⟩)
      · exact ⟨[], g, fs, rfl, ⟨[], rfl⟩, hname⟩
      · rcases Except.bind_eq_error_iff.mp h with h | ⟨others, -, h⟩
        · obtain ⟨before, f, after, rfl, ⟨ms, hms⟩, hname⟩ := (ih hothers).mp h
          refine ⟨g :: before, f, after, rfl, ⟨member :: ms, ?_⟩, by simpa using hname⟩
          rw [functionMembers_cons, hmember, hms]
          rfl
        · exact absurd h Except.pure_ne_error
    · rintro ⟨before, f, after, hsplit, ⟨ms, hms⟩, hname⟩
      cases before with
      | nil =>
        obtain ⟨rfl, rfl⟩ := List.cons.inj hsplit
        exact .inl hname
      | cons g' before =>
        obtain ⟨rfl, rfl⟩ := List.cons.inj hsplit
        simp only [functionMembers_cons, Except.bind_eq_ok_iff] at hms
        obtain ⟨member, hmember, ms, hms, -⟩ := hms
        refine .inr ⟨member, hmember, Except.bind_eq_error_iff.mpr (.inl ((ih hothers).mpr ?_))⟩
        exact ⟨before, f, after, rfl, ⟨ms, hms⟩, by simpa using hname⟩

/-- **Functions break off** at one that is the first of an overloaded name, where the name begins no
word in snake case. -/
structure FunctionsBreakOff (s : Schema) (n : String) (before : List Schema.Function)
    (f : Schema.Function) (after : List Schema.Function) : Prop where
  split : s.functions = before ++ f :: after
  reached : ∃ ms, functionMembers s (s.functions.map (·.name)) [] before = .ok ms
  overloaded : f.name ∈ after.map (·.name)
  stem : isName (overloadStem f) = false
  named : n = overloadStem f ++ "0"

/-- A function that breaks off is the first of its name: another one before it would have broken
off. -/
theorem not_mem_of_stem (hsplit : fs = before ++ f :: after)
    (hreached : ∃ ms, functionMembers s (fs.map (·.name)) [] before = .ok ms)
    (hstem : isName (overloadStem f) = false) : f.name ∉ before.map (·.name) := by
  intro hmem
  obtain ⟨ms, hms⟩ := hreached
  obtain ⟨g, hg, hname⟩ := List.mem_map.mp hmem
  have hmany : 1 < (fs.map (·.name)).count g.name := by
    have hbefore : 0 < (before.map (·.name)).count f.name := List.count_pos_iff.mpr hmem
    rw [hsplit, List.map_append, List.count_append, List.map_cons, hname, List.count_cons_self]
    omega
  have hstarts := isName_of_functionMembers hms g hg hmany
  rw [overloadStem, hname, ← overloadStem, hstem] at hstarts
  cases hstarts

/-- The first function of a name has number zero, and a number only if there are others. -/
theorem overloadNumber_of_not_mem (hsplit : fs = before ++ f :: after)
    (hfirst : f.name ∉ before.map (·.name)) :
    overloadNumber (fs.map (·.name)) ((before.map (·.name)).reverse ++ []) f =
      if f.name ∈ after.map (·.name) then some 0 else none := by
  have hcount : 1 < (fs.map (·.name)).count f.name ↔ f.name ∈ after.map (·.name) := by
    rw [hsplit, List.map_append, List.count_append, List.count_eq_zero_of_not_mem hfirst,
      List.map_cons, List.count_cons_self, ← List.count_pos_iff]
    omega
  rw [overloadNumber, List.append_nil, List.count_reverse, List.count_eq_zero_of_not_mem hfirst]
  simp only [hcount]

theorem functionMembers_breaks_off_iff {d : Declaration} {registry : Registry}
    {defaults : Defaults} (hload : load d registry defaults = .ok s) :
    functionMembers s (s.functions.map (·.name)) [] s.functions = .error (.overload n) ↔
      ∃ before f after, FunctionsBreakOff s n before f after := by
  rw [functionMembers_eq_overload_iff hload (List.Subset.refl _)]
  constructor
  · rintro ⟨before, f, after, hsplit, hms, hname⟩
    have hstem : isName (overloadStem f) = false := by
      rw [overloadNumber] at hname
      split at hname
      · rw [functionName_overloaded] at hname
        split at hname
        · simp at hname
        · rename_i hstem
          exact Bool.eq_false_iff.mpr hstem
      · exact absurd hname (functionName_ne_overload f n)
    rw [overloadNumber_of_not_mem hsplit (not_mem_of_stem hsplit hms hstem)] at hname
    split at hname
    · rename_i hmany
      rw [functionName_overloaded, hstem] at hname
      exact ⟨before, f, after, hsplit, hms, hmany, hstem,
        (GenerationError.overload.inj (Except.error.inj hname)).symm⟩
    · exact absurd hname (functionName_ne_overload f n)
  · rintro ⟨before, f, after, hsplit, hms, hmany, hstem, rfl⟩
    refine ⟨before, f, after, hsplit, hms, ?_⟩
    rw [overloadNumber_of_not_mem hsplit (not_mem_of_stem hsplit hms hstem), if_pos hmany,
      functionName_overloaded, hstem]
    rfl

/-! ## 3. Where generation breaks off -/

/-- **Generation breaks off** for a schema: the store can serve it, all its types and entities have
a source, and its functions break off. -/
structure BreaksOff (s : Schema) (profile : Profile) (emitDdl : Bool) (n : String) : Prop where
  served : s.checkCapabilities profile = .ok ()
  types : ∃ its, s.userTypes.flatMapM (userTypeItems s) = .ok its
  entities : ∃ its,
    (s.entities.flatMapM fun e => plan s profile emitDdl e >>= entityItems) = .ok its
  functions : ∃ before f after, FunctionsBreakOff s n before f after

/-- The registry breaks off as its methods do. -/
theorem functionItems_eq_overload_iff :
    functionItems s = .error (.overload n) ↔
      functionMembers s (s.functions.map (·.name)) [] s.functions = .error (.overload n) := by
  rw [functionItems]
  split
  · rename_i hnone
    rw [List.isEmpty_iff] at hnone
    simp [hnone, functionMembers]
  · rw [Except.bind_eq_error_iff]
    refine or_iff_left_of_imp ?_
    rintro ⟨members, -, h⟩
    exact absurd h Except.pure_ne_error

/-- Of an accepted batch nothing breaks off but its functions. -/
theorem items_eq_overload_iff {d : Declaration} {registry : Registry} {defaults : Defaults}
    {profile : Profile} {emitDdl : Bool} (hload : load d registry defaults = .ok s) :
    items s profile emitDdl = .error (.overload n) ↔ BreaksOff s profile emitDdl n := by
  have htypes : s.userTypes.flatMapM (userTypeItems s) ≠ .error (.overload n) := fun h =>
    nomatch Except.FailsAs.flatMapM (fun u hu => failsAs_userTypeItems hload hu) _ h
  have hentities : (s.entities.flatMapM fun e => plan s profile emitDdl e >>= entityItems) ≠
      .error (.overload n) := fun h => nomatch failsAs_entities hload _ h
  have hfunctions := functionItems_eq_overload_iff.trans (functionMembers_breaks_off_iff
    (n := n) hload)
  constructor
  · intro h
    rcases Except.bind_eq_error_iff.mp h with h | ⟨u, hserved, h⟩
    · obtain ⟨c, -, hc⟩ := Except.mapError_eq_error_iff.mp h
      cases hc
    rcases Except.bind_eq_error_iff.mp h with h | ⟨types, hmade, h⟩
    · exact absurd h htypes
    rcases Except.bind_eq_error_iff.mp h with h | ⟨entities, hmade', h⟩
    · exact absurd h hentities
    rcases Except.bind_eq_error_iff.mp h with h | ⟨functions, -, h⟩
    · exact ⟨Except.mapError_eq_ok_iff.mp hserved, ⟨types, hmade⟩, ⟨entities, hmade'⟩,
        hfunctions.mp h⟩
    · exact absurd h Except.pure_ne_error
  · rintro ⟨hserved, ⟨types, htypes⟩, ⟨entities, hentities⟩, h⟩
    rw [items, hserved, htypes]
    refine Except.bind_eq_error_iff.mpr (.inr ⟨(), rfl, ?_⟩)
    refine Except.bind_eq_error_iff.mpr (.inr ⟨types, rfl, ?_⟩)
    refine Except.bind_eq_error_iff.mpr (.inr ⟨entities, hentities, ?_⟩)
    exact Except.bind_eq_error_iff.mpr (.inl (hfunctions.mpr h))

/-- **Where generation breaks off.**  Every name that is put together for an entity of an accepted
batch is a name of source, and its states mention no others.  So whatever is declared, generation
breaks off only at a function of an accepted batch that is the first of an overloaded name, where
the name in snake case begins no word. -/
theorem generate_breaks_off (settings : Settings) (d : Declaration) :
    (∀ s, settings.load d = .ok s → ∀ e ∈ s.entities, ∀ p,
      plan s settings.profile settings.emitDdl e = .ok p →
        (∀ n, BuiltName p n → identifier? n = some n)
          ∧ ∀ ss, states p = .ok ss →
            ∀ state ∈ ss, BuiltName p state.name ∧ ∀ m ∈ state.methods, m.Covered p)
      ∧ ∀ n, settings.generate d = .error (.generation (.overload n)) ↔
        ∃ s, settings.load d = .ok s ∧ BreaksOff s settings.profile settings.emitDdl n := by
  refine ⟨fun s hload e he p hplan => ⟨fun n hn => ?_, fun ss hss => covered_of_states hss⟩,
    fun n => ?_⟩
  · exact identifier?_of_builtName (isPlain_of_plan hload he hplan) hn
  · rw [Settings.generate, Except.bind_eq_error_iff]
    simp only [Except.mapError_eq_error_iff, Except.mapError_eq_ok_iff, reduceCtorEq, and_false,
      exists_false, false_or, SourceError.generation.injEq, exists_eq_right]
    exact exists_congr fun s => and_congr_right items_eq_overload_iff

/-- Two functions of one name that begins with a digit. -/
def digitNamed : Declaration where
  functions := [
    { name := "1f", returns := "int" },
    { name := "1f", parameters := [{ name := "a", type := "text" }], returns := "int" }]

/-- **Generation may break off** for an accepted batch, at a name that is none. -/
theorem digits_break_off :
    (∃ s, load digitNamed {} {} = .ok s) ∧ isName "1_f_0" = false
      ∧ Settings.generate {} digitNamed = .error (.generation (.overload "1_f_0")) := by
  have hready : ((load digitNamed {} {}).toOption.map fun s =>
      match items s .cassandra30 true with
      | .error (.overload n) => decide (n = "1_f_0")
      | _ => false) = some true := by decide +kernel
  simp only [Option.map_eq_some_iff, Except.toOption_eq_some_iff] at hready
  obtain ⟨s, hload, hbreaks⟩ := hready
  refine ⟨⟨s, hload⟩, by decide +kernel, ?_⟩
  split at hbreaks
  · rename_i n hitems
    obtain rfl := of_decide_eq_true hbreaks
    rw [Settings.generate, show Settings.load {} digitNamed = .ok s from hload]
    exact congrArg (·.mapError SourceError.generation) hitems
  · cases hbreaks

end Builder

end WideColumn
