/-
# Opening results that may be failures

A chain of checks succeeds exactly if each of its links does.  These lemmas take such a chain
apart from its end, one link at a time.  A row of them is told by its results.
-/

namespace WideColumn

universe u

namespace Except

variable {ε ε' α β : Type}

theorem ok_bind {a : α} {f : α → Except ε β} : Except.ok a >>= f = f a := rfl

theorem bind_eq_ok_iff {x : Except ε α} {f : α → Except ε β} {b : β} :
    x >>= f = .ok b ↔ ∃ a, x = .ok a ∧ f a = .ok b := by
  cases x <;> simp [bind, Except.bind]

/-- A chain fails as its first link that fails. -/
theorem bind_eq_error_iff {x : Except ε α} {f : α → Except ε β} {e : ε} :
    x >>= f = .error e ↔ x = .error e ∨ ∃ a, x = .ok a ∧ f a = .error e := by
  cases x <;> simp [bind, Except.bind]

theorem pure_ne_error {a : α} {e : ε} : (pure a : Except ε α) ≠ .error e := nofun

theorem map_eq_ok_iff {f : α → β} {x : Except ε α} {b : β} :
    x.map f = .ok b ↔ ∃ a, x = .ok a ∧ f a = b := by
  cases x <;> simp [Except.map]

@[simp] theorem mapError_ok {f : ε → ε'} {a : α} : (Except.ok a).mapError f = .ok a := rfl

@[simp] theorem mapError_error {f : ε → ε'} {e : ε} :
    (Except.error e : Except ε α).mapError f = .error (f e) := rfl

theorem mapError_eq_ok_iff {x : Except ε α} {f : ε → ε'} {a : α} :
    x.mapError f = .ok a ↔ x = .ok a := by
  cases x <;> simp

theorem mapError_eq_error_iff {x : Except ε α} {f : ε → ε'} {e : ε'} :
    x.mapError f = .error e ↔ ∃ cause, x = .error cause ∧ f cause = e := by
  cases x <;> simp

theorem toOption_eq_some_iff {x : Except ε α} {a : α} : x.toOption = some a ↔ x = .ok a := by
  cases x <;> simp [Except.toOption]

/-- Steps that are taken for their failures alone succeed exactly if each of them does. -/
theorem forM_eq_ok_iff {f : α → Except ε Unit} {as : List α} :
    as.forM f = .ok () ↔ ∀ a ∈ as, f a = .ok () := by
  induction as with
  | nil => exact ⟨fun _ => by simp, fun _ => rfl⟩
  | cons a as ih =>
    rw [List.forM, bind_eq_ok_iff, List.forall_mem_cons]
    constructor
    · rintro ⟨⟨⟩, ha, has⟩
      exact ⟨ha, ih.mp has⟩
    · rintro ⟨ha, has⟩
      exact ⟨(), ha, ih.mpr has⟩

/-- Such steps fail as one of them does. -/
theorem exists_of_forM_eq_error {f : α → Except ε Unit} {as : List α} {e : ε}
    (h : as.forM f = .error e) : ∃ a ∈ as, f a = .error e := by
  induction as with
  | nil => cases h
  | cons a as ih =>
    rw [List.forM] at h
    cases ha : f a with
    | error e' =>
      rw [ha] at h
      cases h
      exact ⟨a, List.mem_cons_self, ha⟩
    | ok u =>
      rw [ha] at h
      obtain ⟨a', ha', hfa⟩ := ih h
      exact ⟨a', List.mem_cons_of_mem _ ha', hfa⟩

/-- What is told of each result by its argument is told of all. -/
theorem map_eq_of_mapM {γ : Type} {f : α → Except ε β} {g : β → γ} {h : α → γ} {as : List α}
    (hf : ∀ a ∈ as, ∀ b, f a = .ok b → g b = h a) {bs : List β}
    (hmap : as.mapM f = .ok bs) : bs.map g = as.map h := by
  induction as generalizing bs with
  | nil => cases hmap; rfl
  | cons a as ih =>
    rw [List.mapM_cons] at hmap
    obtain ⟨b, hb, hmap⟩ := bind_eq_ok_iff.mp hmap
    obtain ⟨bs', hbs, hmap⟩ := bind_eq_ok_iff.mp hmap
    cases hmap
    rw [List.forall_mem_cons] at hf
    rw [List.map_cons, List.map_cons, hf.1 b hb, ih hf.2 hbs]

/-- Steps that all succeed succeed in a row. -/
theorem exists_mapM_eq_ok {f : α → Except ε β} {as : List α} (h : ∀ a ∈ as, ∃ b, f a = .ok b) :
    ∃ bs, as.mapM f = .ok bs := by
  induction as with
  | nil => exact ⟨[], rfl⟩
  | cons a as ih =>
    rw [List.forall_mem_cons] at h
    obtain ⟨b, hb⟩ := h.1
    obtain ⟨bs, hbs⟩ := ih h.2
    exact ⟨b :: bs, by rw [List.mapM_cons, hb, hbs]; rfl⟩

/-- Each result comes from an argument. -/
theorem exists_of_mem_mapM {f : α → Except ε β} {as : List α} {bs : List β}
    (hmap : as.mapM f = .ok bs) : ∀ b ∈ bs, ∃ a ∈ as, f a = .ok b := by
  induction as generalizing bs with
  | nil => cases hmap; simp
  | cons a as ih =>
    rw [List.mapM_cons] at hmap
    obtain ⟨b, hb, hmap⟩ := bind_eq_ok_iff.mp hmap
    obtain ⟨bs', hbs, hmap⟩ := bind_eq_ok_iff.mp hmap
    cases hmap
    rw [List.forall_mem_cons]
    refine ⟨⟨a, List.mem_cons_self, hb⟩, fun b' hb' => ?_⟩
    obtain ⟨a', ha', hfa⟩ := ih hbs b' hb'
    exact ⟨a', List.mem_cons_of_mem _ ha', hfa⟩

/-- Each of the results in a row comes from an argument. -/
theorem exists_of_mem_flatMapM {f : α → Except ε (List β)} {as : List α} {bs : List β}
    (hmap : as.flatMapM f = .ok bs) : ∀ b ∈ bs, ∃ a ∈ as, ∃ bs', f a = .ok bs' ∧ b ∈ bs' := by
  induction as generalizing bs with
  | nil => cases hmap; simp
  | cons a as ih =>
    rw [List.flatMapM_cons] at hmap
    obtain ⟨front, hfront, hmap⟩ := bind_eq_ok_iff.mp hmap
    obtain ⟨back, hback, hmap⟩ := bind_eq_ok_iff.mp hmap
    cases hmap
    intro b hb
    rcases List.mem_append.mp hb with hb | hb
    · exact ⟨a, List.mem_cons_self, front, hfront, hb⟩
    · obtain ⟨a', ha', bs', hfa, hmem⟩ := ih hback b hb
      exact ⟨a', List.mem_cons_of_mem _ ha', bs', hfa, hmem⟩

/-- What is told of each row of results by its argument is told of all. -/
theorem filterMap_eq_of_flatMapM {γ : Type} {f : α → Except ε (List β)} {q : β → Option γ}
    {h : α → List γ} {as : List α} (hf : ∀ a ∈ as, ∀ bs, f a = .ok bs → bs.filterMap q = h a)
    {bs : List β} (hmap : as.flatMapM f = .ok bs) : bs.filterMap q = as.flatMap h := by
  induction as generalizing bs with
  | nil => cases hmap; rfl
  | cons a as ih =>
    rw [List.flatMapM_cons] at hmap
    obtain ⟨front, hfront, hmap⟩ := bind_eq_ok_iff.mp hmap
    obtain ⟨back, hback, hmap⟩ := bind_eq_ok_iff.mp hmap
    cases hmap
    rw [List.forall_mem_cons] at hf
    rw [List.filterMap_append, List.flatMap_cons, hf.1 front hfront, ih hf.2 hback]

/-- What holds of all results in a row holds of the results of each argument. -/
theorem forall_mem_flatMapM_iff {f : α → Except ε (List β)} {P : β → Prop} {as : List α}
    {bs : List β} (hmap : as.flatMapM f = .ok bs) :
    (∀ b ∈ bs, P b) ↔ ∀ a ∈ as, ∃ bs', f a = .ok bs' ∧ ∀ b ∈ bs', P b := by
  induction as generalizing bs with
  | nil => cases hmap; simp
  | cons a as ih =>
    rw [List.flatMapM_cons] at hmap
    obtain ⟨front, hfront, hmap⟩ := bind_eq_ok_iff.mp hmap
    obtain ⟨back, hback, hmap⟩ := bind_eq_ok_iff.mp hmap
    cases hmap
    rw [List.forall_mem_append, List.forall_mem_cons, ih hback, hfront]
    simp

/-- Each argument has results. -/
theorem exists_of_flatMapM {f : α → Except ε (List β)} {as : List α} {bs : List β}
    (hmap : as.flatMapM f = .ok bs) : ∀ a ∈ as, ∃ bs', f a = .ok bs' := by
  intro a ha
  obtain ⟨bs', hbs', -⟩ :=
    (forall_mem_flatMapM_iff (P := fun _ => True) hmap).mp (fun _ _ => trivial) a ha
  exact ⟨bs', hbs'⟩

/-! ## Results that follow others -/

/-- **A result follows another one**: where there is the other one there is this one, and the two
are related. -/
def Follows (R : α → β → Prop) (x : Except ε α) (y : Except ε β) : Prop :=
  ∀ a, x = .ok a → ∃ b, y = .ok b ∧ R a b

namespace Follows

variable {α' β' : Type} {R : α → β → Prop} {S : α' → β' → Prop}

theorem ok {a : α} {b : β} (h : R a b) : Follows (ε := ε) R (.ok a) (.ok b) := by
  intro a' ha'
  cases ha'
  exact ⟨b, rfl, h⟩

/-- Every result follows itself. -/
theorem self (x : Except ε α) : Follows Eq x x := fun a ha => ⟨a, ha, rfl⟩

theorem bind {x : Except ε α} {y : Except ε β} {f : α → Except ε α'} {g : β → Except ε β'}
    (h : Follows R x y) (hrest : ∀ a b, R a b → Follows S (f a) (g b)) :
    Follows S (x >>= f) (y >>= g) := by
  intro c hc
  obtain ⟨a, ha, hc⟩ := bind_eq_ok_iff.mp hc
  obtain ⟨b, hb, hab⟩ := h a ha
  obtain ⟨c', hc', hrel⟩ := hrest a b hab c hc
  exact ⟨c', bind_eq_ok_iff.mpr ⟨b, hb, hc'⟩, hrel⟩

theorem mapError {ε' : Type} {x : Except ε α} {y : Except ε β} {f g : ε → ε'} (h : Follows R x y) :
    Follows R (x.mapError f) (y.mapError g) := by
  intro a ha
  cases hx : x with
  | error e =>
    rw [hx] at ha
    cases ha
  | ok a' =>
    rw [hx] at ha
    cases ha
    obtain ⟨b, rfl, hab⟩ := h a hx
    exact ⟨b, rfl, hab⟩

/-- Rows of results follow one another where the results of each argument do. -/
theorem flatMapM {R : List α → List β → Prop} (hnil : R [] [])
    (happend : ∀ {as as' bs bs'}, R as bs → R as' bs' → R (as ++ as') (bs ++ bs'))
    {f : α' → Except ε (List α)} {g : α' → Except ε (List β)} :
    ∀ {xs : List α'}, (∀ x ∈ xs, Follows R (f x) (g x)) → Follows R (xs.flatMapM f) (xs.flatMapM g)
  | [], _ => ok hnil
  | x :: xs, h => by
    rw [List.forall_mem_cons] at h
    rw [List.flatMapM_cons, List.flatMapM_cons]
    refine h.1.bind fun front front' hfront => ?_
    refine (flatMapM hnil happend h.2).bind fun back back' hback => ?_
    exact ok (happend hfront hback)

end Follows

/-! ## Failures of a kind -/

/-- **A result fails as told**: if it is a failure, something holds of it. -/
def FailsAs (P : ε → Prop) (x : Except ε α) : Prop := ∀ e, x = .error e → P e

namespace FailsAs

variable {P Q : ε → Prop} {x : Except ε α}

theorem ok {a : α} : FailsAs P (.ok a) := fun _ h => nomatch h

theorem error {e : ε} (h : P e) : FailsAs (α := α) P (.error e) := by
  rintro _ ⟨⟩
  exact h

theorem mono (h : FailsAs P x) (hweaker : ∀ e, P e → Q e) : FailsAs Q x :=
  fun e he => hweaker e (h e he)

theorem bind {f : α → Except ε β} (hfirst : FailsAs P x)
    (hrest : ∀ a, x = .ok a → FailsAs P (f a)) : FailsAs P (x >>= f) := by
  cases hx : x with
  | error e => exact error (hfirst e hx)
  | ok a => exact hrest a hx

theorem map {f : α → β} (h : FailsAs P x) : FailsAs P (x.map f) := by
  cases hx : x with
  | error e => exact error (h e hx)
  | ok a => exact ok

theorem mapError {f : ε → ε'} {P : ε' → Prop} (h : ∀ e, x = .error e → P (f e)) :
    FailsAs P (x.mapError f) := by
  cases hx : x with
  | error e => exact error (h e hx)
  | ok a => exact ok

/-- A row of steps fails as its steps do. -/
theorem mapM {f : α → Except ε β} :
    ∀ {as : List α}, (∀ a ∈ as, FailsAs P (f a)) → FailsAs P (as.mapM f)
  | [], _ => ok
  | a :: as, h => by
    rw [List.forall_mem_cons] at h
    rw [List.mapM_cons]
    exact h.1.bind fun _ _ => (mapM h.2).bind fun _ _ => ok

theorem flatMapM {f : α → Except ε (List β)} :
    ∀ {as : List α}, (∀ a ∈ as, FailsAs P (f a)) → FailsAs P (as.flatMapM f)
  | [], _ => ok
  | a :: as, h => by
    rw [List.forall_mem_cons] at h
    rw [List.flatMapM_cons]
    exact h.1.bind fun _ _ => (flatMapM h.2).bind fun _ _ => ok

end FailsAs

end Except

/-- What is told of each result by its argument is told of all. -/
theorem Option.map_eq_of_mapM {α γ : Type} {β : Type u} {f : α → Option β} {g : β → γ} {h : α → γ}
    (hf : ∀ a b, f a = some b → g b = h a) {as : List α} {bs : List β}
    (hmap : as.mapM f = some bs) : bs.map g = as.map h := by
  induction as generalizing bs with
  | nil => cases hmap; rfl
  | cons a as ih =>
    rw [List.mapM_cons] at hmap
    obtain ⟨b, hb, hmap⟩ := Option.bind_eq_some_iff.mp hmap
    obtain ⟨bs', hbs, hmap⟩ := Option.bind_eq_some_iff.mp hmap
    cases hmap
    rw [List.map_cons, List.map_cons, hf a b hb, ih hbs]

/-- The results of a row of steps, told by what each step gives. -/
theorem Option.mapM_eq_some_iff {α : Type} {β : Type u} {f : α → Option β} {as : List α}
    {bs : List β} : as.mapM f = some bs ↔ as.map f = bs.map some := by
  induction as generalizing bs with
  | nil => cases bs <;> simp
  | cons a as ih =>
    rw [List.mapM_cons]
    cases bs with
    | nil => cases f a <;> cases as.mapM f <;> simp
    | cons b bs =>
      rw [List.map_cons, List.map_cons, List.cons.injEq, ← ih]
      cases f a <;> cases as.mapM f <;> simp

/-- A row of steps gives something exactly if each of them does. -/
theorem Option.isSome_mapM_iff {α : Type} {β : Type u} {f : α → Option β} {as : List α} :
    (as.mapM f).isSome ↔ ∀ a ∈ as, (f a).isSome := by
  induction as with
  | nil => simp
  | cons a as ih =>
    rw [List.forall_mem_cons, ← ih, List.mapM_cons]
    cases f a <;> cases as.mapM f <;> simp

theorem Option.mem_mapM_iff {α : Type} {β : Type u} {f : α → Option β} {as : List α} {bs : List β}
    (h : as.mapM f = some bs) (b : β) : b ∈ bs ↔ ∃ a ∈ as, f a = some b := by
  rw [← List.mem_map, Option.mapM_eq_some_iff.mp h, List.mem_map]
  simp

theorem Option.forall_mem_of_mapM {α : Type} {β : Type u} {f : α → Option β} {P : β → Prop}
    {as : List α} {bs : List β} (h : as.mapM f = some bs) (hf : ∀ a b, f a = some b → P b) :
    ∀ b ∈ bs, P b := by
  intro b hb
  obtain ⟨a, -, ha⟩ := (Option.mem_mapM_iff h b).mp hb
  exact hf a b ha

theorem Option.exists_of_mem_mapM {α : Type} {β : Type u} {f : α → Option β} {as : List α}
    {bs : List β} (h : as.mapM f = some bs) {a : α} (ha : a ∈ as) : ∃ b ∈ bs, f a = some b := by
  have hmem : f a ∈ bs.map some := Option.mapM_eq_some_iff.mp h ▸ List.mem_map_of_mem ha
  obtain ⟨b, hb, heq⟩ := List.mem_map.mp hmem
  exact ⟨b, hb, heq.symm⟩

/-- What one step of a row gives stands among the results, with those of the steps behind it behind
it. -/
theorem Option.mapM_append_cons {α : Type} {β : Type u} {f : α → Option β} {front back : List α}
    {a : α} {bs : List β} (h : (front ++ a :: back).mapM f = some bs) :
    ∃ front' b back', bs = front' ++ b :: back' ∧ f a = some b ∧ back.mapM f = some back' := by
  rw [Option.mapM_eq_some_iff, List.map_append, List.map_cons, eq_comm,
    List.map_eq_append_iff] at h
  obtain ⟨front', rest, rfl, -, hrest⟩ := h
  obtain ⟨b, back', rfl, hb, hback⟩ := List.map_eq_cons_iff.mp hrest
  exact ⟨front', b, back', rfl, hb.symm, Option.mapM_eq_some_iff.mpr hback.symm⟩

theorem Option.append_cons_of_mapM {α : Type} {β : Type u} {f : α → Option β} {as : List α}
    {front back : List β} {b : β} (h : as.mapM f = some (front ++ b :: back)) :
    ∃ front' a back', as = front' ++ a :: back' ∧ f a = some b ∧ back'.mapM f = some back := by
  rw [Option.mapM_eq_some_iff, List.map_append, List.map_cons, List.map_eq_append_iff] at h
  obtain ⟨front', rest, rfl, -, hrest⟩ := h
  obtain ⟨a, back', rfl, ha, hback⟩ := List.map_eq_cons_iff.mp hrest
  exact ⟨front', a, back', rfl, ha, Option.mapM_eq_some_iff.mpr hback⟩

end WideColumn
