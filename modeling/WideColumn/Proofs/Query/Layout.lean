/-
# Texts laid out from fragments

The text of a statement is words and fragments, and only fragments hold placeholders.  `Laid` says
that a text is put together so, from which fragments and in which order, and lets everything be
proved by the way the text is written down.

What it gives is that PLACEHOLDERS AND VALUES STAND IN THE SAME ORDER: there are as many, and
before a fragment there are as many placeholders as values of the fragments in front of it
(`Laid.locate`).
-/
import WideColumn.Query

namespace WideColumn

/-! ## 1. Placeholders -/

/-- How many placeholders a text holds. -/
def placeholders (s : String) : Nat := s.toList.count '?'

@[simp] theorem placeholders_append (s t : String) :
    placeholders (s ++ t) = placeholders s + placeholders t := by
  simp [placeholders]

@[simp] theorem placeholders_toString (s : String) :
    placeholders (toString s) = placeholders s := rfl

@[simp] theorem placeholders_natRepr (n : Nat) : placeholders n.repr = 0 := by
  rw [placeholders, Nat.toList_repr, List.count_eq_zero]
  intro h
  exact absurd (Nat.isDigit_of_mem_toDigits (by omega) (by omega) h) (by decide)

@[simp] theorem placeholders_intRepr (n : Int) : placeholders n.repr = 0 := by
  rw [Int.repr_eq_if]
  split
  · exact placeholders_natRepr _
  · rw [placeholders_append, placeholders_natRepr]
    rfl

/-- Words between words are words. -/
theorem placeholders_intercalate {separator : String} (hseparator : placeholders separator = 0) :
    ∀ {items : List String}, (∀ item ∈ items, placeholders item = 0) →
    placeholders (separator.intercalate items) = 0
  | [], _ => by
    rw [String.intercalate_nil]
    rfl
  | [item], h => by
    rw [String.intercalate_singleton]
    exact h item (by simp)
  | item :: next :: items, h => by
    have ih := placeholders_intercalate hseparator
      (fun item' h' => h item' (List.mem_cons_of_mem item h'))
    rw [String.intercalate_cons_cons, placeholders_append, placeholders_append, hseparator, ih,
      h item (by simp)]

/-- Whether a fragment holds a placeholder for each of its values and no other. -/
def Fragment.Balanced (f : Fragment) : Prop := placeholders f.text = f.bounds.length

/-- The values of fragments, in order. -/
def Fragment.boundsOf (fs : List Fragment) : List Bound := fs.flatMap (·.bounds)

/-! ## 2. Layout -/

/-- A text made of balanced fragments, in order, and of words without placeholders. -/
inductive Laid : String → List Fragment → Prop
  | words {s : String} (h : placeholders s = 0) : Laid s []
  | fragment {f : Fragment} (h : f.Balanced) : Laid f.text [f]
  | append {s t : String} {fs gs : List Fragment} (hs : Laid s fs) (ht : Laid t gs) :
      Laid (s ++ t) (fs ++ gs)

namespace Laid

/-- A text with words behind it. -/
theorem andWords {s t : String} {fs : List Fragment} (hs : Laid s fs) (ht : placeholders t = 0) :
    Laid (s ++ t) fs := by
  simpa using hs.append (.words ht)

/-- **A text holds as many placeholders as its fragments have values.** -/
theorem placeholders_eq {s : String} {fs : List Fragment} (h : Laid s fs) :
    placeholders s = (Fragment.boundsOf fs).length := by
  induction h with
  | words h => exact h
  | fragment h => simpa [Fragment.boundsOf, Fragment.Balanced] using h
  | append _ _ ihs iht => simp [Fragment.boundsOf, ihs, iht]

/-- **Before a fragment a text holds the placeholders of the values in front of it.** -/
theorem locate {s : String} {fs : List Fragment} (h : Laid s fs) {gs hs : List Fragment}
    {f : Fragment} (hfs : fs = gs ++ f :: hs) :
    ∃ before after, s = before ++ f.text ++ after
      ∧ placeholders before = (Fragment.boundsOf gs).length ∧ f.Balanced := by
  induction h generalizing gs hs with
  | words h => simp at hfs
  | @fragment f' h =>
    obtain ⟨rfl, rfl, rfl⟩ : gs = [] ∧ f' = f ∧ hs = [] := by
      cases gs <;> simp_all
    exact ⟨"", "", by simp, rfl, h⟩
  | @append s t fs₁ fs₂ h₁ h₂ ih₁ ih₂ =>
    -- the fragment is in the second text exactly if the first one is all in front of it
    have hsplit : (∃ gs', gs = fs₁ ++ gs' ∧ fs₂ = gs' ++ f :: hs) ∨
        ∃ hs', fs₁ = gs ++ f :: hs' ∧ hs = hs' ++ fs₂ := by
      rcases List.append_eq_append_iff.mp hfs with hsecond | ⟨_ | ⟨f', hs'⟩, hfs₁, hhs⟩
      · exact Or.inl hsecond
      · exact Or.inl ⟨[], by simpa using hfs₁.symm, hhs.symm⟩
      · obtain ⟨rfl, rfl⟩ := List.cons.inj hhs
        exact Or.inr ⟨hs', hfs₁, rfl⟩
    rcases hsplit with ⟨gs', rfl, hfs₂⟩ | ⟨hs', hfs₁, -⟩
    · obtain ⟨before, after, rfl, hbefore, hf⟩ := ih₂ hfs₂
      refine ⟨s ++ before, after, by simp only [String.append_assoc], ?_, hf⟩
      rw [placeholders_append, h₁.placeholders_eq, hbefore]
      simp [Fragment.boundsOf]
    · obtain ⟨before, after, rfl, hbefore, hf⟩ := ih₁ hfs₁
      exact ⟨before, after ++ t, by simp only [String.append_assoc], hbefore, hf⟩

/-- Balanced fragments with words between them. -/
theorem intercalate {separator : String} (hseparator : placeholders separator = 0) :
    ∀ {fs : List Fragment}, (∀ f ∈ fs, f.Balanced) →
    Laid (separator.intercalate (fs.map (·.text))) fs
  | [], _ => by simpa using Laid.words rfl
  | [f], h => by simpa using Laid.fragment (h f (by simp))
  | f :: g :: fs, h => by
    have ih := Laid.intercalate hseparator (fun f' hf' => h f' (List.mem_cons_of_mem f hf'))
    simp only [List.map_cons, String.intercalate_cons_cons]
    exact ((Laid.fragment (h f (by simp))).andWords hseparator).append ih

end Laid

end WideColumn
