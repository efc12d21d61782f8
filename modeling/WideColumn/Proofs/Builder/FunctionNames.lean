/-
# Which calls of functions can share a name

The registry has a method for each function, named by the function's name in snake case.  Functions
that are declared under one name are numbered in the order of their declarations, so no two of them
meet (`overloads_apart`).

They are counted by the name as it is declared, not by the one in source.  So two functions whose
names differ but are one in snake case meet, and so may a number with a name that ends like one.
`nodup_functionMembers_iff` tells by the declared names alone whether any two do.
-/
import Mathlib.Data.List.FinRange
import Mathlib.Data.List.Nodup
import WideColumn.Builder.Functions
import WideColumn.Proofs.Builder.Plan
import WideColumn.Proofs.Except
import WideColumn.Proofs.Text.Digits

namespace WideColumn.Builder

open WideColumn.Source

variable {schema : Schema} {all seen : List String} {fs : List Schema.Function} {ms : List Member}
  {f : Schema.Function} {m : Member}

/-! ## 1. Names by what is declared -/

/-- The name of the method of the function at a place of the declared names: in snake case and, if
the name is declared more than once, with the number of times that it is before. -/
def callName? (declared : List String) (i : Fin declared.length) : Option String :=
  let stem := Text.snakeCase declared[i]
  if 1 < declared.count declared[i] then
    some (stem ++ "_" ++ toString ((declared.take i).count declared[i]))
  else identifier? stem

/-- Functions that are declared under different names have methods of different names. -/
def FunctionsApart (declared : List String) : Prop :=
  ∀ i j : Fin declared.length, declared[i] ≠ declared[j] →
    callName? declared i ≠ callName? declared j

/-- A name comes before its later occurrences once more often than before itself. -/
theorem count_take_lt (names : List String) {i j : Nat} (hij : i < j) (hi : i < names.length) :
    (names.take i).count names[i] < (names.take j).count names[i] := by
  have hnext : (names.take (i + 1)).count names[i] = (names.take i).count names[i] + 1 := by
    rw [List.take_succ_eq_append_getElem hi, List.count_append, List.count_singleton_self]
  have hle : (names.take (i + 1)).count names[i] ≤ (names.take j).count names[i] :=
    (List.take_sublist_take_left hij).count_le _
  omega

/-- **Functions declared under one name have methods of different names.** -/
theorem overloads_apart {declared : List String} {i j : Fin declared.length} (hij : i < j)
    (hsame : declared[i] = declared[j]) : callName? declared i ≠ callName? declared j := by
  have hbefore : (declared.take i).count declared[i] < (declared.take j).count declared[i] :=
    count_take_lt declared hij i.isLt
  have hmany : 1 < declared.count declared[i] := by
    have hlater : (declared.take j).count declared[j] < (declared.take (j + 1)).count declared[j] :=
      count_take_lt declared (Nat.lt_add_one _) j.isLt
    have hall := (List.take_sublist (j + 1) declared).count_le declared[j]
    rw [hsame] at hbefore ⊢
    omega
  intro heq
  rw [callName?, callName?, ← hsame, if_pos hmany, if_pos hmany, Option.some_inj] at heq
  have hnumber := Text.eq_of_toString ((String.append_right_inj _).mp heq)
  omega

/-- All methods of functions have names of their own if those of functions declared under different
names do. -/
theorem injective_callName?_iff {declared : List String} :
    Function.Injective (callName? declared) ↔ FunctionsApart declared := by
  constructor
  · intro hinj i j hne heq
    exact hne (congrArg (declared[·]) (hinj heq))
  · intro hapart i j heq
    by_contra hne
    have hsame : declared[i] = declared[j] := by
      by_contra hother
      exact hapart i j hother heq
    rcases lt_or_gt_of_ne hne with hij | hji
    · exact overloads_apart hij hsame heq
    · exact overloads_apart hji hsame.symm heq.symm

/-! ## 2. The methods of the registry -/

theorem functionName_of_functionMember {number : Option Nat}
    (h : functionMember schema f number = .ok m) : functionName f number = .ok m.name := by
  simp only [functionMember, Except.bind_eq_ok_iff] at h
  obtain ⟨ident, hident, parameters, -, h⟩ := h
  cases h
  exact hident

theorem length_functionMembers (h : functionMembers schema all seen fs = .ok ms) :
    ms.length = fs.length := by
  induction fs generalizing seen ms with
  | nil => cases h; rfl
  | cons f fs ih =>
    simp only [functionMembers, Except.bind_eq_ok_iff] at h
    obtain ⟨member, -, others, hothers, h⟩ := h
    cases h
    rw [List.length_cons, List.length_cons, ih hothers]

/-- Each function is named by how often its name is declared and was before. -/
theorem functionName_of_functionMembers (h : functionMembers schema all seen fs = .ok ms) {i : Nat}
    (hi : i < fs.length) (hm : i < ms.length) :
    functionName fs[i]
      (if 1 < all.count fs[i].name then
        some (((fs.map (·.name)).take i).count fs[i].name + seen.count fs[i].name)
      else none) = .ok ms[i].name := by
  induction fs generalizing seen ms i with
  | nil => cases hi
  | cons f fs ih =>
    simp only [functionMembers, Except.bind_eq_ok_iff] at h
    obtain ⟨member, hmember, others, hothers, h⟩ := h
    cases h
    cases i with
    | zero => simpa using functionName_of_functionMember hmember
    | succ i =>
      have hi' : i < fs.length := Nat.lt_of_succ_lt_succ hi
      have hlater := ih hothers hi' (Nat.lt_of_succ_lt_succ hm)
      -- the function in front has become one of those seen
      have hseen : ((f.name :: fs.map (·.name)).take (i + 1)).count fs[i].name
            + seen.count fs[i].name =
          ((fs.map (·.name)).take i).count fs[i].name + (f.name :: seen).count fs[i].name := by
        rw [List.take_succ_cons, List.count_cons, List.count_cons]
        omega
      simpa only [List.getElem_cons_succ, List.map_cons, hseen] using hlater

theorem functionName_none : functionName f none = name (Text.snakeCase f.name) := rfl

theorem functionName_some {n : Nat} {ident : String} (h : functionName f (some n) = .ok ident) :
    ident = Text.snakeCase f.name ++ "_" ++ toString n := by
  rw [functionName] at h
  split at h
  · exact (Except.ok.inj h).symm
  · cases h

/-- **The methods of the registry are named by the declared names.** -/
theorem names_functionMembers
    (h : functionMembers schema (fs.map (·.name)) [] fs = .ok ms) :
    ms.map (some ·.name) = List.ofFn (callName? (fs.map (·.name))) := by
  refine List.ext_getElem (by simp [length_functionMembers h]) fun i hi hi' => ?_
  rw [List.length_map] at hi
  have hf : i < fs.length := length_functionMembers h ▸ hi
  have hname := functionName_of_functionMembers h hf hi
  rw [List.getElem_map, List.getElem_ofFn, callName?]
  simp only [Fin.getElem_fin, List.getElem_map, List.count_nil, Nat.add_zero] at hname ⊢
  split_ifs at hname ⊢
  · rw [functionName_some hname]
  · rw [functionName_none] at hname
    exact (identifier?_of_name hname).symm

/-- Methods of functions have names of their own exactly if those of functions declared under
different names do. -/
theorem nodup_functionMembers_iff (h : functionMembers schema (fs.map (·.name)) [] fs = .ok ms) :
    (ms.map (·.name)).Nodup ↔ FunctionsApart (fs.map (·.name)) := by
  have hsome : ms.map (some ·.name) = (ms.map (·.name)).map some := (List.map_map).symm
  rw [← List.nodup_map_iff (Option.some_injective _), ← hsome, names_functionMembers h,
    List.nodup_ofFn, injective_callName?_iff]

end WideColumn.Builder
