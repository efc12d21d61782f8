/-
# Reading a collection puts it into its normal form

A stored collection may hold its contents in any order, and some of them more than once: a store is
free to give them back as it likes, and a list is taken for a set.  What is read from it is not
free.

* A SET is what its cells hold, each element once and in increasing order (`IsSetOf`).  So neither
  the order of the cells, nor how often one of them is there, nor how the row is tagged plays any
  part.
* A MAP has every key of its entries once and in increasing order, with the value of the last entry
  that has it (`IsMapOf`).  So entries may change places as long as those with one key keep theirs
  among each other (`Reordered`).
* Nothing is skipped: one cell that cannot be read fails the whole.

All of this goes on inside what is stored: `Rearranged` are the values that differ by such changes
at any depth, and what is read from them is the same (`decode?_eq_of_rearranged`).

Elements of sets and keys of maps are of types in a total order.  Where two of them only rank alike,
as floating-point numbers can, one would take the place of the other.
-/
import WideColumn.Proofs.Data.Gathered
import WideColumn.Proofs.Except

namespace WideColumn

open DataType Data

/-! ## 1. What is read is of its type -/

namespace DataType

/-- The data of a stored entry. -/
def entryData? (k v : DataType) (e : Value × Value) : Option (Data × Data) :=
  return (← k.decode? e.1, ← v.decode? e.2)

theorem entryData?_eq_some_iff {k v : DataType} {e : Value × Value} {f : Data × Data} :
    entryData? k v e = some f ↔ k.decode? e.1 = some f.1 ∧ v.decode? e.2 = some f.2 := by
  simp [entryData?, Option.bind_eq_some_iff, Prod.ext_iff]

theorem isSome_entryData? {k v : DataType} {e : Value × Value} :
    (entryData? k v e).isSome ↔ (k.decode? e.1).isSome ∧ (v.decode? e.2).isSome := by
  rw [entryData?]
  cases k.decode? e.1 <;> cases v.decode? e.2 <;> simp

theorem decode?_option {t : DataType} {v : Value} (h : v ≠ .null) :
    (option t).decode? v = (t.decode? v).map .present := by
  rw [decode?]
  exact h

theorem decode?_map_entries (k v : DataType) (es : List (Value × Value)) :
    (map k v).decode? (.map es) = (es.mapM (entryData? k v)).map mapOf := by
  rw [decode?]
  rfl

theorem hasType_of_decode?_of_isScalar {t : DataType} (ht : t.isScalar = true) {v : Value}
    {d : Data} (h : t.decode? v = some d) : d.HasType t := by
  cases t <;> cases ht <;> cases v <;> simp [decode?] at h <;> subst h <;> constructor

mutual

/-- **What is read for a type is of that type**, so sets and maps are in increasing order in it, at
any depth. -/
theorem hasType_of_decode? : ∀ (t : DataType) {v : Value} {d : Data},
    t.decode? v = some d → d.HasType t
  | option t, v, d, h => by
    by_cases hnull : v = .null
    · subst hnull
      simp only [decode?, Option.some.injEq] at h
      subst h
      exact .absent t
    · rw [decode?_option hnull, Option.map_eq_some_iff] at h
      obtain ⟨d, hd, rfl⟩ := h
      exact .present (hasType_of_decode? t hd)
  | list t, v, d, h => by
    cases v <;> simp only [decode?, reduceCtorEq, Option.some.injEq, Option.map_eq_some_iff] at h
    case null =>
      subst h
      exact .list nofun
    case list vs | set vs =>
      obtain ⟨ds, hds, rfl⟩ := h
      exact .list (Option.forall_mem_of_mapM hds fun _ _ => hasType_of_decode? t)
  | set t, v, d, h => by
    cases v <;> simp only [decode?, reduceCtorEq, Option.some.injEq, Option.map_eq_some_iff] at h
    case null =>
      subst h
      exact .set nofun .nil
    case list vs | set vs =>
      obtain ⟨ds, hds, rfl⟩ := h
      rw [setOf_eq_gathered]
      exact .set (fun d hd => Option.forall_mem_of_mapM hds (fun _ _ => hasType_of_decode? t) d
        (mem_of_mem_gathered hd)) (increasing_gathered id ds)
  | map k v, w, d, h => by
    by_cases hmap : ∃ es, w = .map es
    · obtain ⟨es, rfl⟩ := hmap
      rw [decode?_map_entries, Option.map_eq_some_iff] at h
      obtain ⟨fs, hfs, rfl⟩ := h
      have hkeys : ∀ f ∈ fs, f.1.HasType k := Option.forall_mem_of_mapM hfs fun _ _ he =>
        hasType_of_decode? k (entryData?_eq_some_iff.mp he).1
      have hvalues : ∀ f ∈ fs, f.2.HasType v := Option.forall_mem_of_mapM hfs fun _ _ he =>
        hasType_of_decode? v (entryData?_eq_some_iff.mp he).2
      rw [mapOf_eq_gathered]
      exact .map (fun f hf => hkeys f (mem_of_mem_gathered hf))
        (fun f hf => hvalues f (mem_of_mem_gathered hf)) (increasing_gathered Prod.fst fs)
    · cases w <;> simp only [decode?, reduceCtorEq, Option.some.injEq] at h
      case null =>
        subst h
        exact .map nofun nofun .nil
      case map es => exact absurd ⟨es, rfl⟩ hmap
  | tuple ts, v, d, h => by
    cases v <;> simp only [decode?, reduceCtorEq, Option.map_eq_some_iff] at h
    obtain ⟨ds, hds, rfl⟩ := h
    obtain ⟨hlength, hall⟩ := hasType_of_decodeTuple? ts hds
    exact .tuple hlength hall
  | record name fs, v, d, h => by
    simp only [decode?, Option.map_eq_some_iff] at h
    obtain ⟨ds, hds, rfl⟩ := h
    obtain ⟨hnames, hall⟩ := hasType_of_decodeFields? fs hds
    exact .record hnames hall
  | text, _, _, h | boolean, _, _, h | tinyint, _, _, h | smallint, _, _, h | int, _, _, h
  | bigint, _, _, h | float, _, _, h | double, _, _, h | blob, _, _, h | uuid, _, _, h
  | timestamp, _, _, h | date, _, _, h | time, _, _, h | inet, _, _, h =>
    hasType_of_decode?_of_isScalar rfl h

/-- The same for the slots of a tuple. -/
theorem hasType_of_decodeTuple? : ∀ (ts : List DataType) {vs : List Value} {ds : List Data},
    decodeTuple? ts vs = some ds →
      ds.length = ts.length ∧ ∀ p ∈ ds.zip ts, p.1.HasType p.2
  | [], vs, ds, h => by
    cases vs <;> simp only [decodeTuple?, reduceCtorEq, Option.some.injEq] at h
    subst h
    exact ⟨rfl, nofun⟩
  | t :: ts, vs, ds, h => by
    cases vs with
    | nil => simp only [decodeTuple?, reduceCtorEq] at h
    | cons v vs =>
      simp only [decodeTuple?, Option.bind_eq_bind, Option.bind_eq_some_iff] at h
      obtain ⟨d, hd, ds, hds, h⟩ := h
      cases h
      obtain ⟨hlength, hall⟩ := hasType_of_decodeTuple? ts hds
      exact ⟨congrArg (· + 1) hlength,
        List.forall_mem_cons.mpr ⟨hasType_of_decode? t hd, hall⟩⟩

/-- The same for the fields of a record. -/
theorem hasType_of_decodeFields? : ∀ (fs : List (String × DataType)) {v : Value}
    {ds : List (String × Data)}, decodeFields? fs v = some ds →
      ds.map (·.1) = fs.map (·.1) ∧ ∀ p ∈ ds.zip fs, p.1.2.HasType p.2.2
  | [], v, ds, h => by
    simp only [decodeFields?, Option.some.injEq] at h
    subst h
    exact ⟨rfl, nofun⟩
  | (n, t) :: fs, v, ds, h => by
    simp only [decodeFields?, Option.bind_eq_bind, Option.bind_eq_some_iff] at h
    obtain ⟨d, ⟨w, -, hd⟩, ds, hds, h⟩ := h
    cases h
    obtain ⟨hnames, hall⟩ := hasType_of_decodeFields? fs hds
    exact ⟨congrArg (n :: ·) hnames,
      List.forall_mem_cons.mpr ⟨hasType_of_decode? t hd, hall⟩⟩

end

end DataType

/-- Where two results are there together and then the same, they are one. -/
theorem Option.eq_of_isSome_iff {α : Type} {x y : Option α} (hsome : x.isSome ↔ y.isSome)
    (h : ∀ a b, x = some a → y = some b → a = b) : x = y := by
  cases x with
  | none => cases y with
    | none => rfl
    | some b => exact absurd (hsome.mpr rfl) nofun
  | some a => cases y with
    | none => exact absurd (hsome.mp rfl) nofun
    | some b => rw [h a b rfl rfl]

/-! ## 2. Sets -/

/-- **The set of some stored cells**: what they hold, each datum once and in increasing order. -/
structure IsSetOf (t : DataType) (vs : List Value) (ds : List Data) : Prop where
  increasing : ds.Pairwise fun a b => a.order b = .lt
  mem_iff : ∀ d, d ∈ ds ↔ ∃ v ∈ vs, t.decode? v = some d

section Sets

variable {t : DataType} {vs ws : List Value} {d : Data}

theorem isSome_decode?_set :
    ((DataType.set t).decode? (.set vs)).isSome ↔ ∀ v ∈ vs, (t.decode? v).isSome := by
  rw [decode?, Option.isSome_map, Option.isSome_mapM_iff]

/-- What is read from cells, if all can be read, is their set. -/
theorem isSetOf_of_decode? (ht : t.Total) (h : (DataType.set t).decode? (.set vs) = some d) :
    ∃ ds, d = .set ds ∧ IsSetOf t vs ds := by
  rw [decode?, Option.map_eq_some_iff] at h
  obtain ⟨all, hall, rfl⟩ := h
  have htype := Option.forall_mem_of_mapM hall fun _ _ => hasType_of_decode? t
  rw [setOf_eq_gathered]
  refine ⟨_, rfl, increasing_gathered id all, fun d => ?_⟩
  rw [← Option.mem_mapM_iff hall d]
  refine ⟨mem_of_mem_gathered, fun hd => ?_⟩
  obtain ⟨d', hd', heq⟩ := exists_mem_gathered id hd
  rwa [(order_eq_eq_iff ht (htype d hd) (htype d' (mem_of_mem_gathered hd'))).mp heq]

/-- Cells that are the same but for their places and their number hold the same set. -/
theorem decode?_set_of_mem_iff (ht : t.Total) (h : ∀ v, v ∈ vs ↔ v ∈ ws) :
    (DataType.set t).decode? (.set vs) = (DataType.set t).decode? (.set ws) := by
  refine Option.eq_of_isSome_iff ?_ fun a b ha hb => ?_
  · simp only [isSome_decode?_set, h]
  · obtain ⟨as, rfl, has⟩ := isSetOf_of_decode? ht ha
    obtain ⟨bs, rfl, hbs⟩ := isSetOf_of_decode? ht hb
    have hmem : ∀ d, d ∈ as ↔ d ∈ bs := fun d => by simp only [has.mem_iff, hbs.mem_iff, h]
    rw [eq_of_increasing id has.increasing hbs.increasing hmem]

end Sets

/-! ## 3. Maps -/

/-- **The map of some stored entries**: every key once and in increasing order, with the value of
the last entry that has it. -/
structure IsMapOf (k v : DataType) (es : List (Value × Value)) (fs : List (Data × Data)) :
    Prop where
  increasing : fs.Pairwise fun a b => a.1.order b.1 = .lt
  keys : ∀ x, x ∈ fs.map (·.1) ↔ ∃ e ∈ es, k.decode? e.1 = some x
  mem_iff : ∀ f, f ∈ fs ↔ ∃ front e back, es = front ++ e :: back ∧ k.decode? e.1 = some f.1
    ∧ v.decode? e.2 = some f.2 ∧ ∀ e' ∈ back, k.decode? e'.1 ≠ some f.1

/-- Whether two entries have one key. -/
def sameKey (k : DataType) (e f : Value × Value) : Bool :=
  match k.decode? e.1, k.decode? f.1 with
  | some a, some b => a.order b == .eq
  | _, _ => false

/-- **Entries in another order**, in which those with one key keep theirs. -/
structure Reordered (k : DataType) (es fs : List (Value × Value)) : Prop where
  perm : es.Perm fs
  stable : ∀ e ∈ es, es.filter (sameKey k e) = fs.filter (sameKey k e)

section Maps

variable {k v : DataType} {es fs : List (Value × Value)} {d : Data}

theorem isSome_decode?_map : ((DataType.map k v).decode? (.map es)).isSome ↔
    ∀ e ∈ es, (k.decode? e.1).isSome ∧ (v.decode? e.2).isSome := by
  rw [decode?_map_entries, Option.isSome_map, Option.isSome_mapM_iff]
  simp only [isSome_entryData?]

/-- The last thing that passes, told by what stands behind it. -/
theorem getLast?_filter_eq_some_iff {α : Type} {p : α → Bool} {as : List α} {a : α} :
    (as.filter p).getLast? = some a ↔
      ∃ front back, as = front ++ a :: back ∧ p a = true ∧ ∀ b ∈ back, p b = false := by
  rw [List.getLast?_eq_head?_reverse, ← List.filter_reverse, List.head?_filter,
    List.find?_eq_some_iff_append]
  constructor
  · rintro ⟨ha, back, front, heq, hback⟩
    refine ⟨front.reverse, back.reverse, ?_, ha, ?_⟩
    · rw [← List.reverse_inj]
      simpa using heq
    · simpa using hback
  · rintro ⟨front, back, rfl, ha, hback⟩
    exact ⟨ha, back.reverse, front.reverse, by simp, by simpa using hback⟩

section
variable {all : List (Data × Data)} (hk : k.Total) (hall : es.mapM (entryData? k v) = some all)
include hall

theorem hasType_of_mem_entries : ∀ f ∈ all, f.1.HasType k :=
  Option.forall_mem_of_mapM hall fun _ _ he =>
    hasType_of_decode? k (entryData?_eq_some_iff.mp he).1

include hk

/-- What is gathered has the keys that are stored. -/
theorem mem_keys_gathered (x : Data) : x ∈ (gathered Prod.fst all).map (·.1) ↔
    ∃ e ∈ es, k.decode? e.1 = some x := by
  have htype := hasType_of_mem_entries hall
  rw [List.mem_map]
  constructor
  · rintro ⟨f, hf, rfl⟩
    obtain ⟨e, he, hfe⟩ := (Option.mem_mapM_iff hall f).mp (mem_of_mem_gathered hf)
    exact ⟨e, he, (entryData?_eq_some_iff.mp hfe).1⟩
  · rintro ⟨e, he, hx⟩
    obtain ⟨f, hf, hfe⟩ := Option.exists_of_mem_mapM hall he
    obtain rfl : f.1 = x := Option.some.inj ((entryData?_eq_some_iff.mp hfe).1.symm.trans hx)
    obtain ⟨g, hg, heq⟩ := exists_mem_gathered Prod.fst hf
    have hsame := order_eq_eq_iff hk (htype f hf) (htype g (mem_of_mem_gathered hg))
    exact ⟨g, hg, (hsame.mp heq).symm⟩

/-- What is gathered are the last stored entries with their keys. -/
theorem mem_gathered_iff_last (f : Data × Data) : f ∈ gathered Prod.fst all ↔
    ∃ front e back, es = front ++ e :: back ∧ k.decode? e.1 = some f.1
      ∧ v.decode? e.2 = some f.2 ∧ ∀ e' ∈ back, k.decode? e'.1 ≠ some f.1 := by
  have htype := hasType_of_mem_entries hall
  rw [mem_gathered]
  constructor
  · rintro ⟨front, back, rfl, hback⟩
    obtain ⟨front', e, back', rfl, he, hrest⟩ := Option.append_cons_of_mapM hall
    obtain ⟨hkey, hvalue⟩ := entryData?_eq_some_iff.mp he
    refine ⟨front', e, back', rfl, hkey, hvalue, fun e' he' hkey' => ?_⟩
    obtain ⟨g, hg, hge'⟩ := Option.exists_of_mem_mapM hrest he'
    have hsame : g.1 = f.1 := Option.some.inj ((entryData?_eq_some_iff.mp hge').1.symm.trans hkey')
    exact hback g hg (by rw [hsame, order_self])
  · rintro ⟨front, e, back, rfl, hkey, hvalue, hback⟩
    obtain ⟨front', g, back', rfl, hg, hrest⟩ := Option.mapM_append_cons hall
    obtain rfl : f = g :=
      Option.some.inj ((entryData?_eq_some_iff.mpr ⟨hkey, hvalue⟩).symm.trans hg)
    refine ⟨front', back', rfl, fun b hb heq => ?_⟩
    obtain ⟨e', he', hb'⟩ := (Option.mem_mapM_iff hrest b).mp hb
    have hf : f ∈ front' ++ f :: back' := List.mem_append_right _ List.mem_cons_self
    have hb : b ∈ front' ++ f :: back' := List.mem_append_right _ (List.mem_cons_of_mem f hb)
    have hsame : b.1 = f.1 := (order_eq_eq_iff hk (htype b hb) (htype f hf)).mp heq
    exact hback e' he' (hsame ▸ (entryData?_eq_some_iff.mp hb').1)

end

/-- What is read from entries, if all can be read, is their map. -/
theorem isMapOf_of_decode? (hk : k.Total) (h : (DataType.map k v).decode? (.map es) = some d) :
    ∃ fs, d = .map fs ∧ IsMapOf k v es fs := by
  rw [decode?_map_entries, Option.map_eq_some_iff] at h
  obtain ⟨all, hall, rfl⟩ := h
  rw [mapOf_eq_gathered]
  exact ⟨_, rfl, increasing_gathered Prod.fst all, mem_keys_gathered hk hall,
    mem_gathered_iff_last hk hall⟩

theorem sameKey_iff (hk : k.Total) {e f : Value × Value} {x : Data}
    (he : k.decode? e.1 = some x) : sameKey k e f = true ↔ k.decode? f.1 = some x := by
  rw [sameKey, he]
  cases hf : k.decode? f.1 with
  | none => simp
  | some y =>
    have hsame := order_eq_eq_iff hk (hasType_of_decode? k he) (hasType_of_decode? k hf)
    rw [beq_iff_eq, hsame, Option.some.injEq, eq_comm]

theorem Reordered.symm (h : Reordered k es fs) : Reordered k fs es where
  perm := h.perm.symm
  stable e he := (h.stable e (h.perm.mem_iff.mpr he)).symm

/-- The last entry with a key stays the last one with it. -/
theorem Reordered.last (hk : k.Total) (h : Reordered k es fs) {front back : List (Value × Value)}
    {e : Value × Value} {x : Data} (hes : es = front ++ e :: back) (he : k.decode? e.1 = some x)
    (hback : ∀ e' ∈ back, k.decode? e'.1 ≠ some x) :
    ∃ front' back', fs = front' ++ e :: back' ∧ ∀ e' ∈ back', k.decode? e'.1 ≠ some x := by
  have hlast : (es.filter (sameKey k e)).getLast? = some e := by
    refine getLast?_filter_eq_some_iff.mpr ⟨front, back, hes, (sameKey_iff hk he).mpr he, ?_⟩
    exact fun b hb => Bool.eq_false_iff.mpr fun hsame => hback b hb ((sameKey_iff hk he).mp hsame)
  have hmem : e ∈ es := hes ▸ List.mem_append_right front List.mem_cons_self
  rw [h.stable e hmem] at hlast
  obtain ⟨front', back', heq, -, hback'⟩ := getLast?_filter_eq_some_iff.mp hlast
  refine ⟨front', back', heq, fun b hb hkey => ?_⟩
  have hsame := (sameKey_iff hk he).mpr hkey
  rw [hback' b hb] at hsame
  cases hsame

/-- Entries in another order, in which those with one key keep theirs, hold the same map. -/
theorem decode?_map_of_reordered (hk : k.Total) (h : Reordered k es fs) :
    (DataType.map k v).decode? (.map es) = (DataType.map k v).decode? (.map fs) := by
  refine Option.eq_of_isSome_iff ?_ fun a b ha hb => ?_
  · simp only [isSome_decode?_map, h.perm.mem_iff]
  · obtain ⟨as, rfl, has⟩ := isMapOf_of_decode? hk ha
    obtain ⟨bs, rfl, hbs⟩ := isMapOf_of_decode? hk hb
    rw [eq_of_increasing Prod.fst has.increasing hbs.increasing fun f => ?_]
    rw [has.mem_iff, hbs.mem_iff]
    constructor
    · rintro ⟨front, e, back, hes, hkey, hvalue, hback⟩
      obtain ⟨front', back', hfs, hback'⟩ := h.last hk hes hkey hback
      exact ⟨front', e, back', hfs, hkey, hvalue, hback'⟩
    · rintro ⟨front, e, back, hfs, hkey, hvalue, hback⟩
      obtain ⟨front', back', hes, hback'⟩ := h.symm.last hk hfs hkey hback
      exact ⟨front', e, back', hes, hkey, hvalue, hback'⟩

end Maps

/-! ## 4. Collections inside collections -/

/-- **Stored values that hold the same** for a type: the cells of a set, or the entries of a map,
are there in another way, possibly deep inside. -/
inductive Rearranged : DataType → Value → Value → Prop
  | refl (t : DataType) (v : Value) : Rearranged t v v
  | symm {t : DataType} {v w : Value} (h : Rearranged t v w) : Rearranged t w v
  | trans {t : DataType} {u v w : Value} (h : Rearranged t u v) (h' : Rearranged t v w) :
    Rearranged t u w
  /-- A row of cells is taken for a set. -/
  | tag (t : DataType) (vs : List Value) : Rearranged (.set t) (.list vs) (.set vs)
  | cells {t : DataType} (ht : t.Total) {vs ws : List Value} (h : ∀ v, v ∈ vs ↔ v ∈ ws) :
    Rearranged (.set t) (.set vs) (.set ws)
  | entries {k : DataType} (hk : k.Total) (v : DataType) {es fs : List (Value × Value)}
    (h : Reordered k es fs) : Rearranged (.map k v) (.map es) (.map fs)
  | inOption {t : DataType} {v w : Value} (h : Rearranged t v w) : Rearranged (.option t) v w
  | inList {t : DataType} {vs ws : List Value} (hlength : vs.length = ws.length)
    (h : ∀ p ∈ vs.zip ws, Rearranged t p.1 p.2) : Rearranged (.list t) (.list vs) (.list ws)
  | inSet {t : DataType} {vs ws : List Value} (hlength : vs.length = ws.length)
    (h : ∀ p ∈ vs.zip ws, Rearranged t p.1 p.2) : Rearranged (.set t) (.set vs) (.set ws)
  | inMap {k v : DataType} {es fs : List (Value × Value)} (hlength : es.length = fs.length)
    (hk : ∀ p ∈ es.zip fs, Rearranged k p.1.1 p.2.1)
    (hv : ∀ p ∈ es.zip fs, Rearranged v p.1.2 p.2.2) : Rearranged (.map k v) (.map es) (.map fs)
  | inTuple {ts : List DataType} {vs ws : List Value} (hlength : vs.length = ws.length)
    (h : ∀ p ∈ ts.zip (vs.zip ws), Rearranged p.1 p.2.1 p.2.2) :
    Rearranged (.tuple ts) (.tuple vs) (.tuple ws)
  /-- The fields keep their names. -/
  | inRecord {name : String} {fs : List (String × DataType)} {vs ws : List (String × Value)}
    (hnames : vs.map (·.1) = ws.map (·.1))
    (h : ∀ f ∈ fs, ∀ p ∈ vs.zip ws, p.1.1 = f.1 → Rearranged f.2 p.1.2 p.2.2) :
    Rearranged (.record name fs) (.udt vs) (.udt ws)

namespace Rearranged

variable {t : DataType} {v w : Value}

theorem eq_null_iff (h : Rearranged t v w) : v = .null ↔ w = .null := by
  induction h with
  | refl => rfl
  | symm _ ih => exact ih.symm
  | trans _ _ ih ih' => exact ih.trans ih'
  | inOption _ ih => exact ih
  | _ => simp

/-- Rows of which two steps see the same, place by place. -/
theorem mapM_eq_mapM {α β : Type} {f : α → Option β} : ∀ {as bs : List α},
    as.length = bs.length → (∀ p ∈ as.zip bs, f p.1 = f p.2) → as.mapM f = bs.mapM f
  | [], [], _, _ => rfl
  | a :: as, b :: bs, hlength, h => by
    rw [List.zip_cons_cons, List.forall_mem_cons] at h
    rw [List.mapM_cons, List.mapM_cons, h.1, mapM_eq_mapM (Nat.succ.inj hlength) h.2]

theorem decodeTuple?_eq : ∀ {ts : List DataType} {vs ws : List Value}, vs.length = ws.length →
    (∀ p ∈ ts.zip (vs.zip ws), p.1.decode? p.2.1 = p.1.decode? p.2.2) →
      decodeTuple? ts vs = decodeTuple? ts ws
  | _, [], [], _, _ => rfl
  | [], _ :: _, _ :: _, _, _ => by simp only [decodeTuple?]
  | t :: ts, v :: vs, w :: ws, hlength, h => by
    rw [List.zip_cons_cons, List.zip_cons_cons, List.forall_mem_cons] at h
    rw [decodeTuple?, decodeTuple?, h.1, decodeTuple?_eq (Nat.succ.inj hlength) h.2]

/-- A field is found in both, or in neither. -/
theorem field?_bind_eq {n : String} {g : Value → Option Data} :
    ∀ {vs ws : List (String × Value)}, vs.map (·.1) = ws.map (·.1) →
      (∀ p ∈ vs.zip ws, p.1.1 = n → g p.1.2 = g p.2.2) →
        ((Value.udt vs).field? n).bind g = ((Value.udt ws).field? n).bind g
  | [], [], _, _ => rfl
  | (m, v) :: vs, (l, w) :: ws, hnames, h => by
    rw [List.map_cons, List.map_cons, List.cons.injEq] at hnames
    obtain ⟨rfl : m = l, hnames⟩ := hnames
    rw [List.zip_cons_cons, List.forall_mem_cons] at h
    by_cases hn : n = m
    · subst hn
      simpa [Value.field?] using h.1 rfl
    · have ih := field?_bind_eq hnames h.2
      simpa [Value.field?, List.lookup_cons, beq_eq_false_iff_ne.mpr hn] using ih

theorem decodeFields?_eq {vs ws : List (String × Value)} (hnames : vs.map (·.1) = ws.map (·.1)) :
    ∀ {fs : List (String × DataType)},
      (∀ f ∈ fs, ∀ p ∈ vs.zip ws, p.1.1 = f.1 → f.2.decode? p.1.2 = f.2.decode? p.2.2) →
        decodeFields? fs (.udt vs) = decodeFields? fs (.udt ws)
  | [], _ => by simp only [decodeFields?]
  | (n, t) :: fs, h => by
    rw [List.forall_mem_cons] at h
    rw [decodeFields?, decodeFields?, field?_bind_eq hnames h.1, decodeFields?_eq hnames h.2]

/-- **What is read does not depend on how it was arranged**, at any depth. -/
theorem decode?_eq (h : Rearranged t v w) : t.decode? v = t.decode? w := by
  induction h with
  | refl => rfl
  | symm _ ih => exact ih.symm
  | trans _ _ ih ih' => exact ih.trans ih'
  | tag => simp only [decode?]
  | cells ht h => exact decode?_set_of_mem_iff ht h
  | entries hk _ h => exact decode?_map_of_reordered hk h
  | @inOption t v w h ih =>
    by_cases hnull : v = .null
    · rw [hnull, h.eq_null_iff.mp hnull]
    · rw [decode?_option hnull, decode?_option (mt h.eq_null_iff.mpr hnull), ih]
  | inList hlength _ ih => rw [decode?, decode?, mapM_eq_mapM hlength ih]
  | inSet hlength _ ih => rw [decode?, decode?, mapM_eq_mapM hlength ih]
  | inMap hlength _ _ ihk ihv =>
    rw [decode?_map_entries, decode?_map_entries, mapM_eq_mapM hlength]
    intro p hp
    rw [entryData?, entryData?, ihk p hp, ihv p hp]
  | inTuple hlength _ ih => rw [decode?, decode?, decodeTuple?_eq hlength ih]
  | inRecord hnames _ ih => rw [decode?, decode?, decodeFields?_eq hnames ih]

end Rearranged

/-! ## 5. The normal form -/

/-- **Reading a collection puts it into its normal form.**  Of a set it takes that all cells can be
read; then it is what they hold, each element once and in increasing order, however often and in
whatever order they are there and whichever way they are tagged.  Of a map it takes that all keys
and values can be read; then it has every key once and in increasing order, with the value of the
last entry that has it, and entries with different keys may change places.  Collections inside
others, to any depth, are read in the same way, so what is read is in its normal form throughout,
and is what will be read after it was stored again. -/
theorem decoding_normalises {e k v t : DataType} (he : e.Total) (hk : k.Total) :
    (∀ vs : List Value,
      (DataType.set e).decode? (.list vs) = (DataType.set e).decode? (.set vs)
      ∧ (((DataType.set e).decode? (.set vs)).isSome ↔ ∀ c ∈ vs, (e.decode? c).isSome)
      ∧ (∀ ws : List Value, (∀ c, c ∈ vs ↔ c ∈ ws) →
        (DataType.set e).decode? (.set vs) = (DataType.set e).decode? (.set ws))
      ∧ ∀ d, (DataType.set e).decode? (.set vs) = some d →
        ∃ ds, d = .set ds ∧ IsSetOf e vs ds ∧ d.encode = .set (ds.map encode))
    ∧ (∀ es : List (Value × Value),
      (((DataType.map k v).decode? (.map es)).isSome ↔
        ∀ c ∈ es, (k.decode? c.1).isSome ∧ (v.decode? c.2).isSome)
      ∧ (∀ fs : List (Value × Value), Reordered k es fs →
        (DataType.map k v).decode? (.map es) = (DataType.map k v).decode? (.map fs))
      ∧ ∀ d, (DataType.map k v).decode? (.map es) = some d →
        ∃ fs, d = .map fs ∧ IsMapOf k v es fs
          ∧ d.encode = .map (fs.map fun f => (f.1.encode, f.2.encode)))
    ∧ (∀ w w' : Value, Rearranged t w w' → t.decode? w = t.decode? w')
    ∧ ∀ (w : Value) (d : Data), t.decode? w = some d →
      d.HasType t ∧ (t.WellMade → t.decode? d.encode = some d) := by
  refine ⟨fun vs => ⟨?_, isSome_decode?_set, fun ws => decode?_set_of_mem_iff he, fun d hd => ?_⟩,
    fun es => ⟨isSome_decode?_map, fun fs => decode?_map_of_reordered hk, fun d hd => ?_⟩,
    fun w w' h => h.decode?_eq, fun w d hd => ?_⟩
  · exact (Rearranged.tag e vs).decode?_eq
  · obtain ⟨ds, rfl, hds⟩ := isSetOf_of_decode? he hd
    exact ⟨ds, rfl, hds, by rw [encode, encodeItems_eq_map]⟩
  · obtain ⟨fs, rfl, hfs⟩ := isMapOf_of_decode? hk hd
    exact ⟨fs, rfl, hfs, by rw [encode, encodeEntries_eq_map]⟩
  · have htype := hasType_of_decode? t hd
    exact ⟨htype, fun hmade => decode?_encode hmade htype⟩

/-- Which chapters each circle of readers has read, where it is told at all. -/
def circlesType : DataType := .map (.set .text) (.set (.option .int))

theorem decoding_normalises_circles :
    (DataType.option .int).Total ∧ (DataType.set .text).Total
    ∧ circlesType.decode?
        (.map [(.set [.text "b", .text "a"], .set [.int 1]), (.set [.text "c"], .set []),
          (.list [.text "a", .text "b", .text "a"], .list [.int 2, .null, .int 2])])
      = circlesType.decode?
        (.map [(.set [.text "c"], .set []), (.set [.text "a", .text "b"], .set [.int 1]),
          (.set [.text "a", .text "b"], .set [.null, .int 2])])
    ∧ circlesType.decode?
        (.map [(.set [.text "c"], .set []), (.set [.text "a", .text "b"], .set [.int 1]),
          (.set [.text "a", .text "b"], .set [.null, .int 2])])
      = some (.map [(.set [.text "a", .text "b"], .set [.absent, .present (.int 2)]),
          (.set [.text "c"], .set [])]) := by
  have he : (DataType.option .int).Total := .option (.scalar rfl nofun nofun)
  have htext : DataType.text.Total := .scalar rfl nofun nofun
  have hk : (DataType.set .text).Total := .set htext
  have hcells : Rearranged circlesType
      (.map [(.set [.text "b", .text "a"], .set [.int 1]), (.set [.text "c"], .set []),
        (.list [.text "a", .text "b", .text "a"], .list [.int 2, .null, .int 2])])
      (.map [(.set [.text "a", .text "b"], .set [.int 1]), (.set [.text "c"], .set []),
        (.set [.text "a", .text "b"], .set [.null, .int 2])]) := by
    refine .inMap rfl ?_ ?_ <;> simp only [List.zip_cons_cons, List.zip_nil_left] <;>
      rw [List.forall_mem_cons, List.forall_mem_cons, List.forall_mem_singleton]
    · exact ⟨.cells htext (by simp [or_comm]), .refl _ _,
        .trans (.tag _ _) (.cells htext (by grind))⟩
    · exact ⟨.refl _ _, .refl _ _, .trans (.tag _ _) (.cells he (by simp [or_comm]))⟩
  have hentries : Rearranged circlesType
      (.map [(.set [.text "a", .text "b"], .set [.int 1]), (.set [.text "c"], .set []),
        (.set [.text "a", .text "b"], .set [.null, .int 2])])
      (.map [(.set [.text "c"], .set []), (.set [.text "a", .text "b"], .set [.int 1]),
        (.set [.text "a", .text "b"], .set [.null, .int 2])]) := by
    refine .entries hk _ ⟨.swap _ _ _, ?_⟩
    rw [List.forall_mem_cons, List.forall_mem_cons, List.forall_mem_singleton]
    exact ⟨by cbv, by cbv, by cbv⟩
  exact ⟨he, hk, (decoding_normalises (v := .set (.option .int)) he hk).2.2.1 _ _
    (hcells.trans hentries), by cbv⟩

end WideColumn
