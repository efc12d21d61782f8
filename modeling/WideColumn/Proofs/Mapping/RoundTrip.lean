/-
# A record is read back from the row that holds it

Writing a record gives pairs of a column and a value; reading looks each column up in a row that
the store returned.  Between the two the store may do a good deal: it drops the quotes around a
name and folds its case, returns cells in an order of its own, adds cells that were never asked
for, and need not return a cell that is null.

* `Row.Holds` says what such a row is, for the pairs of a record.
* `Codec.Keeps` is what is asked of a codec: what it writes for a source is read as that source.
  It is asked for the sources of the record at hand only; a codec that takes data of any type,
  as the built-in one does, keeps those of its own type and no others.

A missing cell and a null read alike, so all that counts for a column is the value that the row has
for it, or else null.  `Row.Holds.getD_null` finds that value, `Column.read_of_write` shows that
the slot comes back from it, and `Record.ofRow_of_encodeColumns` goes through the columns.
-/
import Mathlib.Data.List.Forall2
import Mathlib.Data.List.Nodup
import WideColumn.Mapping
import WideColumn.Proofs.Codec
import WideColumn.Proofs.Data.RoundTrip
import WideColumn.Proofs.Except
import WideColumn.Proofs.Row

namespace WideColumn

/-! ## 1. Codecs that keep their sources -/

/-- **A codec keeps a source**: what it writes for it, if anything, is read as the source. -/
def Codec.Keeps {α : Type} (codec : Codec α) (a : α) : Prop :=
  ∀ v, codec.encode a = .ok v → codec.decode v = .ok a

/-- The codec of a column keeps what a record has there; where the field may be absent, what is
there is never written as absence. -/
def Column.Keeps (c : Column) (slot : c.Slot) : Prop :=
  ∀ a, c.source? slot = some a →
    c.codec.Keeps a ∧ (c.optional = true → c.codec.encode a ≠ .ok .null)

/-- The codecs of the columns keep a record. -/
def Record.Kept : (cs : List Column) → Record cs → Prop
  | [], _ => True
  | c :: cs, (slot, rest) => c.Keeps slot ∧ Record.Kept cs rest

namespace Codec

/-- The built-in codec keeps the data of its type. -/
theorem native_keeps {t : DataType} {d : Data} (ht : t.WellMade) (hd : d.HasType t) :
    (native t).Keeps d := by
  intro v hv
  cases hv
  simp only [native, decode?_encode ht hd]

/-- The place of a variant leads back to the variant. -/
theorem enumOrdinal_keeps (e : Enumeration) (v : e.Variant) : (enumOrdinal e).Keeps v := by
  intro stored hstored
  simp only [enumOrdinal, byOrdinal] at hstored
  split at hstored
  case isFalse => cases hstored
  case isTrue hsmall =>
    cases hstored
    exact byOrdinal_decode (List.mem_finRange v) hsmall

end Codec

/-- The built-in codec keeps what a field of its type may hold, unless the type itself has absent
data beside the field's own. -/
theorem Column.native_keeps {field : String} {about : ColumnMeta} {optional : Bool} {t : DataType}
    {slot : Column.Slot ⟨field, about, optional, Data, .native t⟩} (ht : t.WellMade)
    (hd : ∀ d, Column.source? _ slot = some d → d.HasType t)
    (hplain : optional = true → t.isOption = false) : Column.Keeps _ slot :=
  fun d hslot => ⟨Codec.native_keeps ht (hd d hslot),
    fun hoptional hnull => (hd d hslot).encode_ne_null (hplain hoptional) (Except.ok.inj hnull)⟩

/-! ## 2. What a row holds -/

/-- Of two lists that are related pointwise, a member of the second has a partner in the first. -/
theorem exists_left_of_forall₂ {α β : Type} {R : α → β → Prop} {as : List α} {bs : List β}
    (h : List.Forall₂ R as bs) : ∀ b ∈ bs, ∃ a ∈ as, R a b := by
  induction h with
  | nil => simp
  | cons hab _ ih =>
    rw [List.forall_mem_cons]
    refine ⟨⟨_, List.mem_cons_self, hab⟩, fun b hb => ?_⟩
    obtain ⟨a, ha, hR⟩ := ih b hb
    exact ⟨a, List.mem_cons_of_mem _ ha, hR⟩

namespace Row

/-- **A row holds pairs** of some columns: there is a cell for each pair, under the name of its
column without quotes and in any case of ASCII letters, but nulls may be left out; the names of the
other cells stand for none of the columns; and the cells stand in any order. -/
def Holds (row : Row) (columns : List String) (pairs : List (String × Value)) : Prop :=
  ∃ kept cells others : List (String × Value),
    kept.Sublist pairs ∧ (∀ p ∈ pairs, p ∉ kept → p.2 = .null)
      ∧ List.Forall₂ (fun p cell => StandsFor cell.1 p.1 ∧ cell.2 = p.2) kept cells
      ∧ (∀ cell ∈ others, ∀ column ∈ columns, ¬StandsFor cell.1 column)
      ∧ row.cells.Perm (cells ++ others)

/-- **Each column has the value of its pair**, or no cell at all where that is null. -/
theorem Holds.getD_null {row : Row} {columns : List String} {pairs : List (String × Value)}
    (h : row.Holds columns pairs) (hcolumns : pairs.map (·.1) = columns)
    (hnames : (columns.map lookupName).Nodup) :
    ∀ p ∈ pairs, (row.get? p.1).getD .null = p.2 := by
  obtain ⟨kept, cells, others, hkept, hnull, hcells, hothers, hperm⟩ := h
  subst hcolumns
  rw [List.map_map] at hnames
  intro p hp
  -- whatever matches the column of `p` is the cell of `p` itself
  have hown : ∀ cell ∈ row.cells, matchesColumn p.1 cell = true → p ∈ kept ∧ cell.2 = p.2 := by
    intro cell hcell hmatch
    rcases List.mem_append.mp (hperm.mem_iff.mp hcell) with hcell | hcell
    · obtain ⟨q, hq, hqmatch, hv⟩ := exists_left_of_forall₂ hcells cell hcell
      rw [← matchesColumn_iff_standsFor, matchesColumn_iff] at hqmatch
      rw [matchesColumn_iff] at hmatch
      have hpq : q = p := List.inj_on_of_nodup_map hnames (hkept.subset hq) hp
        (hqmatch.symm.trans hmatch)
      exact ⟨hpq ▸ hq, hpq ▸ hv⟩
    · exact absurd (matchesColumn_iff_standsFor.mp hmatch)
        (hothers cell hcell p.1 (List.mem_map_of_mem hp))
  by_cases hkeep : p ∈ kept
  · obtain ⟨cell, hcell, hmatch, hv⟩ := exists_left_of_forall₂ hcells.flip p hkeep
    have hmem : cell ∈ row.cells := hperm.mem_iff.mpr (List.mem_append_left _ hcell)
    have honly : ∀ other ∈ row.cells, matchesColumn p.1 other = true → other.2 = cell.2 :=
      fun other hother hmatch' => by rw [(hown other hother hmatch').2, hv]
    rw [get?_eq_some_of_mem hmem (matchesColumn_iff_standsFor.mpr hmatch) honly,
      Option.getD_some, hv]
  · have hnone : row.get? p.1 = none :=
      get?_eq_none_iff.mpr fun cell hcell hmatch => hkeep (hown cell hcell hmatch).1
    rw [hnone, Option.getD_none, hnull p hp hkeep]

/-- Reading a column that may be absent asks for the value or null, and for no more. -/
theorem decodeOptional_eq {α : Type} (row : Row) (column : String) (codec : Codec α) :
    row.decodeOptional column codec =
      match (row.get? column).getD .null with
      | .null => .ok none
      | v => ((codec.decode v).map some).mapError (.columnCodec column) := by
  unfold decodeOptional
  cases row.get? column with
  | none => rfl
  | some v => cases v <;> rfl

end Row

/-! ## 3. Slots and records -/

theorem encodeColumn_eq_ok_iff {α : Type} {codec : Codec α} {column : String} {a : α} {v : Value} :
    codec.encodeColumn column a = .ok v ↔ codec.encode a = .ok v := by
  unfold Codec.encodeColumn
  cases codec.encode a <;> simp

/-- **A slot is read back** from a row that has what was written for it. -/
theorem Column.read_of_write {c : Column} {slot : c.Slot} {v : Value} {row : Row}
    (hkeeps : c.Keeps slot) (hwrite : c.write slot = .ok v)
    (hcell : (row.get? c.about.name).getD .null = v) : c.read row = .ok slot := by
  obtain ⟨field, about, optional, source, codec⟩ := c
  cases optional with
  | false =>
    have hencode : codec.encode slot = .ok v := encodeColumn_eq_ok_iff.mp hwrite
    have hdecode : codec.decode v = .ok slot := (hkeeps slot rfl).1 v hencode
    change (row.decode about.name codec).map _ = _
    rw [Row.decode, hcell, hdecode]
    rfl
  | true =>
    change (row.decodeOptional about.name codec).map _ = _
    rw [Row.decodeOptional_eq, hcell]
    match slot with
    | none =>
      cases hwrite
      rfl
    | some a =>
      have hencode : codec.encode a = .ok v := encodeColumn_eq_ok_iff.mp hwrite
      have hdecode : codec.decode v = .ok a := (hkeeps a rfl).1 v hencode
      have hpresent : v ≠ .null := fun hv => (hkeeps a rfl).2 rfl (hv ▸ hencode)
      split
      · contradiction
      · rw [hdecode]
        rfl

/-- A pair is written for each writable column, in order. -/
theorem Record.names_of_encodeColumns : ∀ {cs : List Column} {r : Record cs}
    {pairs : List (String × Value)}, Record.encodeColumns cs r = .ok pairs →
      pairs.map (·.1) = (cs.filter (·.about.kind.isWritable)).map (·.about.name)
  | [], _, _, h => by cases h; rfl
  | c :: cs, (slot, rest), pairs, h => by
    rw [Record.encodeColumns] at h
    split at h
    · rename_i hwritable
      obtain ⟨v, -, h⟩ := Except.bind_eq_ok_iff.mp h
      obtain ⟨others, hothers, h⟩ := Except.bind_eq_ok_iff.mp h
      cases h
      rw [List.map_cons, names_of_encodeColumns hothers, List.filter_cons, if_pos hwritable,
        List.map_cons]
    · rename_i hwritable
      rw [names_of_encodeColumns h, List.filter_cons, if_neg hwritable]

/-- **A record is read back** from a row that has the value of each of its pairs. -/
theorem Record.ofRow_of_encodeColumns {row : Row} : ∀ {cs : List Column} {r : Record cs}
    {pairs : List (String × Value)}, (∀ c ∈ cs, c.about.kind.isWritable = true) → r.Kept cs →
      Record.encodeColumns cs r = .ok pairs →
      (∀ p ∈ pairs, (row.get? p.1).getD .null = p.2) → Record.ofRow cs row = .ok r
  | [], (), _, _, _, _, _ => rfl
  | c :: cs, (slot, rest), pairs, hkinds, hkept, h, hcells => by
    rw [List.forall_mem_cons] at hkinds
    rw [Record.encodeColumns, if_pos hkinds.1] at h
    obtain ⟨v, hv, h⟩ := Except.bind_eq_ok_iff.mp h
    obtain ⟨others, hothers, h⟩ := Except.bind_eq_ok_iff.mp h
    cases h
    rw [List.forall_mem_cons] at hcells
    rw [Record.ofRow, Column.read_of_write hkept.1 hv hcells.1,
      ofRow_of_encodeColumns hkinds.2 hkept.2 hothers hcells.2]
    rfl

/-- **Reading undoes writing.**  Take a mapping without computed or counter columns whose columns
keep apart without quotes and letter case, and a record that its codecs keep.  Every row that holds
the pairs written for the record is read as the record. -/
theorem Mapping.ofRow_of_holds {m : Mapping} {r : m.Record} {pairs : List (String × Value)}
    {row : Row} (hkinds : ∀ c ∈ m.columns, c.about.kind.isWritable = true)
    (hnames : m.columns.Pairwise fun c d => ¬AlikeColumns c.about.name d.about.name)
    (hkept : r.Kept m.columns) (hpairs : r.encodeColumns m.columns = .ok pairs)
    (hrow : row.Holds (m.columns.map (·.about.name)) pairs) : m.ofRow row = .ok r := by
  have hcolumns := Record.names_of_encodeColumns hpairs
  rw [List.filter_eq_self.mpr hkinds] at hcolumns
  refine Record.ofRow_of_encodeColumns hkinds hkept hpairs (hrow.getD_null hcolumns ?_)
  simp only [alikeColumns_iff] at hnames
  rwa [List.map_map, List.Nodup, List.pairwise_map]

/-- Ranks, from the lowest. -/
def ranks : Enumeration := ⟨"Rank", ["LOW", "HIGH"]⟩

/-- Players: a number as the key, a nickname, a rank and a team that may be absent, and scores. -/
def players : Mapping where
  keyspace := none
  table := "players"
  columns := [
    ⟨"id", ⟨"id", .partition, "bigint", "id"⟩, false, Data, .native .bigint⟩,
    ⟨"nick", ⟨"\"NickName\"", .regular, "text", "\"NickName\""⟩, true, Data, .native .text⟩,
    ⟨"rank", ⟨"rank", .regular, "int", "rank"⟩, true, ranks.Variant, .enumOrdinal ranks⟩,
    ⟨"team", ⟨"\"Team\"", .regular, "text", "\"Team\""⟩, true, Data, .native .text⟩,
    ⟨"scores", ⟨"scores", .regular, "set<int>", "scores"⟩, false, Data, .native (.set .int)⟩]

/-- A player of the upper rank, without a team. -/
def player : players.Record :=
  (Data.bigint 7, (some (.text "Ann") : Option Data),
    (some ⟨1, by decide⟩ : Option ranks.Variant), (none : Option Data),
    Data.set [.int 3, .int 5], ())

theorem player_kept : player.Kept players.columns := by
  have hscores : (Data.set [.int 3, .int 5]).HasType (.set .int) := by
    refine .set ?_ ?_
    · rw [List.forall_mem_cons, List.forall_mem_singleton]
      exact ⟨.int 3, .int 5⟩
    · simp [Data.order, Int.compare_eq_lt]
  have hrank := Codec.enumOrdinal_keeps ranks ⟨1, by decide⟩
  refine ⟨Column.native_keeps (.scalar rfl) ?_ nofun,
    Column.native_keeps (.scalar rfl) ?_ fun _ => rfl, ?_,
    Column.native_keeps (.scalar rfl) nofun fun _ => rfl,
    Column.native_keeps (.set (.scalar rfl)) ?_ nofun, trivial⟩
  · rintro _ ⟨⟩
    exact .bigint 7
  · rintro _ ⟨⟩
    exact .text "Ann"
  · rintro _ ⟨⟩
    exact ⟨hrank, fun _ => nofun⟩
  · rintro _ ⟨⟩
    exact hscores

/-- The cells of the player in an order of their own, the nickname without its quotes and in small
letters, without the team and with one cell more. -/
def playerRow : Row :=
  ⟨[("RANK", .int 1), ("nickname", .text "Ann"), ("Id", .bigint 7), ("ttl(rank)", .int 60),
    ("scores", .set [.int 3, .int 5])]⟩

theorem players_ofRow_playerRow : players.ofRow playerRow = .ok player := by
  have hpairs : player.encodeColumns players.columns = .ok [("id", .bigint 7),
      ("\"NickName\"", .text "Ann"), ("rank", .int 1), ("\"Team\"", .null),
      ("scores", .set [.int 3, .int 5])] := by
    rfl
  refine Mapping.ofRow_of_holds (by decide) (by decide) player_kept hpairs ?_
  refine ⟨[("id", .bigint 7), ("\"NickName\"", .text "Ann"), ("rank", .int 1),
      ("scores", .set [.int 3, .int 5])],
    [("Id", .bigint 7), ("nickname", .text "Ann"), ("RANK", .int 1),
      ("scores", .set [.int 3, .int 5])],
    [("ttl(rank)", .int 60)], ?_, ?_, ?_, by decide, ?_⟩
  · exact .cons_cons _ (.cons_cons _ (.cons_cons _ (.cons _ (.refl _))))
  · simp
  · exact .cons ⟨by decide, rfl⟩ (.cons ⟨by decide, rfl⟩ (.cons ⟨by decide, rfl⟩
      (.cons ⟨by decide, rfl⟩ .nil)))
  · exact .trans (.swap _ _ _) (.trans (.cons _ (.swap _ _ _)) (.trans (.swap _ _ _)
      (.cons _ (.cons _ (.cons _ (.swap _ _ _))))))

end WideColumn
