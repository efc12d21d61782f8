/-
# User-type fields under quoted names

A row looks its cells up without quotes and without regard to case.  A value of a user type is
looked up by the text of a column as it stands, quotes included, and what is not found reads as
null.  So a field whose column is between quotes is lost on a store that names fields without: most
types cannot be read from null, and a list, a set or a map is EMPTY without further notice.

A structure is read from such a value exactly where no column of its fields is changed by dropping
quotes (`unquoted_fields_found`).  Fields of a structure without fields of its own are the
exception: they are read from anything.  Of the columns that are derived from field names, those of
the case-sensitive naming are between quotes and no others are.
-/
import Mathlib.Data.List.DropRight
import WideColumn.Proofs.Schema.ColumnName
import WideColumn.Proofs.Schema.StatementNames
import WideColumn.Proofs.Schema.UsedTypes

namespace WideColumn

open WideColumn.Text

/-! ## 1. Names without quotes -/

theorem dropWhile_of_isPrefix {p : Char → Bool} {cs ds : List Char} (h : ds <+: cs.dropWhile p) :
    ds.dropWhile p = ds := by
  obtain ⟨rest, hrest⟩ := h
  cases ds with
  | nil => rfl
  | cons c ds =>
    have hkept := List.dropWhile_idempotent p cs
    rw [← hrest, List.dropWhile_eq_self_iff] at hkept
    exact List.dropWhile_eq_self_iff.mpr fun _ => hkept (Nat.succ_pos _)

/-- Dropping quotes twice is dropping them once. -/
theorem unquoted_unquoted (s : String) : unquoted (unquoted s) = unquoted s := by
  have hend := List.rdropWhile_idempotent (· == '"') (s.toList.dropWhile (· == '"'))
  have hbegin := List.rdropWhile_prefix (· == '"') (s.toList.dropWhile (· == '"'))
  have hstart := dropWhile_of_isPrefix hbegin
  simp only [List.rdropWhile] at hend hstart
  simp only [unquoted, String.toList_ofList, hstart, hend]

/-- **Only the case-sensitive naming puts columns between quotes.** -/
theorem unquoted_column_iff {name : String} (h : isSnakeCase name = true) (naming : Naming) :
    unquoted (naming.column name) = naming.column name ↔ naming ≠ .caseSensitive := by
  have hfree := not_mem_of_isSnakeCase h
  cases naming with
  | snakeCase =>
    rw [show Naming.snakeCase.column name = name from if_pos h, unquoted_of_not_mem hfree]
    simp
  | lowerCase =>
    rw [show Naming.lowerCase.column name = name from lowerAscii_of_isSnakeCase h,
      unquoted_of_not_mem hfree]
    simp
  | caseSensitive =>
    rw [show Naming.caseSensitive.column name = "\"" ++ name ++ "\"" from rfl,
      unquoted_quotes hfree]
    simp only [ne_eq, not_true_eq_false, iff_false]
    intro heq
    rw [heq, toList_quotes] at hfree
    exact hfree List.mem_cons_self

/-! ## 2. Fields found by name -/

section
variable {cells : List (String × Value)} {fs : List (String × DataType)}
  {ds : List (String × Data)}

/-- **The fields of a record are read one by one**, each from the cell found under its name. -/
theorem decodeFields?_udt_iff : DataType.decodeFields? fs (.udt cells) = some ds ↔
    ds.map (·.1) = fs.map (·.1) ∧ ∀ p ∈ ds.zip fs,
      p.2.2.decode? ((cells.lookup p.2.1).getD .null) = some p.1.2 := by
  induction fs generalizing ds with
  | nil => cases ds <;> simp [DataType.decodeFields?]
  | cons f fs ih =>
    obtain ⟨n, t⟩ := f
    simp only [DataType.decodeFields?, Value.field?, Option.bind_eq_bind, Option.bind_some,
      Option.bind_eq_some_iff, ih]
    cases ds with
    | nil => simp
    | cons d ds =>
      obtain ⟨m, d⟩ := d
      simp only [List.map_cons, List.zip_cons_cons, List.forall_mem_cons, List.cons.injEq]
      constructor
      · rintro ⟨d', hd, ds', ⟨hnames, hds⟩, heq⟩
        cases heq
        exact ⟨⟨rfl, hnames⟩, hd, hds⟩
      · rintro ⟨⟨rfl, hnames⟩, hd, hds⟩
        exact ⟨d, hd, ds, ⟨hnames, hds⟩, rfl⟩

/-- A record of any fields can hold given data in one of them. -/
theorem exists_record_holding (name : String) {f : String × DataType} (hf : f ∈ fs) {d : Data}
    (hd : d.HasType f.2) :
    ∃ ds, (Data.record ds).HasType (.record name fs) ∧ ((f.1, d), f) ∈ ds.zip fs := by
  obtain ⟨front, back, rfl⟩ := List.append_of_mem hf
  obtain ⟨before, hbefore, hfront⟩ := Data.exists_fields front
  obtain ⟨after, hafter, hback⟩ := Data.exists_fields back
  have hlength : before.length = front.length := by
    simpa using congrArg List.length hbefore
  have hzip : (before ++ (f.1, d) :: after).zip (front ++ f :: back) =
      before.zip front ++ ((f.1, d), f) :: after.zip back := by
    rw [List.zip_append hlength, List.zip_cons_cons]
  refine ⟨before ++ (f.1, d) :: after, .record ?_ ?_, ?_⟩
  · rw [List.map_append, List.map_append, List.map_cons, List.map_cons, hbefore, hafter]
  · rw [hzip, List.forall_mem_append, List.forall_mem_cons]
    exact ⟨hfront, hd, hback⟩
  · rw [hzip]
    exact List.mem_append_right _ List.mem_cons_self

end

/-! ## 3. Data that are not read from null -/

/-- **All data of a type are read back** from what is stored of them. -/
def DataType.ReadBack (t : DataType) : Prop := ∀ d : Data, d.HasType t → t.decode? d.encode = some d

theorem not_from_null_of_isScalar {t : DataType} (h : t.isScalar = true) :
    ∃ d : Data, d.HasType t ∧ t.decode? .null ≠ some d := by
  obtain ⟨d, hd⟩ := Data.exists_of_isScalar h
  refine ⟨d, hd, ?_⟩
  cases t <;> simp [DataType.isScalar, DataType.decode?] at h ⊢

/-- Every type but a structure without fields has data that is not read from null. -/
theorem exists_not_from_null : ∀ t : DataType,
    (∃ name, t = .record name []) ∨ ∃ d : Data, d.HasType t ∧ t.decode? .null ≠ some d
  | .option t => by
    obtain ⟨d, hd⟩ := Data.exists_hasType t
    exact .inr ⟨.present d, .present hd, by simp [DataType.decode?]⟩
  | .list t => by
    obtain ⟨d, hd⟩ := Data.exists_hasType t
    exact .inr ⟨.list [d], .list (List.forall_mem_singleton.mpr hd), by simp [DataType.decode?]⟩
  | .set t => by
    obtain ⟨d, hd⟩ := Data.exists_hasType t
    exact .inr ⟨.set [d], .set (List.forall_mem_singleton.mpr hd) (List.pairwise_singleton _ _),
      by simp [DataType.decode?]⟩
  | .map k v => by
    obtain ⟨dk, hk⟩ := Data.exists_hasType k
    obtain ⟨dv, hv⟩ := Data.exists_hasType v
    exact .inr ⟨.map [(dk, dv)], .map (List.forall_mem_singleton.mpr hk)
      (List.forall_mem_singleton.mpr hv) (List.pairwise_singleton _ _), by simp [DataType.decode?]⟩
  | .record name [] => .inl ⟨name, rfl⟩
  | .record name (f :: fs) => by
    obtain ⟨d, hd⟩ := Data.exists_hasType (.record name (f :: fs))
    exact .inr ⟨d, hd, by simp [DataType.decode?, DataType.decodeFields?, Value.field?]⟩
  | .tuple ts => by
    obtain ⟨d, hd⟩ := Data.exists_hasType (.tuple ts)
    exact .inr ⟨d, hd, by simp [DataType.decode?]⟩
  | .text | .boolean | .tinyint | .smallint | .int | .bigint | .float | .double | .blob | .uuid
  | .timestamp | .date | .time | .inet => .inr (not_from_null_of_isScalar rfl)

/-! ## 4. Records under names without quotes -/

/-- **A structure is read under names without quotes**: from the cells of its fields, in any
order, as a store gives them that drops the quotes of their names. -/
def DataType.ReadUnquoted (name : String) (fs : List (String × DataType)) : Prop :=
  ∀ ds : List (String × Data), (Data.record ds).HasType (.record name fs) →
    ∀ cells : List (String × Value),
      cells.Perm (ds.map fun d => (unquoted d.1, d.2.encode)) →
        (DataType.record name fs).decode? (.udt cells) = some (.record ds)

section
variable {name : String} {fs : List (String × DataType)}

/-- A structure is read under names without quotes where its own names have none. -/
theorem readUnquoted_of_plain (hnames : (fs.map (·.1)).Nodup)
    (h : ∀ f ∈ fs, unquoted f.1 = f.1 ∧ f.2.ReadBack) : DataType.ReadUnquoted name fs := by
  rintro ds hds cells hcells
  obtain ⟨hds, htypes⟩ : ds.map (·.1) = fs.map (·.1) ∧ ∀ p ∈ ds.zip fs, p.1.2.HasType p.2.2 := by
    cases hds with
    | record hds htypes => exact ⟨hds, htypes⟩
  have hplain : ds.map (fun d => (unquoted d.1, d.2.encode)) =
      ds.map fun d => (d.1, d.2.encode) := by
    refine List.map_congr_left fun d hd => ?_
    obtain ⟨f, hf, heq⟩ := List.mem_map.mp (hds ▸ List.mem_map_of_mem hd)
    rw [← heq, (h f hf).1]
  rw [hplain] at hcells
  have hcellNames : (cells.map (·.1)).Nodup := by
    rw [(hcells.map (·.1)).nodup_iff, List.map_map]
    exact hds ▸ hnames
  rw [DataType.decode?, Data.decodeFields?_of_lookup hds, Option.map_some]
  · exact fun d hd => Data.lookup_of_mem hcellNames (hcells.mem_iff.mpr (List.mem_map_of_mem hd))
  · exact fun p hp => (h p.2 (List.of_mem_zip hp).2).2 p.1.2 (htypes p hp)

/-- What is read of a record is read of each field. -/
theorem decode?_of_mem {cells : List (String × Value)} {ds : List (String × Data)}
    (h : (DataType.record name fs).decode? (.udt cells) = some (.record ds))
    {p : (String × Data) × (String × DataType)} (hp : p ∈ ds.zip fs) :
    p.2.2.decode? ((cells.lookup p.2.1).getD .null) = some p.1.2 := by
  rw [DataType.decode?, Option.map_eq_some_iff] at h
  obtain ⟨ds', hread, heq⟩ := h
  cases heq
  exact (decodeFields?_udt_iff.mp hread).2 p hp

/-- **A structure that is read under names without quotes has none in its own**, apart from the
names of fields that are read from anything. -/
theorem plain_of_readUnquoted (h : DataType.ReadUnquoted name fs) :
    ∀ f ∈ fs, (∃ n, f.2 = .record n []) ∨ unquoted f.1 = f.1 ∧ f.2.ReadBack := by
  intro f hf
  rcases exists_not_from_null f.2 with hempty | ⟨d, hd, hnull⟩
  · exact .inl hempty
  have hplain : unquoted f.1 = f.1 := by
    by_contra hquoted
    obtain ⟨ds, hds, hmem⟩ := exists_record_holding name hf hd
    have hread := decode?_of_mem (h ds hds _ (.refl _)) hmem
    have hmissing : (ds.map fun d => (unquoted d.1, d.2.encode)).lookup f.1 = none := by
      refine List.lookup_eq_none_iff.mpr fun c hc => ?_
      obtain ⟨d, -, rfl⟩ := List.mem_map.mp hc
      exact bne_iff_ne.mpr fun heq => hquoted (heq ▸ unquoted_unquoted d.1)
    rw [hmissing] at hread
    exact hnull hread
  refine .inr ⟨hplain, fun d hd => ?_⟩
  obtain ⟨ds, hds, hmem⟩ := exists_record_holding name hf hd
  obtain ⟨front, back, rfl⟩ := List.append_of_mem (List.of_mem_zip hmem).1
  -- the cell of the field comes first, so that no other is taken for it
  have hread := decode?_of_mem (h _ hds ((unquoted f.1, d.encode) :: (front ++ back).map
    fun d => (unquoted d.1, d.2.encode)) (by
      rw [List.map_append, List.map_append, List.map_cons]
      exact List.perm_middle.symm)) hmem
  rwa [hplain, List.lookup_cons_self, Option.getD_some] at hread

/-- A structure with a field under a name with quotes is not read under names without. -/
theorem not_readUnquoted {f : String × DataType} (hf : f ∈ fs) (hsome : ∀ n, f.2 ≠ .record n [])
    (hquoted : unquoted f.1 ≠ f.1) : ¬DataType.ReadUnquoted name fs := by
  intro h
  rcases plain_of_readUnquoted h f hf with ⟨n, hempty⟩ | ⟨hplain, -⟩
  · exact hsome n hempty
  · exact hquoted hplain

end

/-! ## 5. User types -/

namespace Schema

/-- **Which user types are read under names without quotes.**  In an accepted batch every user type
has a structure with its columns for names.  Where these differ from each other, the structure is
read from the cells of its fields in any order, their names without quotes, if no column has quotes
to drop and all fields are read back.  Where it is read so, no column has, except those of fields
that are read from anything.  Fields are read back where no user type has two of one column, and a
derived column has quotes exactly under the case-sensitive naming. -/
theorem unquoted_fields_found {d : Declaration} {registry : Registry} {defaults : Defaults}
    {s : Schema} (h : load d registry defaults = .ok s) (module : String) {u : UserType}
    (hu : u ∈ s.userTypes) (hcolumns : (u.fields.map (·.column)).Nodup) :
    ∃ fs, u.dataType? s module = some (.record (module ++ "::" ++ u.name) fs)
      ∧ fs.map (·.1) = u.fields.map (·.column)
      ∧ ((∀ f ∈ fs, unquoted f.1 = f.1 ∧ f.2.ReadBack) →
        DataType.ReadUnquoted (module ++ "::" ++ u.name) fs)
      ∧ (DataType.ReadUnquoted (module ++ "::" ++ u.name) fs →
        ∀ f ∈ fs, (∃ n, f.2 = .record n []) ∨ unquoted f.1 = f.1 ∧ f.2.ReadBack)
      ∧ ((∀ w ∈ s.userTypes, (w.fields.map (·.column)).Nodup) → ∀ f ∈ fs, f.2.ReadBack)
      ∧ ∀ f ∈ u.fields, f.column = defaults.naming.column f.name →
        (unquoted f.column = f.column ↔ defaults.naming ≠ .caseSensitive) := by
  obtain ⟨fs, htype, hnames⟩ := exists_record_of_load h module hu
  refine ⟨fs, htype, hnames, readUnquoted_of_plain (hnames ▸ hcolumns), plain_of_readUnquoted,
    ?_, ?_⟩
  · intro hall f hf d hd
    exact decode?_encode (forall_wellMade_of_dataType? hall htype f hf) hd
  · intro f hf hderived
    rw [hderived]
    exact unquoted_column_iff (isSnakeCase_of_userType h hu hf) defaults.naming

/-- An address, and a basket that holds the codes of what is in it. -/
def orderTypes : Declaration where
  userTypes := [
    { name := "Address", fields := [⟨"street", "text", none⟩, ⟨"zip", "text", none⟩] },
    { name := "Basket", fields := [⟨"codes", "frozen<list<int>>", none⟩] }]

theorem unquoted_fields_found_address :
    ∃ s address basket fs, load orderTypes {} {} = .ok s ∧ s.userTypes = [address, basket]
      ∧ (address.fields.map (·.column)).Nodup
      ∧ address.dataType? s "shop" = some (.record ("shop" ++ "::" ++ address.name) fs)
      ∧ fs.map (·.1) = ["street", "zip"]
      ∧ DataType.ReadUnquoted ("shop" ++ "::" ++ address.name) fs := by
  have hready : ((load orderTypes {} {}).toOption.map fun s =>
      s.userTypes.map fun u => u.fields.map (·.column)) = some [["street", "zip"], ["codes"]] := by
    decide +kernel
  obtain ⟨s, hload, htypes⟩ := Option.map_eq_some_iff.mp hready
  rw [Except.toOption_eq_some_iff] at hload
  obtain ⟨address, _, htypes, haddress, hrest⟩ := List.map_eq_cons_iff.mp htypes
  obtain ⟨basket, rfl, hbasket⟩ := List.map_eq_singleton_iff.mp hrest
  have hnames : (address.fields.map (·.column)).Nodup := by
    rw [haddress]
    decide
  obtain ⟨fs, htype, hcolumns, hread, -, hback, -⟩ :=
    unquoted_fields_found hload "shop" (htypes ▸ List.mem_cons_self) hnames
  refine ⟨s, address, basket, fs, hload, htypes, hnames, htype, hcolumns.trans haddress, hread ?_⟩
  intro f hf
  refine ⟨?_, hback ?_ f hf⟩
  · have hname : f.1 ∈ ["street", "zip"] := haddress ▸ hcolumns ▸ List.mem_map_of_mem hf
    revert hname
    generalize f.1 = name
    revert name
    decide +kernel
  · rw [htypes, List.forall_mem_cons, List.forall_mem_singleton, hbasket]
    exact ⟨hnames, List.nodup_singleton _⟩

/-- A list of scalars has a data type where its scalars have. -/
theorem shapeDataType?_of_list {udt : String → Option DataType} {shape : Shape} {c : Scalar}
    (h : shape.describe = "list") (hc : shape.children.map Shape.scalar? = [some c]) :
    shapeDataType? udt shape = (scalarDataType? c).map .list := by
  cases shape with
  | list p e =>
    simp only [Shape.children, List.map_cons, List.map_nil, List.cons.injEq, and_true] at hc
    rw [shapeDataType?, shapeDataType?_of_scalar? hc]
  | _ => simp [Shape.describe] at h

/-- The fields of an address and of a basket, under the case-sensitive naming. -/
def quotedAddress : List (String × DataType) := [("\"street\"", .text), ("\"zip\"", .text)]

def quotedBasket : List (String × DataType) := [("\"codes\"", .list .int)]

/-- **Fields under quoted names are lost.**  Under the case-sensitive naming neither an address nor
a basket is read under names without quotes: an address is not read at all, and a basket is read as
an empty one. -/
theorem quoted_fields_lost :
    ∃ s, load orderTypes {} { naming := .caseSensitive } = .ok s
      ∧ ∃ address ∈ s.userTypes, ∃ basket ∈ s.userTypes,
        (address.fields.map (·.column)).Nodup ∧ (basket.fields.map (·.column)).Nodup
        ∧ address.dataType? s "shop" = some (.record "shop::Address" quotedAddress)
        ∧ basket.dataType? s "shop" = some (.record "shop::Basket" quotedBasket)
        ∧ ¬DataType.ReadUnquoted "shop::Address" quotedAddress
        ∧ ¬DataType.ReadUnquoted "shop::Basket" quotedBasket
        ∧ (DataType.record "shop::Address" quotedAddress).decode?
          (.udt [("street", .text "Storgata"), ("zip", .text "0182")]) = none
        ∧ (DataType.record "shop::Basket" quotedBasket).decode?
          (.udt [("codes", .list [.int 1, .int 2])]) =
          some (.record [("\"codes\"", .list [])]) := by
  have hready : ((load orderTypes {} { naming := .caseSensitive }).toOption.bind fun s =>
      s.userTypes[0]?.bind fun address => s.userTypes[1]?.map fun basket =>
        (address.name, address.fields.map (·.column), basket.name, basket.fields.map (·.column),
          (address.fields.all fun f => f.shape.scalar? == some .text)
            && basket.fields.all fun f => f.shape.describe == "list"
              && f.shape.children.map Shape.scalar? == [some .int])) =
      some ("Address", ["\"street\"", "\"zip\""], "Basket", ["\"codes\""], true) := by
    decide +kernel
  simp only [Option.bind_eq_some_iff, Option.map_eq_some_iff, Except.toOption_eq_some_iff,
    Prod.mk.injEq, Bool.and_eq_true, List.all_eq_true, beq_iff_eq] at hready
  obtain ⟨s, hload, address, hmem, basket, hmem', haddress, hcolumns, hbasket, hcolumn, htext,
    hlist⟩ := hready
  refine ⟨s, hload, address, List.mem_of_getElem? hmem, basket, List.mem_of_getElem? hmem',
    hcolumns ▸ by decide, hcolumn ▸ by decide, ?_, ?_, ?_, ?_, ?_, ?_⟩
  · obtain ⟨street, _, hfields, hstreet, hrest⟩ := List.map_eq_cons_iff.mp hcolumns
    obtain ⟨zip, rfl, hzip⟩ := List.map_eq_singleton_iff.mp hrest
    rw [hfields, List.forall_mem_cons, List.forall_mem_singleton] at htext
    rw [UserType.dataType?, UserType.dataTypeWithin?, hfields, quotedAddress]
    simp [shapeDataType?_of_scalar? htext.1, shapeDataType?_of_scalar? htext.2, scalarDataType?,
      haddress, hstreet, hzip]
  · obtain ⟨codes, hfields, hcode⟩ := List.map_eq_singleton_iff.mp hcolumn
    rw [hfields, List.forall_mem_singleton] at hlist
    rw [UserType.dataType?, UserType.dataTypeWithin?, hfields, quotedBasket]
    simp [shapeDataType?_of_list hlist.1 hlist.2, scalarDataType?, hbasket, hcode]
  · exact not_readUnquoted List.mem_cons_self (by simp) (by decide +kernel)
  · exact not_readUnquoted List.mem_cons_self (by simp) (by decide +kernel)
  · simp [DataType.decode?, DataType.decodeFields?, quotedAddress, Value.field?, List.lookup_cons]
  · simp [DataType.decode?, DataType.decodeFields?, quotedBasket, Value.field?, List.lookup_cons]

end Schema

end WideColumn
