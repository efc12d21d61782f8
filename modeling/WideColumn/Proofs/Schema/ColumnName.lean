/-
# What the name of a column stands for

The text of a column is read in two ways.  The store takes what stands between quotes as it is and
folds the case of everything else (`storedName`).  A row drops quotes and folds case in any event
(`lookupName`), since that is how it looks its cells up.  A column that was derived from the name
of its field is read alike by both: fields are named in snake case, so nothing about the name is
folded, and it is the field's own name again, whatever the naming (`storedName_column`,
`lookupName_column`).
-/
import WideColumn.Proofs.Row
import WideColumn.Proofs.Schema.Accepted

namespace WideColumn

open WideColumn.Text

/-! ## 1. Two readings -/

/-- Text from between quotes, where a doubled quote stands for one. -/
def undoubled : List Char → List Char
  | a :: b :: rest =>
    if a == '"' && b == '"' then '"' :: undoubled rest else a :: undoubled (b :: rest)
  | cs => cs

/-- **The name under which the store keeps a column**: what stands between quotes, and otherwise
the text in lower case.  A quote that is never closed makes no name; the text stands for itself. -/
def storedName (column : String) : String :=
  match column.toList with
  | '"' :: rest =>
    if rest.getLast? = some '"' then String.ofList (undoubled rest.dropLast) else column
  | _ => lowerAscii column

/-! ## 2. Texts between quotes and without any -/

/-- Nothing is dropped where there are no quotes. -/
theorem dropWhile_quote {cs : List Char} (h : '"' ∉ cs) : cs.dropWhile (· == '"') = cs :=
  List.dropWhile_beq_eq_self_of_head?_ne fun hhead => h (List.mem_of_head? hhead)

theorem unquoted_of_not_mem {s : String} (h : '"' ∉ s.toList) : unquoted s = s := by
  have hreverse : '"' ∉ s.toList.reverse := by rwa [List.mem_reverse]
  simp only [unquoted, dropWhile_quote h, dropWhile_quote hreverse, List.reverse_reverse,
    String.ofList_toList]

theorem toList_quotes (s : String) : ("\"" ++ s ++ "\"").toList = '"' :: (s.toList ++ ['"']) := by
  rw [String.toList_append, String.toList_append]
  rfl

theorem unquoted_quotes {s : String} (h : '"' ∉ s.toList) : unquoted ("\"" ++ s ++ "\"") = s := by
  have hreverse : '"' ∉ s.toList.reverse := by rwa [List.mem_reverse]
  simp only [unquoted, toList_quotes, List.dropWhile_cons_of_pos, List.dropWhile_append,
    dropWhile_quote h, BEq.rfl]
  split
  · rename_i hempty
    rw [← String.toList_inj]
    simp [List.isEmpty_iff.mp hempty]
  · rw [List.reverse_concat, List.dropWhile_cons_of_pos rfl, dropWhile_quote hreverse,
      List.reverse_reverse, String.ofList_toList]

theorem undoubled_of_not_mem : ∀ {cs : List Char}, '"' ∉ cs → undoubled cs = cs
  | [], _ => rfl
  | [_], _ => rfl
  | a :: b :: rest, h => by
    have ha : a ≠ '"' := fun heq => h (heq ▸ List.mem_cons_self)
    rw [undoubled, undoubled_of_not_mem fun hmem => h (List.mem_cons_of_mem _ hmem)]
    simp [ha]

theorem storedName_quotes {s : String} (h : '"' ∉ s.toList) :
    storedName ("\"" ++ s ++ "\"") = s := by
  simp only [storedName, toList_quotes, List.getLast?_concat, if_true, List.dropLast_concat,
    undoubled_of_not_mem h, String.ofList_toList]

theorem storedName_of_not_mem {s : String} (h : '"' ∉ s.toList) : storedName s = lowerAscii s := by
  unfold storedName
  split
  · rename_i rest hs
    exact absurd (hs ▸ List.mem_cons_self) h
  · rfl

/-! ## 3. Names in snake case -/

/-- A character of a name in snake case. -/
def isSnakeChar (c : Char) : Bool := c.isLower || c.isDigit || c == '_'

theorem toLower_of_isSnakeChar {c : Char} (h : isSnakeChar c = true) : c.toLower = c := by
  have hplain : ¬('A'.val ≤ c.val ∧ c.val ≤ 'Z'.val) := by
    have hA : 'A'.val.toNat = 65 := rfl
    have hZ : 'Z'.val.toNat = 90 := rfl
    rw [UInt32.le_iff_toNat_le, UInt32.le_iff_toNat_le]
    rw [isSnakeChar, Bool.or_eq_true, Bool.or_eq_true, beq_iff_eq] at h
    rcases h with (h | h) | rfl
    · obtain ⟨hlow, -⟩ := Bool.and_eq_true_iff.mp h
      have hlow : 97 ≤ c.val.toNat := UInt32.le_iff_toNat_le.mp (of_decide_eq_true hlow)
      omega
    · obtain ⟨-, hhigh⟩ := Bool.and_eq_true_iff.mp h
      have hhigh : c.val.toNat ≤ 57 := UInt32.le_iff_toNat_le.mp (of_decide_eq_true hhigh)
      omega
    · decide
  exact dif_neg hplain

theorem ne_quote_of_isSnakeChar {c : Char} (h : isSnakeChar c = true) : c ≠ '"' := by
  rintro rfl
  revert h
  decide

section
variable {name : String} (h : isSnakeCase name = true)
include h

theorem isSnakeChar_of_isSnakeCase : ∀ c ∈ name.toList, isSnakeChar c = true := by
  simp only [isSnakeCase, Bool.and_eq_true] at h
  exact List.all_eq_true.mp h.2

theorem not_mem_of_isSnakeCase : '"' ∉ name.toList :=
  fun hmem => ne_quote_of_isSnakeChar (isSnakeChar_of_isSnakeCase h _ hmem) rfl

theorem lowerAscii_of_isSnakeCase : lowerAscii name = name := by
  have hfixed : name.toList.map Char.toLower = name.toList.map id :=
    List.map_congr_left fun c hc => toLower_of_isSnakeChar (isSnakeChar_of_isSnakeCase h c hc)
  rw [lowerAscii, hfixed, List.map_id, String.ofList_toList]

/-- A derived column is the name of its field, as it is or between quotes. -/
theorem column_of_isSnakeCase (naming : Naming) :
    naming.column name = name ∨ naming.column name = "\"" ++ name ++ "\"" := by
  cases naming with
  | snakeCase => exact .inl (if_pos h)
  | lowerCase => exact .inl (lowerAscii_of_isSnakeCase h)
  | caseSensitive => exact .inr rfl

/-- **A derived column is stored under the name of its field**, whatever the naming. -/
theorem storedName_column (naming : Naming) : storedName (naming.column name) = name := by
  have hfree := not_mem_of_isSnakeCase h
  rcases column_of_isSnakeCase h naming with hplain | hquoted
  · rw [hplain, storedName_of_not_mem hfree, lowerAscii_of_isSnakeCase h]
  · rw [hquoted, storedName_quotes hfree]

/-- **A derived column is looked up by the name of its field**, whatever the naming. -/
theorem lookupName_column (naming : Naming) : lookupName (naming.column name) = name := by
  have hfree := not_mem_of_isSnakeCase h
  have hlower := lowerAscii_of_isSnakeCase h
  rcases column_of_isSnakeCase h naming with hplain | hquoted
  · rw [hplain, lookupName, unquoted_of_not_mem hfree, hlower]
  · rw [hquoted, lookupName, unquoted_quotes hfree, hlower]

end

/-! ## 4. Fields -/

namespace Schema

/-- The column of a field was chosen, rather than derived from the field's name. -/
def Field.HasChosenColumn (naming : Naming) (f : Field) : Prop :=
  f.column ≠ naming.column f.name

/-- The fields of an accepted batch are named in snake case. -/
theorem isSnakeCase_of_load {d : Declaration} {registry : Registry} {defaults : Defaults}
    {s : Schema} {e : Entity} (h : load d registry defaults = .ok s) (he : e ∈ s.entities) :
    ∀ f ∈ e.fields, isSnakeCase f.name = true := by
  intro f hf
  exact (nameFault?_of_fieldNameFaults ((accepted_of_entity h he).fields f hf).name).2

end Schema

end WideColumn
