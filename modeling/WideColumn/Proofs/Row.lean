/-
# Looking up a column in a row

A cell is found by the name of its column, without quotes and without regard to the case of ASCII
letters (`lookupName`); its own name STANDS FOR that column, and columns that no cell can tell apart
are ALIKE.  `get?` takes the first cell that matches; these lemmas tell what it finds by the cells
alone, so that their order does not count where those that match agree.
-/
import WideColumn.Proofs.Text.Alike
import WideColumn.Row

namespace WideColumn

open WideColumn.Text

/-- **The name by which a row looks a column up**: without quotes and in lower case. -/
def lookupName (column : String) : String := lowerAscii (unquoted column)

/-- **Columns that are alike**: without quotes they are the same but for the case of letters. -/
def AlikeColumns (column other : String) : Prop :=
  ∃ a b, Bare column a ∧ Bare other b ∧ SameButCase a b

theorem alikeColumns_iff {column other : String} :
    AlikeColumns column other ↔ lookupName column = lookupName other := by
  simp only [AlikeColumns, ← unquoted_eq_iff, ← lowerAscii_eq_iff, lookupName]
  simp

instance (column other : String) : Decidable (AlikeColumns column other) :=
  decidable_of_iff _ alikeColumns_iff.symm

namespace Row

/-- **The name of a cell stands for a column**: it is the column's without quotes, but for the case
of letters. -/
def StandsFor (name column : String) : Prop :=
  ∃ bare, Bare column bare ∧ SameButCase name bare

variable {r : Row} {column : String} {cell : String × Value} {v : Value}

theorem matchesColumn_iff :
    matchesColumn column cell = true ↔ lowerAscii cell.1 = lookupName column :=
  beq_iff_eq

theorem matchesColumn_iff_standsFor :
    matchesColumn column cell = true ↔ StandsFor cell.1 column := by
  simp only [matchesColumn_iff, StandsFor, ← unquoted_eq_iff, ← lowerAscii_eq_iff, lookupName]
  simp

instance (name column : String) : Decidable (StandsFor name column) :=
  decidable_of_iff (matchesColumn column (name, .null) = true) matchesColumn_iff_standsFor

/-- What is found stands in a cell that matches. -/
theorem exists_of_get? (h : r.get? column = some v) :
    ∃ cell ∈ r.cells, matchesColumn column cell = true ∧ cell.2 = v := by
  obtain ⟨cell, hfind, hv⟩ := Option.map_eq_some_iff.mp h
  exact ⟨cell, List.mem_of_find?_eq_some hfind, List.find?_some hfind, hv⟩

/-- Nothing is found exactly if no cell matches. -/
theorem get?_eq_none_iff :
    r.get? column = none ↔ ∀ cell ∈ r.cells, matchesColumn column cell ≠ true := by
  simp only [get?, Option.map_eq_none_iff, List.find?_eq_none, ne_eq]

/-- Where all cells that match agree, what they hold is found. -/
theorem get?_eq_some_of_mem (hcell : cell ∈ r.cells) (hmatch : matchesColumn column cell = true)
    (honly : ∀ other ∈ r.cells, matchesColumn column other = true → other.2 = cell.2) :
    r.get? column = some cell.2 := by
  cases h : r.get? column with
  | none => exact absurd hmatch (get?_eq_none_iff.mp h cell hcell)
  | some v =>
    obtain ⟨other, hother, hmatch', rfl⟩ := exists_of_get? h
    rw [honly other hother hmatch']

/-- A first cell that matches is found. -/
theorem get?_cons {cells : List (String × Value)} (h : matchesColumn column cell = true) :
    (Row.mk (cell :: cells)).get? column = some cell.2 := by
  rw [get?, List.find?_cons_of_pos h, Option.map_some]

end Row

end WideColumn
