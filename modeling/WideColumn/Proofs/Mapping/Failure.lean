/-
# How reading a record fails

A record is read column by column, so reading can fail in one way only: the codec of one of the
columns refuses the cell of that column, and the failure names the column.
-/
import WideColumn.Mapping
import WideColumn.Proofs.Except

namespace WideColumn

/-- A failure of the codec of a column with one of these names. -/
def Error.AtColumn (names : List String) (e : Error) : Prop :=
  ∃ name ∈ names, ∃ cause, e = .columnCodec name cause

theorem Row.decode_failsAs {α : Type} (row : Row) (column : String) (codec : Codec α) :
    Except.FailsAs (Error.AtColumn [column]) (row.decode column codec) :=
  .mapError fun cause _ => ⟨column, List.mem_singleton_self column, cause, rfl⟩

theorem Row.decodeOptional_failsAs {α : Type} (row : Row) (column : String) (codec : Codec α) :
    Except.FailsAs (Error.AtColumn [column]) (row.decodeOptional column codec) := by
  rw [decodeOptional]
  split
  · exact .ok
  · exact .ok
  · exact .mapError fun cause _ => ⟨column, List.mem_singleton_self column, cause, rfl⟩

theorem Column.read_failsAs (c : Column) (row : Row) :
    Except.FailsAs (Error.AtColumn [c.about.name]) (c.read row) := by
  rw [read]
  split
  · exact (row.decodeOptional_failsAs _ c.codec).map
  · exact (row.decode_failsAs _ c.codec).map

theorem Record.ofRow_failsAs (row : Row) :
    ∀ cs : List Column, Except.FailsAs (Error.AtColumn (cs.map (·.about.name))) (ofRow cs row)
  | [] => .ok
  | c :: cs => by
    refine ((c.read_failsAs row).mono ?_).bind fun _ _ =>
      ((ofRow_failsAs row cs).mono ?_).bind fun _ _ => .ok
    · rintro e ⟨name, hname, hcause⟩
      exact ⟨name, by simp [List.mem_singleton.mp hname], hcause⟩
    · rintro e ⟨name, hname, hcause⟩
      exact ⟨name, List.mem_cons_of_mem _ hname, hcause⟩

/-- **A record that cannot be read fails at one of its columns.** -/
theorem Mapping.ofRow_failsAs (m : Mapping) (row : Row) :
    Except.FailsAs (Error.AtColumn (m.columns.map (·.about.name))) (m.ofRow row) :=
  Record.ofRow_failsAs row m.columns

end WideColumn
