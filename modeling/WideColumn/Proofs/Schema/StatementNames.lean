/-
# Which names in statements are identifiers

A name in a statement has to be an IDENTIFIER: a text between double quotes, or a plain word that
is not reserved (`IsIdentifier`).  The rules see to that on some of the ways on which names come
into statements and not on others.  Names that are derived are plain words, since the names that
they are derived from are, and for tables and columns the reserved words are ruled out.

Left open are the reserved words among the names of user types and of their fields, and the form of
all names that are chosen in place of a derived one.  A lone type that nobody declared keeps the
form it was written in.  All names are identifiers exactly if these are (`identifiers_iff`), and
`reserved_and_spaced` is an accepted batch with a reserved type, a column of two words and others.
-/
import WideColumn.Proofs.Schema.Pieces
import WideColumn.Proofs.Text.Words

namespace WideColumn.Schema

open WideColumn.Text
open WideColumn.Source (IsPlainWord isPlainWord_of_nameFault?)

variable {d : Declaration} {registry : Registry} {defaults : Defaults} {s : Schema}
  {e : Entity} {f : Field} {u : UserType} {n : String} {naming : Naming}

/-! ## 1. Identifiers -/

/-- Whether quotes stand in pairs. -/
def quotesDoubled : List Char → Bool
  | [] => true
  | '"' :: '"' :: rest => quotesDoubled rest
  | c :: rest => c != '"' && quotesDoubled rest

/-- Whether a text is some text between double quotes, in which a quote is written twice. -/
def isQuotedName (n : String) : Bool :=
  match n.toList with
  | '"' :: rest =>
    rest.getLast? == some '"' && !rest.dropLast.isEmpty && quotesDoubled rest.dropLast
  | _ => false

/-- **A name is an identifier**: it stands between double quotes, or it is an ASCII letter followed
by ASCII letters, digits and underscores and no reserved word. -/
def IsIdentifier (n : String) : Prop :=
  isQuotedName n = true ∨ IsPlainWord n ∧ isReservedWord n = false

instance (n : String) : Decidable (IsPlainWord n) :=
  decidable_of_iff (n.toList.head?.any Char.isAlpha = true
      ∧ n.toList.all Source.isPlainChar = true)
    ⟨fun h => ⟨h.1, List.all_eq_true.mp h.2⟩, fun h => ⟨h.start, List.all_eq_true.mpr h.chars⟩⟩

instance (n : String) : Decidable (IsIdentifier n) :=
  inferInstanceAs (Decidable (isQuotedName n = true ∨ IsPlainWord n ∧ isReservedWord n = false))

theorem quotesDoubled_of_not_mem : ∀ {cs : List Char}, '"' ∉ cs → quotesDoubled cs = true
  | [], _ => rfl
  | c :: cs, h => by
    have hc : c ≠ '"' := fun heq => h (heq ▸ List.mem_cons_self)
    rw [quotesDoubled.eq_def]
    split
    · cases ‹_›
    · rename_i heq
      cases heq
      exact absurd rfl hc
    · rename_i heq
      cases heq
      simp [hc, quotesDoubled_of_not_mem fun hmem => h (List.mem_cons_of_mem _ hmem)]

/-- A plain word has no quotes. -/
theorem quote_notMem (h : IsPlainWord n) : '"' ∉ n.toList := by
  intro hmem
  have hquote := h.chars _ hmem
  revert hquote
  decide

theorem isQuotedName_quotes (h : IsPlainWord n) : isQuotedName ("\"" ++ n ++ "\"") = true := by
  have hsome : n.toList ≠ [] := by
    intro hnone
    have hstart := h.start
    rw [hnone] at hstart
    cases hstart
  simp [isQuotedName, quotesDoubled_of_not_mem (quote_notMem h), hsome]

theorem isReservedWord_of_isQuotedName (h : isQuotedName n = true) : isReservedWord n = false := by
  have hwords : ∀ w ∈ reservedWords, w.toList.head? ≠ some '"' := by decide +kernel
  rw [isReservedWord, ← Bool.not_eq_true, List.contains_iff_mem]
  intro hmem
  refine hwords _ hmem ?_
  rw [isQuotedName] at h
  split at h
  · rename_i hn
    rw [lowerAscii, hn, String.toList_ofList]
    rfl
  · cases h

/-- An identifier is not reserved. -/
theorem IsIdentifier.unreserved (h : IsIdentifier n) : isReservedWord n = false := by
  rcases h with hquoted | hplain
  · exact isReservedWord_of_isQuotedName hquoted
  · exact hplain.2

/-! ## 2. Derived names -/

/-- **A derived column is an identifier**, unless it is reserved. -/
theorem isIdentifier_column (hname : IsPlainWord n) (hsnake : isSnakeCase n = true)
    (hreserved : isReservedWord (naming.column n) = false) : IsIdentifier (naming.column n) := by
  rcases column_of_isSnakeCase hsnake naming with hplain | hquoted
  · rw [hplain] at hreserved ⊢
    exact .inr ⟨hname, hreserved⟩
  · rw [hquoted]
    exact .inl (isQuotedName_quotes hname)

/-- A column that is derived from an accepted name and breaks no rule is not reserved. -/
theorem unreserved_of_columnNameFaults (hname : IsPlainWord n) (hsnake : isSnakeCase n = true)
    (h : columnNameFaults (naming.column n) = []) : isReservedWord (naming.column n) = false := by
  by_contra hreserved
  have hquote : ['"'] <+: (naming.column n).toList := by
    simpa [columnNameFaults, hreserved] using h
  rcases column_of_isSnakeCase hsnake naming with hplain | hquoted
  · rw [hplain] at hquote
    exact quote_notMem hname (hquote.subset List.mem_cons_self)
  · rw [hquoted] at hreserved
    exact hreserved (isReservedWord_of_isQuotedName (isQuotedName_quotes hname))

section
variable (h : load d registry defaults = .ok s)
include h

/-- The table of an accepted entity is an identifier if it is derived. -/
theorem isIdentifier_table (he : e ∈ s.entities) (hderived : e.table = snakeCase e.name) :
    IsIdentifier e.table := by
  refine .inr ⟨?_, by simpa [tableNameFaults] using (accepted_of_entity h he).table⟩
  rw [hderived]
  exact isPlainWord_snakeCase (isPlainWord_of_nameFault? (nameFault?_of_entity h he))

/-- The column of an accepted field is an identifier if it is derived. -/
theorem isIdentifier_of_derived (he : e ∈ s.entities) (hf : f ∈ e.fields)
    (hderived : f.column = e.naming.column f.name) : IsIdentifier f.column := by
  have hcolumn := ((accepted_of_entity h he).fields f hf).column
  have hname := isPlainWord_of_nameFault? (nameFault?_of_field h he f hf)
  have hsnake := isSnakeCase_of_load h he f hf
  rw [hderived] at hcolumn ⊢
  exact isIdentifier_column hname hsnake (unreserved_of_columnNameFaults hname hsnake hcolumn)

/-- The fields of accepted user types are named in snake case. -/
theorem isSnakeCase_of_userType (hu : u ∈ s.userTypes) {f : TypeField} (hf : f ∈ u.fields) :
    isSnakeCase f.name = true :=
  (nameFault?_of_fieldNameFaults (((accepted_of_load h).ofUserTypes u hu).fieldNames f hf)).2

end

/-! ## 3. All names -/

/-- **What the rules leave open about names in statements.**  That user types and their fields are
not reserved, and that what was chosen in place of a derived name, or written for a type that nobody
declared, is an identifier. -/
structure NamesKeepForm (s : Schema) (naming : Naming) : Prop where
  types : ∀ u ∈ s.userTypes, isReservedWord u.typeName = false
  typeFields : ∀ u ∈ s.userTypes, ∀ f ∈ u.fields, isReservedWord f.column = false
  chosenTypes : ∀ u ∈ s.userTypes, u.typeName ≠ snakeCase u.name → IsIdentifier u.typeName
  chosenTypeFields : ∀ u ∈ s.userTypes, ∀ f ∈ u.fields, f.column ≠ naming.column f.name →
    IsIdentifier f.column
  chosenTables : ∀ e ∈ s.entities, e.table ≠ snakeCase e.name → IsIdentifier e.table
  chosenColumns : ∀ e ∈ s.entities, ∀ f ∈ e.fields, f.role.isComputed = false →
    f.HasChosenColumn e.naming → IsIdentifier f.column
  undeclared : ∀ e ∈ s.entities, e.isView = false → ∀ f ∈ e.fields, f.role.isComputed = false →
    ∀ n, f.shape.udtName? = some n → userType? s.userTypes n = none →
      (s.codec? e f).bind Strategy.storedAs = none → IsIdentifier n

/-- Where what is left open is in order, every name is an identifier. -/
theorem isIdentifier_of_written (h : load d registry defaults = .ok s)
    (hform : NamesKeepForm s defaults.naming) (hn : Written s n) : IsIdentifier n := by
  cases hn with
  | @type u hu =>
    by_cases hderived : u.typeName = snakeCase u.name
    · refine .inr ⟨?_, hform.types u hu⟩
      rw [hderived]
      exact isPlainWord_snakeCase (isPlainWord_of_nameFault? (nameFault?_of_userType h hu).1)
    · exact hform.chosenTypes u hu hderived
  | @typeField u f hu hf =>
    by_cases hderived : f.column = defaults.naming.column f.name
    · have hreserved := hform.typeFields u hu f hf
      rw [hderived] at hreserved ⊢
      exact isIdentifier_column
        (isPlainWord_of_nameFault? ((nameFault?_of_userType h hu).2 f hf))
        (isSnakeCase_of_userType h hu hf) hreserved
    · exact hform.chosenTypeFields u hu f hf hderived
  | @table e he =>
    by_cases hderived : e.table = snakeCase e.name
    · exact isIdentifier_table h he hderived
    · exact hform.chosenTables e he hderived
  | @column e f he hf hstored =>
    by_cases hderived : f.column = e.naming.column f.name
    · exact isIdentifier_of_derived h he hf hderived
    · exact hform.chosenColumns e he f hf hstored hderived
  | undeclared he htable hf hstored hname hnone hkept =>
    exact hform.undeclared _ he htable _ hf hstored _ hname hnone hkept

/-- **When the statements of an accepted batch write identifiers only.**  The pieces of its
creations write its statements, and the names among them are identifiers exactly if all that the
rules leave open about them is in order. -/
theorem identifiers_iff (h : load d registry defaults = .ok s) :
    s.statements = s.creations.map (fun c => render (c.pieces s)) ∧
      ((∀ c ∈ s.creations, ∀ n ∈ namesOf (c.pieces s), IsIdentifier n) ↔
        NamesKeepForm s defaults.naming) := by
  constructor
  · rw [statements_eq]
    exact List.map_congr_left fun c _ => (render_pieces s c).symm
  constructor
  · intro hall
    have hwritten : ∀ {n}, Written s n → IsIdentifier n := by
      intro n hn
      obtain ⟨c, hc, hmem⟩ := (written_iff h).mpr hn
      exact hall c hc n hmem
    exact {
      types := fun u hu => (hwritten (.type hu)).unreserved
      typeFields := fun u hu f hf => (hwritten (.typeField hu hf)).unreserved
      chosenTypes := fun u hu _ => hwritten (.type hu)
      chosenTypeFields := fun u hu f hf _ => hwritten (.typeField hu hf)
      chosenTables := fun e he _ => hwritten (.table he)
      chosenColumns := fun e he f hf hstored _ => hwritten (.column he hf hstored)
      undeclared := fun e he htable f hf hstored n hname hnone hkept =>
        hwritten (.undeclared he htable hf hstored hname hnone hkept) }
  · intro hform c hc n hn
    exact isIdentifier_of_written h hform ((written_iff h).mp ⟨c, hc, hn⟩)

/-- Letters, where every name that the rules leave open is in order. -/
def letters : Declaration where
  userTypes := [
    { name := "Order", typeName := some "\"Order\"", fields := [⟨"day", "date", some "on_day"⟩] }]
  entities := [
    { name := "Letter", table := some "all_letters"
      fields := [
        (Declaration.Field.typed "id" "uuid").inPartition 0,
        (Declaration.Field.typed "sent_to" "text").withColumn "receiver",
        .typed "answer" "frozen<Order>",
        { name := "stamp", type := some "stamp", codec := some ⟨"crate::Stamp", "Stamp"⟩ }] }]

theorem identifiers_iff_letters :
    ∃ s, load letters (.ofTypes [("stamp", "Stamp")]) { naming := .caseSensitive } = .ok s
      ∧ s.creations.map (fun c => namesOf (c.pieces s)) =
        [["\"Order\"", "on_day"],
          ["all_letters", "\"id\"", "receiver", "\"answer\"", "\"Order\"", "\"stamp\"", "stamp",
            "\"id\""]]
      ∧ s.statements = s.creations.map (fun c => render (c.pieces s))
      ∧ NamesKeepForm s .caseSensitive := by
  have hready : ((load letters (.ofTypes [("stamp", "Stamp")])
      { naming := .caseSensitive }).toOption.map fun s =>
        s.creations.map fun c => namesOf (c.pieces s)) =
      some [["\"Order\"", "on_day"],
        ["all_letters", "\"id\"", "receiver", "\"answer\"", "\"Order\"", "\"stamp\"", "stamp",
          "\"id\""]] := by decide +kernel
  simp only [Option.map_eq_some_iff, Except.toOption_eq_some_iff] at hready
  obtain ⟨s, hload, hnames⟩ := hready
  have hall : ∀ row ∈ s.creations.map (fun c => namesOf (c.pieces s)), ∀ n ∈ row,
      IsIdentifier n := by
    rw [hnames]
    decide +kernel
  obtain ⟨hwrite, hiff⟩ := identifiers_iff hload
  exact ⟨s, hload, hnames, hwrite, hiff.mp fun c hc => hall _ (List.mem_map_of_mem hc)⟩

/-- Parcels, with a reserved type and a reserved field of it, and with names of other forms: of a
table, of columns, and of a type that nobody declared. -/
def parcels : Declaration where
  userTypes := [
    { name := "Order"
      fields := [⟨"from", "text", none⟩, ⟨"until", "text", some "two words"⟩] }]
  entities := [
    { name := "Parcel", table := some "my table"
      fields := [
        (Declaration.Field.typed "id" "uuid").inPartition 0,
        (Declaration.Field.typed "sent" "frozen<Order>").withColumn "1st",
        { name := "size", type := some "3D", codec := some ⟨"crate::Size", "Size"⟩ }] }]

/-- **Accepted statements may write names that are no identifiers.**  A user type and a field of it
are reserved words, and a field of it, a table, a column and a type that nobody declared are no
plain words. -/
theorem reserved_and_spaced :
    ∃ s, load parcels (.ofTypes [("3D", "Size")]) {} = .ok s
      ∧ s.statements =
        ["CREATE TYPE IF NOT EXISTS order (from text, two words text)",
          "CREATE TABLE IF NOT EXISTS my table (id uuid, 1st frozen<order>, size 3D, "
            ++ "PRIMARY KEY (id))"]
      ∧ s.creations.map (fun c => namesOf (c.pieces s)) =
        [["order", "from", "two words"],
          ["my table", "id", "1st", "order", "size", "3D", "id"]]
      ∧ isReservedWord "order" = true ∧ isReservedWord "from" = true
      ∧ ∀ n ∈ ["order", "from", "two words", "my table", "1st", "3D"], ¬IsIdentifier n := by
  have hready : ((load parcels (.ofTypes [("3D", "Size")]) {}).toOption.map fun s =>
      (s.statements, s.creations.map fun c => namesOf (c.pieces s))) =
      some (["CREATE TYPE IF NOT EXISTS order (from text, two words text)",
          "CREATE TABLE IF NOT EXISTS my table (id uuid, 1st frozen<order>, size 3D, "
            ++ "PRIMARY KEY (id))"],
        [["order", "from", "two words"],
          ["my table", "id", "1st", "order", "size", "3D", "id"]]) := by decide +kernel
  simp only [Option.map_eq_some_iff, Except.toOption_eq_some_iff, Prod.mk.injEq] at hready
  obtain ⟨s, hload, hstatements, hnames⟩ := hready
  exact ⟨s, hload, hstatements, hnames, by decide +kernel, by decide +kernel, by decide +kernel⟩

end WideColumn.Schema
