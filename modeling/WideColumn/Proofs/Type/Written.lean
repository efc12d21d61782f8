/-
# Types and the texts they are written as

A type can be WRITTEN if it keeps to the grammar: its tuples have items, and its user types go by
names that are read as nothing else (`Writable`).  The text of such a type is a derivation of it, so
it is read as the type again; and every type that is read can be written, however the text was
spelled.  Writable types are therefore those that some text is read as (`writable_iff`).
-/
import WideColumn.Proofs.Type.Grammar

namespace WideColumn.TypeExpr

open WideColumn.Text (lowerAscii)

variable {e : TypeExpr} {es : List TypeExpr} {keyword written : String}

/-! ## 1. What can be written -/

mutual

/-- **A type that can be written**: no tuple is empty, and the names of user types are names without
a meaning of their own. -/
def Writable : TypeExpr → Prop
  | scalar _ | counter => True
  | list e | set e | frozen e | indexed e => Writable e
  | map k v => Writable k ∧ Writable v
  | tuple es => es ≠ [] ∧ WritableAll es
  | udt name => IsName name ∧ Leaf.isTypeWord name = false

/-- Whether all types of a row can be written. -/
def WritableAll : List TypeExpr → Prop
  | [] => True
  | e :: es => Writable e ∧ WritableAll es

end

/-! ## 2. What is written is derived -/

/-- A text has a derivation of a type. -/
def Derived (s : String) (e : TypeExpr) : Prop :=
  ∃ d : Derivation, d.Derives e ∧ Laid d.tokens s.toList

/-- A text has a derivation of a row of arguments. -/
def DerivedAll (s : String) (es : List TypeExpr) : Prop :=
  ∃ ds : Arguments, ds.Derives es ∧ Laid ds.tokens s.toList

theorem isName_scalar (s : Scalar) : IsName s.name := by
  cases s <;> decide

theorem lowerAscii_scalar (s : Scalar) : lowerAscii s.name = s.name := by
  cases s <;> decide

theorem Applied.isName (h : Applied keyword es e) : IsName keyword := by
  cases h <;> decide

theorem Applied.lowerAscii_eq (h : Applied keyword es e) : lowerAscii keyword = keyword := by
  cases h <;> decide

theorem Alone.derived (hname : IsName written) (h : Alone written e) : Derived written e :=
  ⟨.name ⟨written, hname⟩, .name h, .single (.word ⟨written, hname⟩)⟩

/-- A keyword with its arguments between angle brackets. -/
theorem Applied.derived (h : Applied keyword es e) (hargs : DerivedAll written es) :
    Derived (keyword ++ "<" ++ written ++ ">") e := by
  obtain ⟨ds, hds, hlaid⟩ := hargs
  refine ⟨.applied ⟨keyword, h.isName⟩ ds, .applied hds (h.lowerAscii_eq.symm ▸ h), ?_⟩
  have hwhole := (Laid.single (.word ⟨keyword, h.isName⟩)).append
    ((Laid.single .opening).append (hlaid.append (Laid.single .closing)))
  simpa [Derivation.tokens, Token.chars] using hwhole

theorem Derived.last (h : Derived written e) : DerivedAll written [e] := by
  obtain ⟨d, hd, hlaid⟩ := h
  exact ⟨.last d, .last hd, hlaid⟩

theorem Derived.more {others : String} (h : Derived written e) (hothers : DerivedAll others es) :
    DerivedAll (written ++ ", " ++ others) (e :: es) := by
  obtain ⟨d, hd, hlaid⟩ := h
  obtain ⟨ds, hds, hrest⟩ := hothers
  refine ⟨.more d ds, .more hd hds, ?_⟩
  have hcomma : Laid [.comma] [',', ' '] := ⟨[], [' '], nofun, rfl, by simp [Laid, isBlank]⟩
  have hwhole := hlaid.append (hcomma.append hrest)
  simpa [Arguments.tokens] using hwhole

mutual

/-- The text of a type that can be written derives the type.  By induction on the type, one rule of
the grammar for each constructor. -/
theorem Writable.derived : (e : TypeExpr) → e.Writable → Derived e.text e
  | scalar s, _ => Alone.derived (isName_scalar s) (.scalar (lowerAscii_scalar s))
  | counter, _ => Alone.derived (by decide) (.counter (by decide))
  | udt _, h => Alone.derived h.1 (.udt h.2)
  | list e, h => by simpa [text] using Applied.list.derived (Writable.derived e h).last
  | set e, h => by simpa [text] using Applied.set.derived (Writable.derived e h).last
  | frozen e, h => by simpa [text] using Applied.frozen.derived (Writable.derived e h).last
  | indexed e, h => by simpa [text] using Applied.indexed.derived (Writable.derived e h).last
  | map k v, h => by
    have hrow := (Writable.derived k h.1).more (Writable.derived v h.2).last
    simpa [text, String.append_assoc] using Applied.map.derived hrow
  | tuple es, h => by simpa [text] using Applied.tuple.derived (WritableAll.derived es h.1 h.2)

theorem WritableAll.derived : (es : List TypeExpr) → es ≠ [] → WritableAll es →
    DerivedAll (", ".intercalate (texts es)) es
  | [e], _, h => (Writable.derived e h.1).last
  | e :: e' :: es, _, h => by
    have hrow := (Writable.derived e h.1).more
      (WritableAll.derived (e' :: es) (List.cons_ne_nil _ _) h.2)
    rwa [texts, texts, String.intercalate_cons_cons, ← texts]

end

/-! ## 3. What is derived can be written -/

theorem Alone.writable {name : String} (hname : IsName name) (h : Alone name e) : e.Writable := by
  cases h with
  | counter _ => trivial
  | scalar _ => trivial
  | udt hown => exact ⟨hname, hown⟩

theorem Applied.writable (h : Applied keyword es e) (hne : es ≠ []) (hall : WritableAll es) :
    e.Writable := by
  cases h with
  | list | set | frozen | indexed => exact hall.1
  | map => exact ⟨hall.1, hall.2.1⟩
  | tuple => exact ⟨hne, hall⟩

mutual

theorem Derivation.writable : (d : Derivation) → ∀ {e}, d.Derives e → e.Writable
  | .name w, _, .name h => h.writable w.isName
  | .applied _ ds, _, .applied hds h =>
    have hrow := ds.writableAll hds
    h.writable hrow.1 hrow.2

theorem Arguments.writableAll : (ds : Arguments) → ∀ {es}, ds.Derives es →
    es ≠ [] ∧ WritableAll es
  | .last d, _, .last hd => ⟨List.cons_ne_nil _ _, d.writable hd, trivial⟩
  | .more d ds, _, .more hd hds => ⟨List.cons_ne_nil _ _, d.writable hd, (ds.writableAll hds).2⟩

end

/-! ## 4. Writing and reading -/

theorem parse_text_of_writable (h : e.Writable) : parse e.text = .ok e := by
  obtain ⟨d, hd, hlaid⟩ := Writable.derived e h
  exact parse_of_derives hd hlaid

theorem writable_of_parse (h : parse written = .ok e) : e.Writable := by
  obtain ⟨d, hd, -⟩ := derives_of_parse h
  exact d.writable hd

/-- **The types that can be written are those that some text is read as.** -/
theorem writable_iff : e.Writable ↔ ∃ s, parse s = .ok e :=
  ⟨fun h => ⟨e.text, parse_text_of_writable h⟩, fun ⟨_, h⟩ => writable_of_parse h⟩

/-- **Writing and reading are inverse.**  A type that can be written is read back from its text; and
what any text is read as is read again from the text that it is written as. -/
theorem parse_text : (∀ e : TypeExpr, e.Writable → parse e.text = .ok e)
    ∧ ∀ (s : String) (e : TypeExpr), parse s = .ok e → parse e.text = .ok e :=
  ⟨fun _ => parse_text_of_writable, fun _ _ h => parse_text_of_writable (writable_of_parse h)⟩

/-- Of the first type by its form, of the second by a text that spells it differently. -/
theorem parse_text_of_tuple :
    parse "tuple<list<int>, frozen<Address>>" =
        .ok (.tuple [.list (.scalar .int), .frozen (.udt "Address")])
    ∧ ∃ e, parse " Map<TEXT,indexed< Frozen<Address> >>" = .ok e
      ∧ parse "map<text, indexed<frozen<Address>>>" = .ok e := by
  constructor
  · have haddress : IsName "Address" ∧ Leaf.isTypeWord "Address" = false :=
      by decide +kernel
    exact parse_text.1 (.tuple [.list (.scalar .int), .frozen (.udt "Address")])
      ⟨by simp, trivial, haddress, trivial⟩
  · have hread : (parse " Map<TEXT,indexed< Frozen<Address> >>").toOption.map text =
        some "map<text, indexed<frozen<Address>>>" := by decide +kernel
    obtain ⟨e, hparse, htext⟩ := Option.map_eq_some_iff.mp hread
    rw [Except.toOption_eq_some_iff] at hparse
    exact ⟨e, hparse, htext ▸ parse_text.2 _ e hparse⟩

end WideColumn.TypeExpr
