/-
# Values in logs

How a value is shown to people: the name of its kind and its contents in parentheses, texts in
quotes, rows in brackets.
-/
import WideColumn.Value
import WideColumn.Number.Layout
import WideColumn.Text.Quoted

namespace WideColumn.Value

open WideColumn.Number WideColumn.Text

/-- Texts with a comma and a blank between them, in brackets. -/
def bracketed (parts : List String) : String :=
  "[" ++ ", ".intercalate parts ++ "]"

mutual

/-- The form for people. -/
def spoken : Value → String
  | bigint n => s!"BigInt({n.toInt})"
  | blob bs => "Blob(" ++ bracketed (bs.map fun b => toString b.toNat) ++ ")"
  | boolean b => s!"Boolean({b})"
  | counter n => s!"Counter({n.toInt})"
  | date d => "Date(" ++ String.ofList d.text ++ ")"
  | double x => "Double(" ++ Layout.spoken.text x ++ ")"
  | float x => "Float(" ++ Layout.spoken.text x ++ ")"
  | inet a => "Inet(" ++ String.ofList a.text ++ ")"
  | int n => s!"Int({n.toInt})"
  | list vs => "List(" ++ bracketed (spokenItems vs) ++ ")"
  | map es => "Map(" ++ bracketed (spokenEntries es) ++ ")"
  | null => "Null"
  | set vs => "Set(" ++ bracketed (spokenItems vs) ++ ")"
  | smallint n => s!"SmallInt({n.toInt})"
  | text s => "Text(" ++ quoted s ++ ")"
  | time t => "Time(" ++ String.ofList t.text ++ ")"
  | timestamp t => "Timestamp(" ++ String.ofList t.text ++ ")"
  | tinyint n => s!"TinyInt({n.toInt})"
  | tuple vs => "Tuple(" ++ bracketed (spokenItems vs) ++ ")"
  | udt fs => "Udt(" ++ bracketed (spokenFields fs) ++ ")"
  | uuid u => "Uuid(" ++ String.ofList u.text ++ ")"

/-- The forms of a row of values. -/
def spokenItems : List Value → List String
  | [] => []
  | v :: vs => spoken v :: spokenItems vs

/-- The forms of entries, each a pair in parentheses. -/
def spokenEntries : List (Value × Value) → List String
  | [] => []
  | (k, v) :: es => ("(" ++ spoken k ++ ", " ++ spoken v ++ ")") :: spokenEntries es

/-- The forms of named fields, each a pair in parentheses. -/
def spokenFields : List (String × Value) → List String
  | [] => []
  | (n, v) :: fs => ("(" ++ quoted n ++ ", " ++ spoken v ++ ")") :: spokenFields fs

end

end WideColumn.Value
