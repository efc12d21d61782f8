/-
# Application data in logs

How data is shown to people: bare scalars, texts in quotes, absence and presence by name, rows in
the brackets of their kind.
-/
import WideColumn.Data
import WideColumn.Value.Spoken

namespace WideColumn.Data

open WideColumn.Number WideColumn.Text

mutual

/-- The form for people. -/
def spoken : Data → String
  | text s => quoted s
  | boolean b => toString b
  | tinyint n => toString n.toInt
  | smallint n => toString n.toInt
  | int n => toString n.toInt
  | bigint n => toString n.toInt
  | float x => Layout.spoken.text x
  | double x => Layout.spoken.text x
  | blob bs => Value.bracketed (bs.map fun b => toString b.toNat)
  | uuid u => String.ofList u.text
  | timestamp t => String.ofList t.text
  | date d => String.ofList d.text
  | time t => String.ofList t.text
  | inet a => String.ofList a.text
  | absent => "None"
  | present d => "Some(" ++ spoken d ++ ")"
  | list ds => Value.bracketed (spokenItems ds)
  | set ds => "\x7b" ++ ", ".intercalate (spokenItems ds) ++ "\x7d"
  | map es => "\x7b" ++ ", ".intercalate (spokenEntries es) ++ "\x7d"
  | tuple ds =>
    match spokenItems ds with
    | [single] => "(" ++ single ++ ",)"
    | several => "(" ++ ", ".intercalate several ++ ")"
  | record fs => "\x7b " ++ ", ".intercalate (spokenFields fs) ++ " \x7d"

/-- The forms of a row. -/
def spokenItems : List Data → List String
  | [] => []
  | d :: ds => spoken d :: spokenItems ds

/-- The forms of entries. -/
def spokenEntries : List (Data × Data) → List String
  | [] => []
  | (k, v) :: es => (spoken k ++ ": " ++ spoken v) :: spokenEntries es

/-- The forms of fields. -/
def spokenFields : List (String × Data) → List String
  | [] => []
  | (n, d) :: fs => (n ++ ": " ++ spoken d) :: spokenFields fs

end

end WideColumn.Data
