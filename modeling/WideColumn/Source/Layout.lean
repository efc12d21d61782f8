/-
# Laying out source

Generated source is one line of text.  Its pieces are set apart by single spaces, except that
none follows an opening round or square bracket and none precedes a closing one; curly brackets
keep their spaces.
-/
import WideColumn.Text.Quoted

namespace WideColumn.Source

/-- Whether no space comes between two neighbours. -/
def touches (before after : String) : Bool :=
  before.endsWith "(" || before.endsWith "[" || after.startsWith ")" || after.startsWith "]"

/-- Two pieces side by side; an empty one counts for nothing. -/
def beside (before after : String) : String :=
  if before.isEmpty then after
  else if after.isEmpty then before
  else if touches before after then before ++ after
  else before ++ " " ++ after

/-- Pieces side by side. -/
def lay (pieces : List String) : String :=
  pieces.foldr beside ""

/-- Pieces between round brackets. -/
def round (pieces : List String) : String := lay ("(" :: pieces ++ [")"])

/-- Pieces between square brackets. -/
def square (pieces : List String) : String := lay ("[" :: pieces ++ ["]"])

/-- Pieces between curly brackets. -/
def curly (pieces : List String) : String := lay ("\x7b" :: pieces ++ ["\x7d"])

/-- Pieces between angle brackets. -/
def angled (pieces : List String) : String := lay ("<" :: pieces ++ [">"])

/-- Items with commas between them. -/
def listed (items : List String) : String := lay (items.intersperse ",")

/-- Items, each with a comma after it. -/
def closed (items : List String) : String := lay (items.flatMap fun i => [i, ","])

/-- A string literal. -/
def literal (s : String) : String := Text.stringLiteral s

/-- A truth value. -/
def truth (b : Bool) : String := toString b

/-- A path inside the library that generated source is for. -/
def core (path : String) : String := ":: keyspace :: core :: " ++ path

/-- A path inside the standard library. -/
def std (path : String) : String := ":: std :: " ++ path

/-- The type of a list of items. -/
def vecType (item : String) : String := lay [std "vec :: Vec", angled [item]]

/-- The type of an optional item. -/
def optionType (item : String) : String := lay [std "option :: Option", angled [item]]

/-- The type of what may fail with the library's error. -/
def resultType (item : String) : String :=
  lay [std "result :: Result", angled [item, ",", core "Error"]]

/-- An optional text. -/
def optionalText : Option String → String
  | some s => lay [std "option :: Option :: Some", round [literal s]]
  | none => std "option :: Option :: None"

/-- A decoration. -/
def decoration (pieces : List String) : String := lay ["#", square pieces]

/-- A documentation line that stands in the generator's own text. -/
def fixedDoc (text : String) : String := decoration ["doc = r\" " ++ text ++ "\""]

/-- A documentation line that is put together. -/
def madeDoc (text : String) : String := decoration ["doc =", literal (" " ++ text)]

/-- The traits that are derived for a type. -/
def derives (traits : List String) : String := decoration ["derive", round [listed traits]]

end WideColumn.Source
