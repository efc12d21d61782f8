/-
# Reading type expressions

The grammar, with ASCII white space allowed around every token and without regard to the case of
keywords and scalar names:

    T ::= counter
        | list<T> | set<T> | frozen<T> | indexed<T>
        | map<T, T>
        | tuple<T, …, T>
        | any other run of ASCII letters, digits and underscores

A failure tells what was expected and where, counted in bytes from the start of the text.
-/
import WideColumn.Type.Expression

namespace WideColumn.TypeExpr

/-- Why a text is no type, and what was left of it at that place. -/
structure Failure where
  reason : String
  rest : List Char

/-- Why a text is no type. -/
structure ParseError where
  input : String
  position : Nat
  reason : String
  deriving DecidableEq

/-- The wording of a parse error. -/
def ParseError.message (e : ParseError) : String :=
  e.reason ++ " at position " ++ toString e.position ++ " in '" ++ e.input ++ "'"

/-- The white space between tokens. -/
def isBlank (c : Char) : Bool :=
  c == ' ' || c == '\t' || c == '\n' || c == '\x0c' || c == '\r'

/-- What is left after white space. -/
def skip (cs : List Char) : List Char := cs.dropWhile isBlank

/-- The characters of a name. -/
def isNameChar (c : Char) : Bool :=
  c.isAlphanum || c == '_'

/-- What is left after an expected mark. -/
def skipMark (mark : Char) (cs : List Char) : Except Failure (List Char) :=
  match skip cs with
  | [] => .error ⟨"expected '" ++ mark.toString ++ "'", []⟩
  | c :: rest =>
    if c == mark then .ok rest else .error ⟨"expected '" ++ mark.toString ++ "'", c :: rest⟩

/-- A name in front of a text. -/
def scanName (cs : List Char) : Except Failure (String × List Char) :=
  let cs := skip cs
  let name := cs.takeWhile isNameChar
  if name.isEmpty then .error ⟨"expected a type name", cs⟩
  else .ok (String.ofList name, cs.drop name.length)

/-- The one argument of a constructor; `rest` is what stood after the constructor's name. -/
def unary (name : String) (rest : List Char) (build : TypeExpr → TypeExpr) :
    List TypeExpr × List Char → Except Failure (TypeExpr × List Char)
  | ([e], after) => .ok (build e, after)
  | _ => .error ⟨name ++ " takes exactly one type argument", rest⟩

/-- The two arguments of a map. -/
def binary (rest : List Char) :
    List TypeExpr × List Char → Except Failure (TypeExpr × List Char)
  | ([k, v], after) => .ok (.map k v, after)
  | _ => .error ⟨"map takes exactly two type arguments", rest⟩

/-- A name that takes no arguments: a scalar, or else a user type. -/
def plain (name : String) : TypeExpr :=
  match Scalar.ofName? name with
  | some s => .scalar s
  | none => .udt name

mutual

/-- A type in front of a text; `fuel` bounds the steps. -/
def scan : Nat → List Char → Except Failure (TypeExpr × List Char)
  | 0, cs => .error ⟨"expected a type name", cs⟩
  | fuel + 1, cs => do
    let (name, rest) ← scanName cs
    match Text.lowerAscii name with
    | "counter" => .ok (.counter, rest)
    | "list" => (scanArguments fuel rest).bind (unary "list" rest .list)
    | "set" => (scanArguments fuel rest).bind (unary "set" rest .set)
    | "frozen" => (scanArguments fuel rest).bind (unary "frozen" rest .frozen)
    | "indexed" => (scanArguments fuel rest).bind (unary "indexed" rest .indexed)
    | "map" => (scanArguments fuel rest).bind (binary rest)
    | "tuple" => (scanArguments fuel rest).map fun (es, after) => (.tuple es, after)
    | _ => .ok (plain name, rest)

/-- Arguments between angle brackets. -/
def scanArguments : Nat → List Char → Except Failure (List TypeExpr × List Char)
  | 0, cs => .error ⟨"expected a type name", cs⟩
  | fuel + 1, cs => do
    let rest ← skipMark '<' cs
    scanMore fuel rest

/-- Arguments up to the closing bracket, at least one. -/
def scanMore : Nat → List Char → Except Failure (List TypeExpr × List Char)
  | 0, cs => .error ⟨"expected a type name", cs⟩
  | fuel + 1, cs => do
    let (e, rest) ← scan fuel cs
    match skip rest with
    | ',' :: rest => (scanMore fuel rest).map fun (es, after) => (e :: es, after)
    | '>' :: rest => .ok ([e], rest)
    | rest => .error ⟨"expected ',' or '>'", rest⟩

end

/-- The whole of a text as a type. -/
def scanAll (cs : List Char) : Except Failure TypeExpr := do
  let (e, rest) ← scan (3 * cs.length + 1) cs
  match skip rest with
  | [] => .ok e
  | rest => .error ⟨"unexpected trailing input", rest⟩

/-- The type a text writes. -/
def parse (s : String) : Except ParseError TypeExpr :=
  (scanAll s.toList).mapError fun f =>
    ⟨s, s.utf8ByteSize - (String.ofList f.rest).utf8ByteSize, f.reason⟩

end WideColumn.TypeExpr
