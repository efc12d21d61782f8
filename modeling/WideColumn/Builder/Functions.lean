/-
# User functions in source

One registry with the signatures of all user functions and a method for each that makes a call.
Functions that share a name are told apart by numbers, in the order of their declarations.
-/
import WideColumn.Builder.Plan

namespace WideColumn.Builder

open WideColumn.Source

/-- The name of a function's method; `number` tells functions of one name apart. -/
def functionName (f : Schema.Function) (number : Option Nat) : Except GenerationError String :=
  let base := Text.snakeCase f.name
  match number with
  | none => name base
  | some n =>
    let overloaded := base ++ "_" ++ toString n
    if isName overloaded then .ok overloaded else .error (.overload overloaded)

/-- A parameter of a function's method. -/
def functionParameter (schema : Schema) (parameter : String × Shape) :
    Except GenerationError (String × String) := do
  let ident ← name (Text.snakeCase parameter.1)
  let type ← builtInType schema.userTypes parameter.2
  return (ident, type)

/-- The method that makes a call of a function. -/
def functionMember (schema : Schema) (f : Schema.Function) (number : Option Nat) :
    Except GenerationError Member := do
  let ident ← functionName f number
  let parameters ← f.parameters.mapM (functionParameter schema)
  let returns := core "query :: function :: FunctionCall"
  return ⟨ident, returns,
    lay [madeDoc ("\x60" ++ f.signature ++ "\x60"), decoration ["must_use"], "pub fn", ident,
      round [listed (parameters.map fun (parameter, type) =>
        typed (parameter, lay [core "query :: function :: FunctionArg", angled [type]]))],
      "->", returns,
      curly [returns, ":: new", round [optionalText f.keyspace, ",", literal f.name],
        lay (parameters.map fun (parameter, _) => lay [". arg", round [parameter]])]]⟩

/-- The signature of a function as an expression. -/
def signatureText (f : Schema.Function) : String :=
  lay [core "query :: function :: FunctionSignature",
    curly ["keyspace :", optionalText f.keyspace, ", name :", literal f.name, ", params : &",
      square [listed (f.parameters.map fun (parameter, s) =>
        round [literal parameter, ",", literal s.text])],
      ", returns :", literal f.returns.text, ", deterministic :", truth f.deterministic, ","]]

/-- The methods of functions in their order; `all` holds the names of all functions, and `seen`
those that came before. -/
def functionMembers (schema : Schema) (all : List String) :
    (seen : List String) → List Schema.Function → Except GenerationError (List Member)
  | _, [] => .ok []
  | seen, f :: fs => do
    let number := if 1 < all.count f.name then some (seen.count f.name) else none
    let member ← functionMember schema f number
    let others ← functionMembers schema all (f.name :: seen) fs
    return member :: others

/-- The registry, if there are functions. -/
def functionItems (schema : Schema) : Except GenerationError (List Item) :=
  if schema.functions.isEmpty then .ok []
  else do
    let members ← functionMembers schema (schema.functions.map (·.name)) [] schema.functions
    return [
      .structure "FunctionRegistry" (lay [
        fixedDoc "Typed builders for the declared user functions.",
        "pub struct FunctionRegistry ;"]),
      .methods "FunctionRegistry" "impl FunctionRegistry"
        ["pub const SIGNATURES : & 'static", square [core "query :: function :: FunctionSignature"],
          "= &", square [listed (schema.functions.map signatureText)], ";"]
        members]

end WideColumn.Builder
