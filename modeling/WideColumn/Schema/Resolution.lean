/-
# Codec resolution

Every field is carried by one strategy: the one its declaration asks for, or else the built-in
one of its shape, or else, for a lone user type that nobody declared, JSON text if an application
type of that name is registered for it.

Set elements and map keys have to be ordered, so no float may be reached from them.
-/
import WideColumn.Schema.Model

namespace WideColumn.Schema

open WideColumn.Text

/-- Why no strategy carries a shape. -/
inductive ResolveError where
  | unsupported (type : String)
  | unorderedElement (type : String)
  | unknownUdt (name : String)
  deriving DecidableEq

/-- The wording of a resolution error. -/
def ResolveError.message : ResolveError → String
  | unsupported type => "unsupported type '" ++ type ++ "', provide an explicit codec"
  | unorderedElement type =>
    "'" ++ type ++ "' has no total order and cannot be a set element or map key"
  | unknownUdt name => "unknown user type '" ++ name ++ "'"

/-! ## Order -/

mutual

/-- Whether the leaves of a shape all pass a test; counters always do. -/
def leavesPass (scalar : Scalar → Bool) (udt : String → Bool) : Shape → Bool
  | .scalar _ s => scalar s
  | .counter _ => true
  | .list _ e | .set _ e => leavesPass scalar udt e
  | .map _ k v => leavesPass scalar udt k && leavesPass scalar udt v
  | .tuple _ es => leavesPassAll scalar udt es
  | .udt _ name => udt name

/-- Whether the leaves of a row of shapes all pass a test. -/
def leavesPassAll (scalar : Scalar → Bool) (udt : String → Bool) : List Shape → Bool
  | [] => true
  | s :: ss => leavesPass scalar udt s && leavesPassAll scalar udt ss

end

/-- Whether no float is reached from a shape by way of at most `levels` user types. -/
def orderableWithin (types : List UserType) : Nat → Shape → Bool
  | 0, _ => false
  | levels + 1, s =>
    leavesPass (!·.isFloat)
      (fun name => (userType? types name).any fun u =>
        u.fields.all fun f => orderableWithin types levels f.shape) s

/-- Whether the values of a shape have a total order. -/
def isOrderable (types : List UserType) (s : Shape) : Bool :=
  orderableWithin types (types.length + 2) s

/-- Refuses a shape without a total order. -/
def requireOrderable (types : List UserType) (s : Shape) : Except ResolveError Unit :=
  if isOrderable types s then .ok () else .error (.unorderedElement s.text)

/-! ## Built-in types -/

/-- Where generated source finds the packages it needs. -/
def reexports : String := "::keyspace::__reexports"

/-- The most items of a tuple that has a built-in type. -/
def longestTuple : Nat := 6

/-- The built-in type of a scalar. -/
def scalarType : Scalar → Except ResolveError String
  | .ascii | .text | .varchar => .ok "String"
  | .boolean => .ok "bool"
  | .tinyint => .ok "i8"
  | .smallint => .ok "i16"
  | .int => .ok "i32"
  | .bigint => .ok "i64"
  | .float => .ok "f32"
  | .double => .ok "f64"
  | .blob => .ok "::std::vec::Vec<u8>"
  | .uuid | .timeuuid => .ok (reexports ++ "::uuid::Uuid")
  | .timestamp => .ok (reexports ++ "::chrono::DateTime<" ++ reexports ++ "::chrono::Utc>")
  | .date => .ok (reexports ++ "::chrono::NaiveDate")
  | .time => .ok (reexports ++ "::chrono::NaiveTime")
  | .inet => .ok "::std::net::IpAddr"
  | s@(.varint) | s@(.decimal) | s@(.duration) => .error (.unsupported s.name)

/-- A tuple type. -/
def tupleType : List String → String
  | [single] => "(" ++ single ++ ",)"
  | several => "(" ++ ", ".intercalate several ++ ")"

mutual

/-- The built-in type of a shape. -/
def nativeType (types : List UserType) : Shape → Except ResolveError String
  | .scalar _ s => scalarType s
  | .counter _ => .ok "i64"
  | .list _ e => do
    return "::std::vec::Vec<" ++ (← nativeType types e) ++ ">"
  | .set _ e => do
    requireOrderable types e
    return "::std::collections::BTreeSet<" ++ (← nativeType types e) ++ ">"
  | .map _ k v => do
    requireOrderable types k
    let key ← nativeType types k
    let value ← nativeType types v
    return "::std::collections::BTreeMap<" ++ key ++ ", " ++ value ++ ">"
  | .tuple p es =>
    if es.isEmpty || longestTuple < es.length then .error (.unsupported (Shape.tuple p es).text)
    else (nativeTypes types es).map tupleType
  | .udt _ name =>
    match userType? types name with
    | some u => .ok u.name
    | none => .error (.unknownUdt name)

/-- The built-in types of a row of shapes. -/
def nativeTypes (types : List UserType) : List Shape → Except ResolveError (List String)
  | [] => .ok []
  | s :: ss => do
    let t ← nativeType types s
    let ts ← nativeTypes types ss
    return t :: ts

end

/-! ## Strategies -/

namespace Strategy

/-- The type of the sources. -/
def sourceType : Strategy → String
  | explicit _ t | enumerated t _ | native t | json t => t

/-- The type of the codec. -/
def codecType : Strategy → String
  | explicit path _ => path
  | enumerated t .name => "::keyspace::core::codec::EnumNameCodec<" ++ t ++ ">"
  | enumerated t .ordinal => "::keyspace::core::codec::EnumOrdinalCodec<" ++ t ++ ">"
  | native t => "::keyspace::core::codec::NativeCodec<" ++ t ++ ">"
  | json t => "::keyspace::core::codec::JsonCodec<" ++ t ++ ">"

/-- The type of the stored column where it is not the declared one. -/
def storedAs : Strategy → Option String
  | enumerated _ .name | json _ => some "text"
  | enumerated _ .ordinal => some "int"
  | explicit .. | native _ => none

end Strategy

/-- Application types that may be kept as JSON text, by the name they are written under; of
several entries for one name the first counts. -/
structure Registry where
  jsonTypes : List (String × String) := []

namespace Registry

/-- Registers a type; the case of ASCII letters in its name does not count. -/
def withJsonType (r : Registry) (name sourceType : String) : Registry :=
  ⟨(lowerAscii name, sourceType) :: r.jsonTypes⟩

/-- Registers types one after the other. -/
def ofTypes (types : List (String × String)) : Registry :=
  types.foldl (fun r t => r.withJsonType t.1 t.2) {}

/-- The type registered under a name. -/
def jsonType? (r : Registry) (name : String) : Option String :=
  r.jsonTypes.lookup (lowerAscii name)

/-- The strategy of a field. -/
def resolve (r : Registry) (types : List UserType) (f : Field) : Except ResolveError Strategy :=
  match f.codec with
  | some s => .ok s
  | none =>
    match nativeType types f.shape with
    | .ok t => .ok (.native t)
    | .error e =>
      let lone := f.shape.udtName?.filter fun name => (userType? types name).isNone
      match lone.bind r.jsonType? with
      | some t => .ok (.json t)
      | none => .error e

end Registry

end WideColumn.Schema
