/-
# Codecs

A codec carries a field between the application and the store: it encodes a source as a value and
decodes a value back, and either way may fail.  The codecs of this library are

* the built-in one of a type of application data,
* two for what is enumerated, which store the name of a variant or its place,
* one that keeps anything with a document form as JSON text.

An application may add codecs of its own.
-/
import WideColumn.Data.Type
import WideColumn.Document.Json

namespace WideColumn

/-- Why a value could not be decoded, or a source not encoded. -/
inductive CodecError where
  /-- The value is of a kind that the source type does not take. -/
  | typeMismatch (expected found : String)
  /-- No variant has this name or place. -/
  | unknownVariant (enumeration value : String)
  /-- The text is not JSON, or not the document form of the source type. -/
  | json
  /-- A failure of an application's own codec. -/
  | custom (text : String)
  deriving DecidableEq

/-- The name of the kind of a codec error. -/
def CodecError.name : CodecError → String
  | typeMismatch .. => "TypeMismatch"
  | unknownVariant .. => "UnknownVariant"
  | json => "Json"
  | custom _ => "Custom"

/-- The wording of a codec error. -/
def CodecError.message : CodecError → String
  | typeMismatch expected found =>
    "expected a value decodable as " ++ expected ++ ", found " ++ found
  | unknownVariant enumeration value => "unknown variant '" ++ value ++ "' for " ++ enumeration
  | json => "json codec"
  | custom text => text

/-- A way between sources and stored values. -/
structure Codec (α : Type) where
  encode : α → Except CodecError Value
  decode : Value → Except CodecError α

/-- What is enumerated of a type: its full name, its variants in order, and their names. -/
structure Enumerated (α : Type) where
  name : String
  variants : List α
  nameOf : α → String

namespace Enumerated

variable {α : Type} (e : Enumerated α)

/-- The place of the first variant that equals a source, or the first place if none does. -/
def ordinal [BEq α] (a : α) : Nat := (e.variants.findIdx? (· == a)).getD 0

/-- The first variant with a name. -/
def ofName? (name : String) : Option α := e.variants.find? (e.nameOf · == name)

/-- The variant at a place. -/
def ofOrdinal? (n : Nat) : Option α := e.variants[n]?

end Enumerated

/-- A closed enumeration: its full name and the names of its variants, in order. -/
structure Enumeration where
  name : String
  variants : List String

namespace Enumeration

/-- A variant is its place. -/
abbrev Variant (e : Enumeration) : Type := Fin e.variants.length

/-- The name of a variant. -/
def nameOf (e : Enumeration) (v : e.Variant) : String := e.variants[v]

/-- All variants are enumerated. -/
def enumerated (e : Enumeration) : Enumerated e.Variant where
  name := e.name
  variants := List.finRange e.variants.length
  nameOf := e.nameOf

/-- The first variant with a name. -/
def ofName? (e : Enumeration) : String → Option e.Variant := e.enumerated.ofName?

/-- The variant at a place. -/
def ofOrdinal? (e : Enumeration) : Nat → Option e.Variant := e.enumerated.ofOrdinal?

end Enumeration

/-- How sources of a type are written as documents and read back. -/
structure DocumentForm (α : Type) where
  /-- The full name of the type. -/
  name : String
  write : α → Document
  read? : Document → Option α

namespace Codec

/-- The built-in codec of a type of application data. -/
def native (t : DataType) : Codec Data where
  encode d := .ok d.encode
  decode v :=
    match t.decode? v with
    | some d => .ok d
    | none => .error (.typeMismatch t.name v.typeName)

/-- Stores the name of a variant, as text. -/
def byName {α : Type} (e : Enumerated α) : Codec α where
  encode a := .ok (.text (e.nameOf a))
  decode
    | .text name =>
      match e.ofName? name with
      | some a => .ok a
      | none => .error (.unknownVariant e.name name)
    | v => .error (.typeMismatch e.name v.typeName)

/-- Stores the place of a variant, as a whole number. -/
def byOrdinal {α : Type} [BEq α] (e : Enumerated α) : Codec α where
  encode a :=
    if e.ordinal a < 2147483648 then .ok (.int (Int32.ofNat (e.ordinal a)))
    else .error (.custom "enumeration ordinal exceeds int range")
  decode
    | .int n =>
      match if n.toInt < 0 then none else e.ofOrdinal? n.toInt.toNat with
      | some a => .ok a
      | none => .error (.unknownVariant e.name (toString n.toInt))
    | v => .error (.typeMismatch e.name v.typeName)

/-- The codec of a closed enumeration by the names of its variants. -/
def enumName (e : Enumeration) : Codec e.Variant := byName e.enumerated

/-- The codec of a closed enumeration by the places of its variants. -/
def enumOrdinal (e : Enumeration) : Codec e.Variant := byOrdinal e.enumerated

/-- Stores the JSON text of the document form; what the form passes over may be malformed. -/
def json {α : Type} (form : DocumentForm α) : Codec α where
  encode a := .ok (.text (Document.Json.text (form.write a)))
  decode
    | .text s =>
      match (Document.Json.outline? s).bind form.read? with
      | some a => .ok a
      | none => .error .json
    | v => .error (.typeMismatch form.name v.typeName)

end Codec

end WideColumn
