/-
# Records in documents

Reading a record with known fields from a document: a table of its fields, or a list of them in
their order.  A field counts once; whether unknown fields are passed over or refused is up to the
record.  Notations differ in small points, which a `Reading` gathers.  A field may be required, or optional (missing or null), or have a value that stands for
it when it is missing.
-/
import WideColumn.Document

namespace WideColumn.Document

/-- The fields found, by name. -/
abbrev Found := List (String × Document)

/-- How a notation reads records. -/
structure Reading where
  /-- Whether a list may hold more than the fields of a record; the rest is then passed over. -/
  longer : Bool
  /-- Which documents hold nothing, so that a name may be written as a table with the name alone
  and such a document as its value. -/
  isNothing : Document → Bool

namespace Reading

/-- Lists hold no more than the fields, and null alone holds nothing. -/
def strict : Reading where
  longer := false
  isNothing
    | null => true
    | _ => false

/-- Like `strict`, but an empty table, too, holds nothing. -/
def withEmptyTables : Reading where
  longer := false
  isNothing
    | null | table [] => true
    | _ => false

/-- Lists may go on, and an empty table or list holds nothing. -/
def lenient : Reading where
  longer := true
  isNothing
    | null | table [] | list [] => true
    | _ => false

end Reading

/-- The fields of a record among those known; `closed` refuses unknown ones. -/
def record? (r : Reading) (known : List String) (closed : Bool) : Document → Option Found
  | table es =>
    let found := es.filter fun e => known.contains e.1
    let repeated := known.any fun k => 1 < found.countP (·.1 == k)
    if repeated || (closed && found.length != es.length) then none else some found
  | list ds => if !r.longer && known.length < ds.length then none else some (known.zip ds)
  | _ => none

namespace Found

variable {α : Type}

/-- A field that must be there. -/
def required (f : Found) (key : String) (read : Document → Option α) : Option α :=
  (f.lookup key).bind read

/-- A field that may be missing or null. -/
def optional (f : Found) (key : String) (read : Document → Option α) : Option (Option α) :=
  match f.lookup key with
  | none | some .null => some none
  | some d => (read d).map some

/-- A field with a value that stands for it when it is missing. -/
def orElse (f : Found) (key : String) (read : Document → Option α) (value : α) : Option α :=
  match f.lookup key with
  | none => some value
  | some d => read d

end Found

/-- The items of a list, each read. -/
def listOf? {α : Type} (read : Document → Option α) (d : Document) : Option (List α) :=
  d.items?.bind fun ds => ds.mapM read

/-- One of a closed set of names; a table with the name alone and nothing in it will do. -/
def oneOf? {α : Type} (r : Reading) (all : List α) (name : α → String) : Document → Option α
  | text s => all.find? (name · == s)
  | table [(s, d)] => if r.isNothing d then all.find? (name · == s) else none
  | _ => none

/-- An entry that is left out when there is no value. -/
def someEntry {α : Type} (key : String) (write : α → Document) : Option α → List (String × Document)
  | none => []
  | some a => [(key, write a)]

end WideColumn.Document
