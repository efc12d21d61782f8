/-
# Names

How the name of a field turns into the name of a column, which words no name may be, and what an
identifier looks like.
-/
import WideColumn.Declaration
import WideColumn.Text.Words

namespace WideColumn

open WideColumn.Text

/-- Whether two neighbours in a row are both a given character. -/
def hasDoubled (c : Char) : List Char → Bool
  | a :: b :: rest => (a == c && b == c) || hasDoubled c (b :: rest)
  | _ => false

/-- Lower-case ASCII words joined by single underscores; digits may follow a letter. -/
def isSnakeCase (ident : String) : Bool :=
  let cs := ident.toList
  cs.head?.any Char.isLower && cs.getLast? != some '_' && !hasDoubled '_' cs
    && cs.all fun c => c.isLower || c.isDigit || c == '_'

/-- The column that a field is kept in. -/
def Naming.column (naming : Naming) (field : String) : String :=
  match naming with
  | .snakeCase => if isSnakeCase field then field else Text.snakeCase field
  | .lowerCase => lowerAscii field
  | .caseSensitive => "\"" ++ field ++ "\""

/-- Words of the query language that cannot stand for a name unless they are quoted. -/
def reservedWords : List String :=
  ["add", "allow", "alter", "and", "apply", "asc", "authorize", "batch", "begin", "by",
    "columnfamily", "create", "delete", "desc", "describe", "drop", "entries", "execute", "from",
    "full", "grant", "if", "in", "index", "infinity", "insert", "into", "is", "keyspace", "limit",
    "materialized", "modify", "nan", "norecursive", "not", "null", "of", "on", "or", "order",
    "primary", "rename", "replace", "revoke", "schema", "select", "set", "table", "to", "token",
    "truncate", "unlogged", "update", "use", "using", "view", "where", "with"]

/-- Whether a name is reserved; the case of ASCII letters does not count. -/
def isReservedWord (name : String) : Bool :=
  reservedWords.contains (lowerAscii name)

/-- Words that cannot name an item of generated source. -/
def sourceKeywords : List String :=
  ["abstract", "as", "async", "await", "become", "box", "break", "const", "continue", "crate",
    "do", "dyn", "else", "enum", "extern", "false", "final", "fn", "for", "gen", "if", "impl",
    "in", "let", "loop", "macro", "match", "mod", "move", "mut", "override", "priv", "pub", "ref",
    "return", "self", "Self", "static", "struct", "super", "trait", "true", "try", "type",
    "typeof", "unsafe", "unsized", "use", "virtual", "where", "while", "yield"]

/-- The longest name of an entity, a user type or a field. -/
def longestName : Nat := 48

/-- What is wrong with a name. -/
inductive NameFault where
  | empty
  | notAscii
  | tooLong
  | badCharacter
  | notCapitalized
  | notSnakeCase
  deriving DecidableEq

/-- The wording of a fault. -/
def NameFault.reason : NameFault → String
  | empty => "must not be empty"
  | notAscii => "must be ASCII"
  | tooLong => "is too long"
  | badCharacter => "must start with a letter and hold only letters, digits and underscores"
  | notCapitalized => "type names start with an uppercase letter"
  | notSnakeCase => "field names must be snake_case"

/-- What keeps a name from being an identifier. -/
def nameFault? (name : String) : Option NameFault :=
  let cs := name.toList
  if cs.isEmpty then some .empty
  else if cs.any fun c => 128 ≤ c.toNat then some .notAscii
  else if longestName < cs.length then some .tooLong
  else if !cs.head?.any Char.isAlpha || cs.any fun c => !(c.isAlphanum || c == '_') then
    some .badCharacter
  else none

end WideColumn
