/-
# Two worked applications

The first keeps the users of a site, what sensors read and how often pages were hit.  The second
has an entity with one field of each kind, one with quoted columns, and one with counters.
-/
import WideColumn.Application
import WideColumn.Document.Record
import WideColumn.Settings

namespace WideColumn.Sample

open WideColumn.Declaration WideColumn.Document

/-! ## Users of a site -/

/-- The declarations of the first application. -/
def siteDeclaration : Declaration where
  userTypes := [(UserType.mk "Address" none none []).addField "city" "text"
    |>.addField "zip" "int"]
  entities := [
    { name := "User"
      table := some "users"
      fields := [
        (Field.typed "id" "bigint").inPartition 0,
        (Field.typed "clust1" "int").inClustering 0 true,
        (Field.typed "clust2" "int").inClustering 1 true,
        .typed "name" "text",
        (Field.typed "email" "text").asOptional.withIndex (.ofSasi (.ofMode .contains)),
        (Field.typed "tags" "set<text>").withIndex {},
        (Field.typed "home" "frozen<address>").asOptional,
        (Field.untyped "status").asEnumerated "crate::Status" .name,
        (Field.typed "owner" "text").asStatic.asOptional] },
    { name := "UserByName"
      viewOf := some "User"
      fields := [
        (Field.typed "name" "text").inPartition 0,
        (Field.typed "id" "bigint").inClustering 0 true,
        (Field.typed "clust1" "int").inClustering 1 true,
        (Field.typed "clust2" "int").inClustering 2 true,
        .typed "tags" "set<text>",
        (Field.typed "home" "frozen<address>").asOptional] },
    { name := "Reading"
      table := some "readings"
      fields := [
        (Field.typed "id" "bigint").inPartition 0,
        (Field.typed "clust1" "text").inClustering 0 true,
        (Field.typed "clust2" "int").inClustering 1 false,
        .typed "value" "text"] },
    { name := "PageHits"
      table := some "page_hits"
      fields := [(Field.typed "page" "text").inPartition 0, .typed "hits" "counter"] }]
  functions := [
    { name := "score", returns := "int", parameters := [⟨"points", "int"⟩],
      deterministic := true }]

/-- The settings of the first application. -/
def siteSettings : Settings :=
  { profile := .cassandra37, keyspace := some "app" }

/-- Whether a user may do anything; `package` is the package that declares it. -/
def status (package : String) : Enumeration :=
  ⟨package ++ "::Status", ["ACTIVE", "SUSPENDED", "CLOSED"]⟩

/-- The first application. -/
def site (package : String) : Application where
  module := package ++ "::generated"
  enumerations := [("crate::Status", status package)]

/-! ## One field of each kind -/

/-- The declarations of the second application. -/
def labDeclaration : Declaration where
  userTypes := [
    { name := "Place", keyspace := some "geo"
      fields := [⟨"lat", "double", none⟩, ⟨"label", "text", some "lbl"⟩,
        ⟨"codes", "frozen<list<int>>", none⟩] }]
  entities := [
    { name := "Sample"
      keyspace := some "lab"
      fields := [
        (Field.typed "tenant" "text").inPartition 0,
        (Field.typed "bucket" "int").inPartition 1,
        (Field.typed "day" "date").inClustering 0 true,
        (Field.typed "seq" "bigint").inClustering 1 false,
        ((Field.untyped "grade").asEnumerated "crate::types::Level" .name).inClustering 2 true,
        (Field.typed "site" "frozen<Place>").asStatic.asOptional,
        .typed "flag" "boolean",
        (Field.typed "tiny" "tinyint").asOptional,
        (Field.typed "small" "smallint").asOptional,
        (Field.typed "ratio" "float").asOptional,
        (Field.typed "score" "double").asOptional,
        (Field.typed "raw" "blob").asOptional,
        (Field.typed "uid" "uuid").asOptional,
        (Field.typed "at" "timestamp").asOptional,
        (Field.typed "clock" "time").asOptional,
        (Field.typed "addr" "inet").asOptional,
        .typed "tags" "set<text>",
        .typed "marks" "list<int>",
        .typed "attrs" "map<text, frozen<list<int>>>",
        (Field.typed "pair" "frozen<tuple<int, text>>").asOptional,
        ((Field.untyped "level").asEnumerated "crate::types::Level" .ordinal).asOptional,
        ((Field.untyped "prefs").asJson "crate::types::Prefs").asOptional,
        (Field.typed "price" "money").asOptional,
        ((Field.typed "code" "text").withCodec "crate::types::UpperCodec" "String").asOptional,
        ((Field.typed "flag_written" "bigint").asComputed "writetime" ["flag"] "flag_wt").asOptional
        ] },
    { name := "Quoted"
      naming := some .caseSensitive
      fields := [
        (Field.typed "user_id" "bigint").inPartition 0,
        ((Field.typed "nick" "text").withColumn "NickName").asOptional,
        .typed "notes" "list<text>"] },
    { name := "Hits"
      keyspace := some "lab"
      table := some "hit_counts"
      fields := [
        (Field.typed "page" "text").inPartition 0,
        (Field.typed "day" "date").inClustering 0 false,
        (Field.typed "total" "counter").asStatic,
        .typed "hits" "counter"] }]

/-- The settings of the second application. -/
def labSettings : Settings :=
  { profile := .dse51, jsonTypes := [("Money", "crate::types::Money")] }

/-- Three levels. -/
def level (package : String) : Enumeration :=
  ⟨package ++ "::types::Level", ["LOW", "MID", "HIGH"]⟩

/-- How a screen looks and how loud it is. -/
structure Prefs where
  theme : String
  volume : Nat

/-- Preferences as a document. -/
def prefsForm (package : String) : DocumentForm Prefs where
  name := package ++ "::types::Prefs"
  write p := .table [("theme", .text p.theme), ("volume", .integer p.volume)]
  read? d := do
    let f ← d.record? .strict ["theme", "volume"] false
    let theme ← f.required "theme" text?
    let volume ← f.required "volume" (integerIn? 0 255)
    return ⟨theme, volume.toNat⟩

/-- A whole number of sixty-four bits. -/
def whole? : Document → Option Int :=
  integerIn? (-9223372036854775808) 9223372036854775807

/-- An amount of money in hundredths, as a document. -/
def moneyForm (package : String) : DocumentForm Int where
  name := package ++ "::types::Money"
  write cents := .table [("cents", .integer cents)]
  read? d := do
    let f ← d.record? .strict ["cents"] false
    f.required "cents" whole?

/-- A row of whole numbers as a document. -/
def integersForm : DocumentForm (List Int) where
  name := (DataType.list .bigint).name
  write ns := .list (ns.map .integer)
  read? d := listOf? whole? d

/-- Stores texts without lower-case ASCII letters, and takes any text. -/
def upperCodec : Codec String where
  encode s :=
    if s.toList.any Char.isLower then .error (.custom ("not upper case: " ++ s)) else .ok (.text s)
  decode
    | .text s => .ok s
    | v => .error (.typeMismatch DataType.text.name v.typeName)

/-- The second application. -/
def lab (package : String) : Application where
  module := package ++ "::generated"
  enumerations := [("crate::types::Level", level package)]
  jsonTypes := [
    ("crate::types::Prefs", ⟨Prefs, .json (prefsForm package)⟩),
    ("crate::types::Money", ⟨Int, .json (moneyForm package)⟩)]
  codecs := [("crate::types::UpperCodec", ⟨String, upperCodec⟩)]

/-! ## Mappings -/

/-- The mapping of an entity of the first application. -/
def siteMapping? (app : Application) (entity : String) : Option Mapping :=
  (siteSettings.load siteDeclaration).toOption.bind (·.mapping? app entity)

/-- The mapping of an entity of the second application. -/
def labMapping? (app : Application) (entity : String) : Option Mapping :=
  (labSettings.load labDeclaration).toOption.bind (·.mapping? app entity)

end WideColumn.Sample
