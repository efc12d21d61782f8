/-
# Declarations as documents

How declarations are read from documents and written to them.  Every record but the batch itself
refuses fields it does not know.
-/
import WideColumn.Declaration
import WideColumn.Document.Record

namespace WideColumn.Declaration

open WideColumn.Document

/-! ## Reading -/

def Clustering.read? (r : Reading) (d : Document) : Option Clustering := do
  let f ← d.record? r ["order", "asc"] true
  return {
    order := ← f.required "order" word?
    ascending := ← f.orElse "asc" boolean? true }

def Sasi.read? (r : Reading) (d : Document) : Option Sasi := do
  let f ← d.record? r ["mode", "analyzed", "analyzer", "case_sensitive", "normalization"] true
  return {
    mode := ← f.orElse "mode" (oneOf? r SasiMode.all SasiMode.name) .prefixes
    analyzed := ← f.orElse "analyzed" boolean? false
    analyzer := ← f.orElse "analyzer" (oneOf? r SasiAnalyzer.all SasiAnalyzer.name) .nonTokenizing
    caseSensitive := ← f.orElse "case_sensitive" boolean? true
    normalization :=
      ← f.orElse "normalization" (oneOf? r Normalization.all Normalization.name) .none }

def Search.read? (r : Reading) (d : Document) : Option Search := do
  let f ← d.record? r ["full_text", "case_sensitive"] true
  return {
    fullText := ← f.orElse "full_text" boolean? false
    caseSensitive := ← f.orElse "case_sensitive" boolean? false }

def Index.read? (r : Reading) (d : Document) : Option Index := do
  let f ← d.record? r ["kind", "name", "using", "sasi", "dse"] true
  return {
    kind := ← f.optional "kind" (oneOf? r IndexKind.all IndexKind.name)
    name := ← f.optional "name" text?
    implementation := ← f.orElse "using" (oneOf? r IndexUsing.all IndexUsing.name) .native
    sasi := ← f.optional "sasi" (Sasi.read? r)
    search := ← f.optional "dse" (Search.read? r) }

def Codec.read? (r : Reading) (d : Document) : Option Codec := do
  let f ← d.record? r ["path", "rust_type"] true
  return {
    path := ← f.required "path" text?
    sourceType := ← f.required "rust_type" text? }

def Enumerated.read? (r : Reading) (d : Document) : Option Enumerated := do
  let f ← d.record? r ["rust_type", "encoding"] true
  return {
    sourceType := ← f.required "rust_type" text?
    encoding := ← f.orElse "encoding" (oneOf? r EnumEncoding.all EnumEncoding.label) .name }

/-- The type of a field kept as JSON text. -/
def readJson? (r : Reading) (d : Document) : Option String := do
  let f ← d.record? r ["rust_type"] true
  f.required "rust_type" text?

def Computed.read? (r : Reading) (d : Document) : Option Computed := do
  let f ← d.record? r ["function", "targets", "alias"] true
  return {
    function := ← f.required "function" text?
    targets := ← f.required "targets" (listOf? text?)
    aliasName := ← f.required "alias" text? }

def Field.read? (r : Reading) (d : Document) : Option Field := do
  let f ← d.record? r ["name", "type", "column", "partition", "clustering", "static", "optional",
    "index", "codec", "enumerated", "json", "computed"] true
  return {
    name := ← f.required "name" text?
    type := ← f.optional "type" text?
    column := ← f.optional "column" text?
    partition := ← f.optional "partition" word?
    clustering := ← f.optional "clustering" (Clustering.read? r)
    isStatic := ← f.orElse "static" boolean? false
    optional := ← f.orElse "optional" boolean? false
    index := ← f.optional "index" (Index.read? r)
    codec := ← f.optional "codec" (Codec.read? r)
    enumerated := ← f.optional "enumerated" (Enumerated.read? r)
    json := ← f.optional "json" (readJson? r)
    computed := ← f.optional "computed" (Computed.read? r) }

def Entity.read? (r : Reading) (d : Document) : Option Entity := do
  let f ← d.record? r ["name", "table", "keyspace", "view_of", "naming", "field"] true
  return {
    name := ← f.required "name" text?
    table := ← f.optional "table" text?
    keyspace := ← f.optional "keyspace" text?
    viewOf := ← f.optional "view_of" text?
    naming := ← f.optional "naming" (oneOf? r Naming.all Naming.name)
    fields := ← f.orElse "field" (listOf? (Field.read? r)) [] }

def TypeField.read? (r : Reading) (d : Document) : Option TypeField := do
  let f ← d.record? r ["name", "type", "column"] true
  return {
    name := ← f.required "name" text?
    type := ← f.required "type" text?
    column := ← f.optional "column" text? }

def UserType.read? (r : Reading) (d : Document) : Option UserType := do
  let f ← d.record? r ["name", "type_name", "keyspace", "field"] true
  return {
    name := ← f.required "name" text?
    typeName := ← f.optional "type_name" text?
    keyspace := ← f.optional "keyspace" text?
    fields := ← f.orElse "field" (listOf? (TypeField.read? r)) [] }

def Parameter.read? (r : Reading) (d : Document) : Option Parameter := do
  let f ← d.record? r ["name", "type"] true
  return { name := ← f.required "name" text?, type := ← f.required "type" text? }

def Function.read? (r : Reading) (d : Document) : Option Function := do
  let f ← d.record? r ["keyspace", "name", "param", "returns", "deterministic"] true
  return {
    keyspace := ← f.optional "keyspace" text?
    name := ← f.required "name" text?
    parameters := ← f.orElse "param" (listOf? (Parameter.read? r)) []
    returns := ← f.required "returns" text?
    deterministic := ← f.orElse "deterministic" boolean? false }

/-- Reads a batch; anything else the document holds is passed over. -/
def read? (r : Reading) (d : Document) : Option Declaration := do
  let f ← d.record? r ["udt", "entity", "function"] false
  return {
    userTypes := ← f.orElse "udt" (listOf? (UserType.read? r)) []
    entities := ← f.orElse "entity" (listOf? (Entity.read? r)) []
    functions := ← f.orElse "function" (listOf? (Function.read? r)) [] }

/-! ## Writing -/

def Clustering.write (c : Clustering) : Document :=
  .table [("order", .integer c.order), ("asc", .boolean c.ascending)]

def Sasi.write (s : Sasi) : Document :=
  .table [("mode", .text s.mode.name), ("analyzed", .boolean s.analyzed),
    ("analyzer", .text s.analyzer.name), ("case_sensitive", .boolean s.caseSensitive),
    ("normalization", .text s.normalization.name)]

def Search.write (s : Search) : Document :=
  .table [("full_text", .boolean s.fullText), ("case_sensitive", .boolean s.caseSensitive)]

def Index.write (i : Index) : Document :=
  .table (someEntry "kind" (.text ∘ IndexKind.name) i.kind ++ someEntry "name" .text i.name
    ++ [("using", .text i.implementation.name)]
    ++ someEntry "sasi" Sasi.write i.sasi ++ someEntry "dse" Search.write i.search)

def Codec.write (c : Codec) : Document :=
  .table [("path", .text c.path), ("rust_type", .text c.sourceType)]

def Enumerated.write (e : Enumerated) : Document :=
  .table [("rust_type", .text e.sourceType), ("encoding", .text e.encoding.label)]

/-- Writes the type of a field kept as JSON text. -/
def writeJson (sourceType : String) : Document :=
  .table [("rust_type", .text sourceType)]

def Computed.write (c : Computed) : Document :=
  .table [("function", .text c.function), ("targets", .list (c.targets.map .text)),
    ("alias", .text c.aliasName)]

def Field.write (f : Field) : Document :=
  .table ([("name", .text f.name)] ++ someEntry "type" .text f.type ++ someEntry "column" .text f.column
    ++ someEntry "partition" (fun (n : Nat) => .integer n) f.partition
    ++ someEntry "clustering" Clustering.write f.clustering
    ++ [("static", .boolean f.isStatic), ("optional", .boolean f.optional)]
    ++ someEntry "index" Index.write f.index ++ someEntry "codec" Codec.write f.codec
    ++ someEntry "enumerated" Enumerated.write f.enumerated ++ someEntry "json" writeJson f.json
    ++ someEntry "computed" Computed.write f.computed)

def Entity.write (e : Entity) : Document :=
  .table ([("name", .text e.name)] ++ someEntry "table" .text e.table
    ++ someEntry "keyspace" .text e.keyspace ++ someEntry "view_of" .text e.viewOf
    ++ someEntry "naming" (.text ∘ Naming.name) e.naming
    ++ [("field", .list (e.fields.map Field.write))])

def TypeField.write (f : TypeField) : Document :=
  .table ([("name", .text f.name), ("type", .text f.type)] ++ someEntry "column" .text f.column)

def UserType.write (u : UserType) : Document :=
  .table ([("name", .text u.name)] ++ someEntry "type_name" .text u.typeName
    ++ someEntry "keyspace" .text u.keyspace ++ [("field", .list (u.fields.map TypeField.write))])

def Parameter.write (p : Parameter) : Document :=
  .table [("name", .text p.name), ("type", .text p.type)]

def Function.write (f : Function) : Document :=
  .table (someEntry "keyspace" .text f.keyspace ++ [("name", .text f.name),
    ("param", .list (f.parameters.map Parameter.write)), ("returns", .text f.returns),
    ("deterministic", .boolean f.deterministic)])

/-- Writes a batch. -/
def write (d : Declaration) : Document :=
  .table [("udt", .list (d.userTypes.map UserType.write)),
    ("entity", .list (d.entities.map Entity.write)),
    ("function", .list (d.functions.map Function.write))]

end WideColumn.Declaration
