/-
# Which names the statements of a schema write

A statement is a row of PIECES, fixed text and names, written one after the other.  A name is that
of a type, of a type's field, of a table or of a column; a keyspace and the name of an index are
text here.  `Creation.pieces` takes each statement apart, and `render_pieces` puts it together
again.

The names in the statements of an accepted batch come from few places (`written_iff`): its user
types and their fields, its tables and their stored columns.  Whatever else names one of these, a
key, an index, the select of a view or the type of a column, repeats a name from there.  The one
exception is a lone type that nobody declared and that a codec of the application stores as it is
written.
-/
import WideColumn.Proofs.Schema.Dependencies
import WideColumn.Proofs.Schema.OwnColumns

namespace WideColumn.Schema

variable {d : Declaration} {registry : Registry} {defaults : Defaults} {s : Schema}
  {e v b : Entity} {f : Field} {u : UserType} {n : String}

/-! ## 1. Pieces -/

/-- A piece of a statement. -/
inductive Piece where
  | text (s : String)
  /-- The name of a type, of a type's field, of a table or of a column. -/
  | name (s : String)

/-- Pieces written one after the other. -/
def render : List Piece → String
  | [] => ""
  | .text s :: ps | .name s :: ps => s ++ render ps

/-- The names among pieces. -/
def namesOf : List Piece → List String
  | [] => []
  | .text _ :: ps => namesOf ps
  | .name s :: ps => s :: namesOf ps

/-- Rows of pieces with a text between them. -/
def joined (separator : String) : List (List Piece) → List Piece
  | [] => []
  | [ps] => ps
  | ps :: next :: rows => ps ++ .text separator :: joined separator (next :: rows)

@[simp] theorem render_nil : render [] = "" := rfl

@[simp] theorem render_text (t : String) (ps : List Piece) :
    render (.text t :: ps) = t ++ render ps := rfl

@[simp] theorem render_name (t : String) (ps : List Piece) :
    render (.name t :: ps) = t ++ render ps := rfl

@[simp] theorem render_append (ps qs : List Piece) :
    render (ps ++ qs) = render ps ++ render qs := by
  induction ps with
  | nil => simp
  | cons p ps ih => cases p <;> simp [ih, String.append_assoc]

@[simp] theorem render_joined (separator : String) :
    ∀ rows : List (List Piece), render (joined separator rows) =
      separator.intercalate (rows.map render)
  | [] => by simp [joined]
  | [ps] => by simp [joined]
  | ps :: next :: rows => by
    have ih := render_joined separator (next :: rows)
    simp only [List.map_cons] at ih
    simp only [joined, render_append, render_text, ih, List.map_cons,
      String.intercalate_cons_cons, String.append_assoc]

@[simp] theorem namesOf_nil : namesOf [] = [] := rfl

@[simp] theorem namesOf_text (t : String) (ps : List Piece) :
    namesOf (.text t :: ps) = namesOf ps := rfl

@[simp] theorem namesOf_name (t : String) (ps : List Piece) :
    namesOf (.name t :: ps) = t :: namesOf ps := rfl

@[simp] theorem namesOf_append (ps qs : List Piece) :
    namesOf (ps ++ qs) = namesOf ps ++ namesOf qs := by
  induction ps with
  | nil => rfl
  | cons p ps ih => cases p <;> simp [ih]

@[simp] theorem namesOf_joined (separator : String) :
    ∀ rows : List (List Piece), namesOf (joined separator rows) = rows.flatMap namesOf
  | [] => rfl
  | [ps] => by simp [joined]
  | ps :: next :: rows => by
    have ih := namesOf_joined separator (next :: rows)
    simp only [joined, namesOf_append, namesOf_text, ih, List.flatMap_cons]

/-! ## 2. Types -/

/-- Puts `frozen` around pieces where freezing begins. -/
def freezePieces (frozen outside : Bool) (ps : List Piece) : List Piece :=
  if frozen && !outside then .text "frozen<" :: (ps ++ [.text ">"]) else ps

theorem render_freezePieces (frozen outside : Bool) (ps : List Piece) :
    render (freezePieces frozen outside ps) = Shape.freezeText frozen outside (render ps) := by
  rw [freezePieces, Shape.freezeText]
  split <;> simp [String.append_assoc]

@[simp] theorem namesOf_freezePieces (frozen outside : Bool) (ps : List Piece) :
    namesOf (freezePieces frozen outside ps) = namesOf ps := by
  rw [freezePieces]
  split <;> simp

mutual

/-- The pieces of a shape's type, inside a frozen value or not. -/
def shapePieces (outside : Bool) : Shape → List Piece
  | .scalar _ s => [.text s.name]
  | .counter _ => [.text "counter"]
  | .list p e => freezePieces p.frozen outside
      (.text "list<" :: (shapePieces p.frozen e ++ [.text ">"]))
  | .set p e => freezePieces p.frozen outside
      (.text "set<" :: (shapePieces p.frozen e ++ [.text ">"]))
  | .map p k v => freezePieces p.frozen outside
      (.text "map<" :: (shapePieces p.frozen k ++ .text ", " ::
        (shapePieces p.frozen v ++ [.text ">"])))
  | .tuple p es => freezePieces p.frozen outside
      (.text "tuple<" :: (joined ", " (shapesPieces p.frozen es) ++ [.text ">"]))
  | .udt p name => freezePieces p.frozen outside [.name name]

/-- The pieces of the types of a row of shapes. -/
def shapesPieces (outside : Bool) : List Shape → List (List Piece)
  | [] => []
  | s :: ss => shapePieces outside s :: shapesPieces outside ss

end

mutual

/-- The pieces of a shape's type write the type. -/
theorem render_shapePieces (outside : Bool) : (s : Shape) →
    render (shapePieces outside s) = s.textIn outside
  | .scalar _ _ | .counter _ => by simp [shapePieces, Shape.textIn]
  | .list p e | .set p e => by
    simp [shapePieces, Shape.textIn, render_freezePieces, render_shapePieces p.frozen e,
      String.append_assoc]
  | .map p k v => by
    simp [shapePieces, Shape.textIn, render_freezePieces, render_shapePieces p.frozen k,
      render_shapePieces p.frozen v, String.append_assoc]
  | .tuple p es => by
    simp [shapePieces, Shape.textIn, render_freezePieces, render_shapesPieces p.frozen es,
      String.append_assoc]
  | .udt p name => by simp [shapePieces, Shape.textIn, render_freezePieces]

theorem render_shapesPieces (outside : Bool) : (ss : List Shape) →
    (shapesPieces outside ss).map render = Shape.textsIn outside ss
  | [] => rfl
  | s :: ss => by
    simp [shapesPieces, Shape.textsIn, render_shapePieces outside s, render_shapesPieces outside ss]

end

mutual

/-- The names in a shape's type are those of its user types. -/
theorem namesOf_shapePieces (outside : Bool) : (s : Shape) →
    namesOf (shapePieces outside s) = s.udtNames
  | .scalar _ _ | .counter _ => rfl
  | .list p e | .set p e => by
    simp [shapePieces, Shape.udtNames, namesOf_shapePieces p.frozen e]
  | .map p k v => by
    simp [shapePieces, Shape.udtNames, namesOf_shapePieces p.frozen k,
      namesOf_shapePieces p.frozen v]
  | .tuple p es => by
    simp [shapePieces, Shape.udtNames, namesOf_shapesPieces p.frozen es]
  | .udt p name => by simp [shapePieces, Shape.udtNames]

theorem namesOf_shapesPieces (outside : Bool) : (ss : List Shape) →
    (shapesPieces outside ss).flatMap namesOf = Shape.udtNamesAll ss
  | [] => rfl
  | s :: ss => by
    simp [shapesPieces, Shape.udtNamesAll, namesOf_shapePieces outside s,
      namesOf_shapesPieces outside ss]

end

/-! ## 3. Statements -/

/-- The pieces of a name inside its keyspace. -/
def qualifiedPieces (keyspace : Option String) (name : String) : List Piece :=
  match keyspace with
  | some k => [.text k, .text ".", .name name]
  | none => [.name name]

/-- The pieces of columns. -/
def columnPieces (fields : List Field) : List (List Piece) :=
  fields.map fun f => [.name f.column]

/-- The pieces of the type of a stored column. -/
def columnTypePieces (s : Schema) (e : Entity) (f : Field) : List Piece :=
  match (s.codec? e f).bind Strategy.storedAs with
  | some t => [.text t]
  | none => shapePieces false f.shape

/-- The pieces of a stored column with its type. -/
def columnDefinitionPieces (s : Schema) (e : Entity) (f : Field) : List Piece :=
  .name f.column :: .text " " ::
    (columnTypePieces s e f ++ [.text (if f.role.isStatic then " static" else "")])

/-- The pieces of the primary key. -/
def keyPieces (e : Entity) : List Piece :=
  let partition :=
    match e.partitionFields with
    | [f] => [.name f.column]
    | several => .text "(" :: (joined ", " (columnPieces several) ++ [.text ")"])
  joined ", " (partition :: columnPieces e.clusteringFields)

/-- The pieces of the clause that fixes the directions of the clustering columns. -/
def orderPieces (e : Entity) : List Piece :=
  match e.clusteringFields with
  | [] => []
  | fields =>
    .text " WITH CLUSTERING ORDER BY (" ::
      (joined ", " (fields.map fun f =>
        [.name f.column, .text (if f.role.isDescending then " DESC" else " ASC")]) ++ [.text ")"])

/-- The pieces of what a native index is on. -/
def targetPieces (f : Field) (kind : IndexKind) : List Piece :=
  match kind with
  | .normal => [.name f.column]
  | .full => [.text "FULL(", .name f.column, .text ")"]
  | .collection =>
    if f.shape.isMap then [.text "VALUES(", .name f.column, .text ")"] else [.name f.column]
  | .mapKey => [.text "KEYS(", .name f.column, .text ")"]
  | .mapValue => [.text "VALUES(", .name f.column, .text ")"]
  | .mapEntry => [.text "ENTRIES(", .name f.column, .text ")"]

/-- The pieces of the statement that creates a user type. -/
def typePieces (u : UserType) : List Piece :=
  .text "CREATE TYPE IF NOT EXISTS " :: (qualifiedPieces u.keyspace u.typeName ++ .text " (" ::
    (joined ", " (u.fields.map fun f => .name f.column :: .text " " :: shapePieces false f.shape)
      ++ [.text ")"]))

/-- The pieces of the statement that creates a table. -/
def tablePieces (s : Schema) (e : Entity) : List Piece :=
  .text "CREATE TABLE IF NOT EXISTS " :: (qualifiedPieces e.keyspace e.table ++ .text " (" ::
    (joined ", " ((storedFields e).map (columnDefinitionPieces s e)) ++ .text ", PRIMARY KEY (" ::
      (keyPieces e ++ .text "))" :: orderPieces e)))

/-- The pieces of the statement that creates a view of a base. -/
def viewPieces (v b : Entity) : List Piece :=
  .text "CREATE MATERIALIZED VIEW IF NOT EXISTS " :: (qualifiedPieces v.keyspace v.table
    ++ .text " AS SELECT " :: (joined ", " (columnPieces (storedFields v)) ++ .text " FROM " ::
      (qualifiedPieces b.keyspace b.table ++ .text " WHERE " ::
        (joined " AND " ((v.partitionFields ++ v.clusteringFields).map fun f =>
          [.name f.column, .text " IS NOT NULL"]) ++ .text " PRIMARY KEY (" ::
            (keyPieces v ++ .text ")" :: orderPieces v)))))

/-- The pieces of the statement that creates an index. -/
def indexPieces (e : Entity) (f : Field) (i : Index) : List Piece :=
  let name := i.resolvedName e.table f.column
  let custom := .text ("CREATE CUSTOM INDEX IF NOT EXISTS " ++ name ++ " ON ") ::
    (qualifiedPieces e.keyspace e.table ++ [.text " (", .name f.column, .text ") USING "])
  match i.implementation with
  | .native => .text ("CREATE INDEX IF NOT EXISTS " ++ name ++ " ON ") ::
      (qualifiedPieces e.keyspace e.table ++ .text " (" :: (targetPieces f i.kind ++ [.text ")"]))
  | .sasi options => custom ++
      [.text ("'org.apache.cassandra.index.sasi.SASIIndex' WITH OPTIONS = \x7b"
        ++ commas ((sasiOptions options).map optionText) ++ "\x7d")]
  | .search _ => custom ++ [.text "'com.datastax.bdp.search.solr.Cql3SolrSecondaryIndex'"]

/-- **The pieces of the statement of a creation.** -/
def Creation.pieces (s : Schema) : Creation → List Piece
  | userType u => typePieces u
  | entity e =>
    match e.viewOf.bind s.entity? with
    | some base => viewPieces e base
    | none => tablePieces s e
  | index e f i => indexPieces e f i

theorem render_qualifiedPieces (keyspace : Option String) (name : String) :
    render (qualifiedPieces keyspace name) = qualify keyspace name := by
  cases keyspace <;> simp [qualifiedPieces, qualify, String.append_assoc]

theorem render_columnPieces (fields : List Field) :
    (columnPieces fields).map render = fields.map (·.column) := by
  simp [columnPieces, Function.comp_def]

theorem render_columnDefinitionPieces (s : Schema) (e : Entity) (f : Field) :
    render (columnDefinitionPieces s e f) = columnDefinition s e f := by
  have htype : render (columnTypePieces s e f) = s.columnType e f := by
    rw [columnTypePieces, columnType]
    cases (s.codec? e f).bind Strategy.storedAs with
    | some t => simp
    | none => exact render_shapePieces false f.shape
  simp [columnDefinitionPieces, columnDefinition, htype, String.append_assoc]

theorem render_keyPieces (e : Entity) : render (keyPieces e) = primaryKey e := by
  rw [keyPieces, primaryKey, render_joined, List.map_cons, render_columnPieces]
  rcases e.partitionFields with _ | ⟨f, _ | ⟨f', rest⟩⟩ <;>
    simp [commas, columnPieces, Function.comp_def, String.append_assoc]

theorem render_orderPieces (e : Entity) : render (orderPieces e) = clusteringOrder e := by
  rw [orderPieces, clusteringOrder]
  cases e.clusteringFields with
  | nil => rfl
  | cons f fields =>
    simp only [render_text, render_append, render_joined, render_nil, List.map_map,
      Function.comp_def, render_name, String.append_empty, String.append_assoc, commas]
    rfl

theorem render_targetPieces (f : Field) (kind : IndexKind) :
    render (targetPieces f kind) = nativeTarget f kind := by
  cases kind <;> simp [targetPieces, nativeTarget, String.append_assoc]
  split <;> simp

theorem render_typePieces (u : UserType) : render (typePieces u) = createType u := by
  unfold typePieces createType
  simp only [render_text, render_append, render_joined, render_nil, render_qualifiedPieces,
    List.map_map, Function.comp_def, render_name, render_shapePieces, String.append_empty,
    String.append_assoc]
  rfl

theorem render_tablePieces (s : Schema) (e : Entity) :
    render (tablePieces s e) = createTable s e := by
  unfold tablePieces createTable
  simp only [render_text, render_append, render_joined, render_qualifiedPieces,
    render_columnDefinitionPieces, render_keyPieces, render_orderPieces, List.map_map,
    Function.comp_def, String.append_assoc]
  rfl

theorem render_viewPieces (v b : Entity) : render (viewPieces v b) = createView v b := by
  unfold viewPieces createView
  simp only [render_text, render_append, render_joined, render_name, render_nil,
    render_qualifiedPieces, render_columnPieces, render_keyPieces, render_orderPieces, List.map_map,
    Function.comp_def, String.append_empty, String.append_assoc]
  rfl

theorem render_indexPieces (e : Entity) (f : Field) (i : Index) :
    render (indexPieces e f i) = createIndex e f i := by
  unfold indexPieces createIndex
  cases i.implementation <;>
    simp only [render_text, render_append, render_name, render_nil, render_qualifiedPieces,
      render_targetPieces, String.append_empty, String.append_assoc, Entity.qualifiedTable]

/-- **The pieces of a creation write its statement.** -/
theorem render_pieces (s : Schema) (c : Creation) : render (c.pieces s) = c.statement s := by
  cases c with
  | userType u => exact render_typePieces u
  | entity e =>
    rw [Creation.pieces, Creation.statement]
    cases e.viewOf.bind s.entity? with
    | some base => exact render_viewPieces e base
    | none => exact render_tablePieces s e
  | index e f i => exact render_indexPieces e f i

/-! ## 4. Names in statements -/

/-- **A name that the statements of a schema write**: that of a user type or of a field of one, of a
table, of a stored column, or of a lone type that nobody declared, where it is stored as such. -/
inductive Written (s : Schema) : String → Prop
  | type {u : UserType} (hu : u ∈ s.userTypes) : Written s u.typeName
  | typeField {u : UserType} {f : TypeField} (hu : u ∈ s.userTypes) (hf : f ∈ u.fields) :
      Written s f.column
  | table {e : Entity} (he : e ∈ s.entities) : Written s e.table
  | column {e : Entity} {f : Field} (he : e ∈ s.entities) (hf : f ∈ e.fields)
      (hstored : f.role.isComputed = false) : Written s f.column
  | undeclared {e : Entity} {f : Field} {n : String} (he : e ∈ s.entities)
      (htable : e.isView = false) (hf : f ∈ e.fields) (hstored : f.role.isComputed = false)
      (hname : f.shape.udtName? = some n) (hnone : userType? s.userTypes n = none)
      (hkept : (s.codec? e f).bind Strategy.storedAs = none) : Written s n

@[simp] theorem namesOf_qualifiedPieces (keyspace : Option String) (name : String) :
    namesOf (qualifiedPieces keyspace name) = [name] := by
  cases keyspace <;> rfl

@[simp] theorem flatMap_columnPieces (fields : List Field) :
    (columnPieces fields).flatMap namesOf = fields.map (·.column) := by
  rw [columnPieces, List.flatMap_map, List.map_eq_flatMap]
  rfl

@[simp] theorem namesOf_targetPieces (f : Field) (kind : IndexKind) :
    namesOf (targetPieces f kind) = [f.column] := by
  cases kind <;> simp [targetPieces]
  split <;> simp

/-- A key names the columns of its fields. -/
theorem namesOf_keyPieces (e : Entity) :
    namesOf (keyPieces e) = (e.partitionFields ++ e.clusteringFields).map (·.column) := by
  rw [keyPieces, namesOf_joined, List.flatMap_cons, flatMap_columnPieces, List.map_append]
  rcases e.partitionFields with _ | ⟨f, _ | ⟨f', rest⟩⟩ <;> simp

theorem namesOf_orderPieces (e : Entity) :
    namesOf (orderPieces e) = e.clusteringFields.map (·.column) := by
  rw [orderPieces]
  cases e.clusteringFields with
  | nil => rfl
  | cons f fields =>
    simp only [namesOf_text, namesOf_append, namesOf_joined, namesOf_nil, List.append_nil,
      List.flatMap_map]
    rw [List.map_eq_flatMap]
    rfl

/-- The user types that a shape without unknown parts names are found. -/
theorem exists_userType?_of_unknownTypes {types : List UserType} {shape : Shape}
    (h : unknownTypes types shape = []) :
    ∀ n ∈ shape.udtNames, ∃ u, userType? types n = some u := by
  intro n hn
  rw [unknownTypes, List.filter_eq_nil_iff] at h
  exact Option.ne_none_iff_exists'.mp (by simpa using h n hn)

theorem typeName_of_userType? {types : List UserType} {u : UserType}
    (h : userType? types n = some u) : u.typeName = n := by
  simpa using List.find?_some h

/-- Types without unknown parts name declared types only. -/
theorem exists_of_unknownTypes {types : List UserType} {shape : Shape}
    (h : unknownTypes types shape = []) : ∀ n ∈ shape.udtNames, ∃ u ∈ types, u.typeName = n := by
  intro n hn
  obtain ⟨u, hu⟩ := exists_userType?_of_unknownTypes h n hn
  exact ⟨u, List.mem_of_find?_eq_some hu, typeName_of_userType? hu⟩

theorem udtNames_of_udtName? {shape : Shape} (h : shape.udtName? = some n) :
    shape.udtNames = [n] := by
  cases shape <;> cases h
  rfl

/-- A field on which no codec is missing names declared types, unless it is a lone type. -/
theorem exists_of_codecFaults {types : List UserType} (h : codecFaults types registry f = []) :
    (∀ n ∈ f.shape.udtNames, ∃ u ∈ types, u.typeName = n) ∨ f.shape.udtName?.isSome = true := by
  by_cases hlone : f.shape.udtName?.isSome
  · exact .inr hlone
  · refine .inl (exists_of_unknownTypes ?_)
    rw [Bool.not_eq_true, Option.isSome_eq_false_iff, Option.isNone_iff_eq_none] at hlone
    by_contra hunknown
    simp [codecFaults, hlone, hunknown] at h

section
variable (h : load d registry defaults = .ok s)
include h

/-- The fields of an accepted user type name declared types. -/
theorem unknownTypes_of_load (hu : u ∈ s.userTypes) {f : TypeField} (hf : f ∈ u.fields) :
    unknownTypes s.userTypes f.shape = [] := by
  have hfaults := ((accepted_of_load h).ofUserTypes u hu).fieldTypes f hf
  rw [typeFieldTypeFaults] at hfaults
  split at hfaults
  · assumption
  · exact List.map_eq_nil_iff.mp hfaults

/-- An indexed field of an accepted batch is stored. -/
theorem isComputed_of_index (he : e ∈ s.entities) (hf : f ∈ e.fields) {i : Index}
    (hi : i ∈ f.indexes) : f.role.isComputed = false := by
  have hfaults := ((accepted_of_entity h he).fields f hf).indexes
  by_contra hcomputed
  simp [indexFaults, List.ne_nil_of_mem hi, Bool.not_eq_false _ ▸ hcomputed] at hfaults

end

/-- A key and the order of its columns name stored columns. -/
theorem written_of_key (he : e ∈ s.entities)
    (hn : n ∈ (e.partitionFields ++ e.clusteringFields).map (·.column)) : Written s n := by
  obtain ⟨f, hf, rfl⟩ := List.mem_map.mp hn
  obtain ⟨hmem, hkey⟩ := List.mem_filter.mp ((keyFields_perm e).mem_iff.mp hf)
  exact .column he hmem (isComputed_of_isKey hkey)

theorem written_of_columns (he : e ∈ s.entities)
    (hn : n ∈ (storedFields e).map (·.column)) : Written s n := by
  obtain ⟨f, hf, rfl⟩ := List.mem_map.mp hn
  obtain ⟨hmem, hstored⟩ := mem_storedFields_iff.mp hf
  exact .column he hmem hstored

theorem written_of_typePieces (h : load d registry defaults = .ok s) (hu : u ∈ s.userTypes)
    (hn : n ∈ namesOf (typePieces u)) : Written s n := by
  simp only [typePieces, namesOf_text, namesOf_append, namesOf_qualifiedPieces, namesOf_joined,
    namesOf_nil, List.append_nil, List.singleton_append, List.mem_cons, List.flatMap_map,
    List.mem_flatMap, namesOf_name, namesOf_shapePieces] at hn
  rcases hn with rfl | ⟨f, hf, rfl | hn⟩
  · exact .type hu
  · exact .typeField hu hf
  · obtain ⟨w, hw, rfl⟩ := exists_of_unknownTypes (unknownTypes_of_load h hu hf) n hn
    exact .type hw

/-- The type of a stored column names declared types, or is a lone one that nobody declared. -/
theorem written_of_columnTypePieces (h : load d registry defaults = .ok s) (he : e ∈ s.entities)
    (htable : e.isView = false) (hf : f ∈ e.fields) (hstored : f.role.isComputed = false)
    (hn : n ∈ namesOf (columnTypePieces s e f)) : Written s n := by
  rw [columnTypePieces] at hn
  split at hn
  · cases hn
  · rename_i hkept
    rw [namesOf_shapePieces] at hn
    rcases exists_of_codecFaults ((accepted_of_entity h he).codecs f hf) with hdeclared | hlone
    · obtain ⟨w, hw, rfl⟩ := hdeclared n hn
      exact .type hw
    · obtain ⟨m, hm⟩ := Option.isSome_iff_exists.mp hlone
      rw [udtNames_of_udtName? hm, List.mem_singleton] at hn
      subst hn
      cases hfind : userType? s.userTypes n with
      | none => exact .undeclared he htable hf hstored hm hfind hkept
      | some w =>
        have hname : w.typeName = n := by simpa using List.find?_some hfind
        exact hname ▸ .type (List.mem_of_find?_eq_some hfind)

theorem written_of_tablePieces (h : load d registry defaults = .ok s) (he : e ∈ s.entities)
    (htable : e.isView = false) (hn : n ∈ namesOf (tablePieces s e)) : Written s n := by
  simp only [tablePieces, namesOf_text, namesOf_append, namesOf_qualifiedPieces, namesOf_joined,
    List.singleton_append, List.mem_cons, List.mem_append, List.flatMap_map, List.mem_flatMap,
    columnDefinitionPieces, namesOf_name, namesOf_nil, List.append_nil] at hn
  rcases hn with rfl | ⟨f, hf, rfl | hn⟩ | hn | hn
  · exact .table he
  · exact .column he (mem_storedFields_iff.mp hf).1 (mem_storedFields_iff.mp hf).2
  · obtain ⟨hmem, hstored⟩ := mem_storedFields_iff.mp hf
    exact written_of_columnTypePieces h he htable hmem hstored hn
  · exact written_of_key he (namesOf_keyPieces e ▸ hn)
  · rw [namesOf_orderPieces] at hn
    exact written_of_key he (by rw [List.map_append]; exact List.mem_append_right _ hn)

theorem written_of_viewPieces (hv : v ∈ s.entities) (hb : b ∈ s.entities)
    (hn : n ∈ namesOf (viewPieces v b)) : Written s n := by
  have hkeys : ((v.partitionFields ++ v.clusteringFields).map fun f =>
      [Piece.name f.column, .text " IS NOT NULL"]).flatMap namesOf =
        (v.partitionFields ++ v.clusteringFields).map (·.column) := by
    rw [List.flatMap_map, List.map_eq_flatMap]
    rfl
  simp only [viewPieces, namesOf_text, namesOf_append, namesOf_qualifiedPieces, namesOf_joined,
    List.singleton_append, List.mem_cons, List.mem_append, flatMap_columnPieces, hkeys] at hn
  rcases hn with rfl | hn | rfl | hn | hn | hn
  · exact .table hv
  · exact written_of_columns hv hn
  · exact .table hb
  · exact written_of_key hv hn
  · exact written_of_key hv (namesOf_keyPieces v ▸ hn)
  · rw [namesOf_orderPieces] at hn
    exact written_of_key hv (by rw [List.map_append]; exact List.mem_append_right _ hn)

theorem written_of_indexPieces (he : e ∈ s.entities) (hf : f ∈ e.fields)
    (hstored : f.role.isComputed = false) {i : Index} (hn : n ∈ namesOf (indexPieces e f i)) :
    Written s n := by
  have hnames : namesOf (indexPieces e f i) = [e.table, f.column] := by
    rw [indexPieces]
    cases i.implementation <;> simp
  rw [hnames, List.mem_cons, List.mem_singleton] at hn
  rcases hn with rfl | rfl
  · exact .table he
  · exact .column he hf hstored

/-- A user type is created with the names of its fields. -/
theorem mem_typePieces {f : TypeField} (hf : f ∈ u.fields) : f.column ∈ namesOf (typePieces u) := by
  simp only [typePieces, namesOf_text, namesOf_append, namesOf_joined, List.mem_append,
    List.mem_flatMap, List.mem_map]
  exact .inr (.inl ⟨_, ⟨f, hf, rfl⟩, List.mem_cons_self⟩)

/-- A table or a view is created under its name and with the names of its stored columns. -/
theorem mem_entityPieces (s : Schema) (hn : n = e.table ∨ n ∈ (storedFields e).map (·.column)) :
    n ∈ namesOf ((Creation.entity e).pieces s) := by
  rw [Creation.pieces]
  cases e.viewOf.bind s.entity? with
  | some b =>
    simp only [viewPieces, namesOf_text, namesOf_append, namesOf_qualifiedPieces, namesOf_joined,
      flatMap_columnPieces, List.singleton_append, List.mem_cons, List.mem_append]
    exact hn.imp_right .inl
  | none =>
    simp only [tablePieces, namesOf_text, namesOf_append, namesOf_qualifiedPieces, namesOf_joined,
      List.singleton_append, List.mem_cons, List.mem_append, List.mem_flatMap, List.mem_map]
    refine hn.imp_right fun hn => .inl ?_
    obtain ⟨f, hf, rfl⟩ := List.mem_map.mp hn
    exact ⟨_, ⟨f, hf, rfl⟩, List.mem_cons_self⟩

/-- A table is created with the names in the types of its columns. -/
theorem mem_tablePieces (hf : f ∈ storedFields e) (hn : n ∈ namesOf (columnTypePieces s e f)) :
    n ∈ namesOf (tablePieces s e) := by
  simp only [tablePieces, namesOf_text, namesOf_append, namesOf_joined, List.mem_append,
    List.mem_flatMap, List.mem_map]
  refine .inr (.inl ⟨_, ⟨f, hf, rfl⟩, ?_⟩)
  simp [columnDefinitionPieces, hn]

/-- **Which names the statements of an accepted batch write.** -/
theorem written_iff (h : load d registry defaults = .ok s) :
    (∃ c ∈ s.creations, n ∈ namesOf (c.pieces s)) ↔ Written s n := by
  constructor
  · rintro ⟨c, hc, hn⟩
    cases c with
    | userType u => exact written_of_typePieces h (userType_mem_creations_iff.mp hc) hn
    | entity e =>
      have he := entity_mem_creations_iff.mp hc
      rw [Creation.pieces] at hn
      cases hview : e.viewOf with
      | none =>
        rw [hview] at hn
        exact written_of_tablePieces h he (by rw [Entity.isView, hview]; rfl) hn
      | some base =>
        obtain ⟨b, hb, hbase, -⟩ := base_of_load h he hview
        rw [hview, Option.bind_some, hbase] at hn
        exact written_of_viewPieces he hb hn
    | index e f i =>
      obtain ⟨he, hf, hi⟩ := index_mem_creations_iff.mp hc
      exact written_of_indexPieces he hf (isComputed_of_index h he hf hi) hn
  · intro hwritten
    cases hwritten with
    | type hu =>
      exact ⟨_, userType_mem_creations_iff.mpr hu, by simp [Creation.pieces, typePieces]⟩
    | typeField hu hf => exact ⟨_, userType_mem_creations_iff.mpr hu, mem_typePieces hf⟩
    | table he => exact ⟨_, entity_mem_creations_iff.mpr he, mem_entityPieces s (.inl rfl)⟩
    | column he hf hstored =>
      refine ⟨_, entity_mem_creations_iff.mpr he, mem_entityPieces s (.inr ?_)⟩
      exact List.mem_map_of_mem (mem_storedFields_iff.mpr ⟨hf, hstored⟩)
    | @undeclared e f _ he htable hf hstored hname hnone hkept =>
      have hview : e.viewOf = none := by simpa [Entity.isView] using htable
      refine ⟨.entity e, entity_mem_creations_iff.mpr he, ?_⟩
      rw [Creation.pieces, hview]
      refine mem_tablePieces (mem_storedFields_iff.mpr ⟨hf, hstored⟩) ?_
      rw [columnTypePieces, hkept, namesOf_shapePieces, udtNames_of_udtName? hname]
      exact List.mem_singleton_self _

end WideColumn.Schema
