/-
# Stored data is read back

The built-in codec of a type writes data without its type: absence, an empty list and a missing
field may all be null, a number of sixty-four bits may be a counter, a set is a row of cells in no
promised order.  Reading is directed by the type, and that is what brings the data back.

* `WellMade` are the types for which it does.  An optional type directly inside another would make
  two kinds of absence one null, and of two fields under one name the second would read the first.
* `HasType` says which data a type has.  A set holds its elements in increasing order and a map
  its keys, each once, so putting them in order again changes nothing.

The main statement is `decode?_encode`: of every well-made type, all data are read back as they
were, the bits of floating-point numbers included.
-/
import WideColumn.Codec
import WideColumn.Proofs.Data.Order

namespace WideColumn

/-! ## 1. Types and their data -/

namespace DataType

/-- Types without parts. -/
def isScalar : DataType → Bool
  | option _ | list _ | set _ | map _ _ | tuple _ | record _ _ => false
  | _ => true

def isOption : DataType → Bool
  | option _ => true
  | _ => false

/-- **A well-made type**: nothing optional is directly optional again, and the fields of a record
are stored under names of their own. -/
inductive WellMade : DataType → Prop
  | scalar {t : DataType} (h : t.isScalar = true) : WellMade t
  | option {t : DataType} (h : WellMade t) (hplain : t.isOption = false) : WellMade (option t)
  | list {t : DataType} (h : WellMade t) : WellMade (list t)
  | set {t : DataType} (h : WellMade t) : WellMade (set t)
  | map {k v : DataType} (hk : WellMade k) (hv : WellMade v) : WellMade (map k v)
  | tuple {ts : List DataType} (h : ∀ t ∈ ts, WellMade t) : WellMade (tuple ts)
  | record {name : String} {fs : List (String × DataType)} (hnames : (fs.map (·.1)).Nodup)
    (h : ∀ f ∈ fs, WellMade f.2) : WellMade (record name fs)

end DataType

namespace Data

/-- **Data of a type.** -/
inductive HasType : Data → DataType → Prop
  | text (s : String) : HasType (text s) .text
  | boolean (b : Bool) : HasType (boolean b) .boolean
  | tinyint (n : Int8) : HasType (tinyint n) .tinyint
  | smallint (n : Int16) : HasType (smallint n) .smallint
  | int (n : Int32) : HasType (int n) .int
  | bigint (n : Int64) : HasType (bigint n) .bigint
  | float (x : Number.Single) : HasType (float x) .float
  | double (x : Number.Double) : HasType (double x) .double
  | blob (bytes : List UInt8) : HasType (blob bytes) .blob
  | uuid (u : Uuid) : HasType (uuid u) .uuid
  | timestamp (t : Calendar.Timestamp) : HasType (timestamp t) .timestamp
  | date (d : Calendar.Date) : HasType (date d) .date
  | time (t : Calendar.Time) : HasType (time t) .time
  | inet (a : Network.Address) : HasType (inet a) .inet
  | absent (t : DataType) : HasType absent (.option t)
  | present {d : Data} {t : DataType} (h : HasType d t) : HasType (present d) (.option t)
  | list {ds : List Data} {t : DataType} (h : ∀ d ∈ ds, HasType d t) : HasType (list ds) (.list t)
  | set {ds : List Data} {t : DataType} (h : ∀ d ∈ ds, HasType d t)
    (hincreasing : ds.Pairwise fun a b => a.order b = .lt) : HasType (set ds) (.set t)
  | map {es : List (Data × Data)} {k v : DataType} (hk : ∀ e ∈ es, HasType e.1 k)
    (hv : ∀ e ∈ es, HasType e.2 v) (hincreasing : es.Pairwise fun a b => a.1.order b.1 = .lt) :
    HasType (map es) (.map k v)
  | tuple {ds : List Data} {ts : List DataType} (hlength : ds.length = ts.length)
    (h : ∀ p ∈ ds.zip ts, HasType p.1 p.2) : HasType (tuple ds) (.tuple ts)
  /-- The fields stand in the order of the type. -/
  | record {name : String} {ds : List (String × Data)} {fs : List (String × DataType)}
    (hnames : ds.map (·.1) = fs.map (·.1)) (h : ∀ p ∈ ds.zip fs, HasType p.1.2 p.2.2) :
    HasType (record ds) (.record name fs)

/-! ## 2. Rows of stored values -/

theorem encodeItems_eq_map (ds : List Data) : encodeItems ds = ds.map encode := by
  induction ds with
  | nil => simp only [encodeItems, List.map_nil]
  | cons d ds ih => simp only [encodeItems, ih, List.map_cons]

theorem encodeEntries_eq_map (es : List (Data × Data)) :
    encodeEntries es = es.map fun e => (e.1.encode, e.2.encode) := by
  induction es with
  | nil => simp only [encodeEntries, List.map_nil]
  | cons e es ih => simp only [encodeEntries, ih, List.map_cons]

/-- Steps that each give back what a row was made of give back the row. -/
theorem mapM_map_eq_some {α β : Type} {f : α → β} {g : β → Option α} {as : List α}
    (h : ∀ a ∈ as, g (f a) = some a) : (as.map f).mapM g = some as := by
  induction as with
  | nil => rfl
  | cons a as ih =>
    rw [List.forall_mem_cons] at h
    simp [List.mapM_cons, h.1, ih h.2]

/-- Only absence is stored as null. -/
theorem HasType.encode_ne_null {d : Data} {t : DataType} (h : d.HasType t)
    (hplain : t.isOption = false) : d.encode ≠ .null := by
  cases h <;> simp [encode] <;> simp [DataType.isOption] at hplain

/-- The slots of a tuple are read back one by one. -/
theorem decodeTuple?_encodeItems : ∀ {ds : List Data} {ts : List DataType},
    ds.length = ts.length → (∀ p ∈ ds.zip ts, p.2.decode? p.1.encode = some p.1) →
      DataType.decodeTuple? ts (encodeItems ds) = some ds
  | [], [], _, _ => by simp only [encodeItems, DataType.decodeTuple?]
  | d :: ds, t :: ts, hlength, h => by
    rw [List.zip_cons_cons, List.forall_mem_cons] at h
    simp [encodeItems, DataType.decodeTuple?, h.1,
      decodeTuple?_encodeItems (Nat.succ.inj hlength) h.2]

/-- Where no two cells have one name, each is found under its name. -/
theorem lookup_of_mem {cells : List (String × Value)} (hnames : (cells.map (·.1)).Nodup)
    {cell : String × Value} (hcell : cell ∈ cells) : cells.lookup cell.1 = some cell.2 := by
  obtain ⟨front, back, rfl⟩ := List.append_of_mem hcell
  refine List.lookup_eq_some_iff.mpr ⟨front, back, rfl, fun c hc => ?_⟩
  rw [List.map_append, List.map_cons, List.nodup_append] at hnames
  exact bne_iff_ne.mpr fun heq =>
    hnames.2.2 c.1 (List.mem_map_of_mem hc) cell.1 List.mem_cons_self heq.symm

theorem encodeFields_eq_map (fs : List (String × Data)) :
    encodeFields fs = fs.map fun f => (f.1, f.2.encode) := by
  induction fs with
  | nil => simp only [encodeFields, List.map_nil]
  | cons f fs ih => simp only [encodeFields, ih, List.map_cons]

/-- Where names differ, each field is found under its name. -/
theorem lookup_encodeFields {fs : List (String × Data)} (hnames : (fs.map (·.1)).Nodup) :
    ∀ f ∈ fs, (encodeFields fs).lookup f.1 = some f.2.encode := by
  intro f hf
  have hcells : ((fs.map fun f => (f.1, f.2.encode)).map (·.1)).Nodup := by rwa [List.map_map]
  rw [encodeFields_eq_map]
  exact lookup_of_mem hcells (List.mem_map_of_mem hf)

/-- The fields of a record are read back from a value in which each is found. -/
theorem decodeFields?_of_lookup {all : List (String × Value)} :
    ∀ {ds : List (String × Data)} {fs : List (String × DataType)},
      ds.map (·.1) = fs.map (·.1) → (∀ d ∈ ds, all.lookup d.1 = some d.2.encode) →
      (∀ p ∈ ds.zip fs, p.2.2.decode? p.1.2.encode = some p.1.2) →
        DataType.decodeFields? fs (.udt all) = some ds
  | [], [], _, _, _ => by simp only [DataType.decodeFields?]
  | (n, d) :: ds, (m, t) :: fs, hnames, hfound, h => by
    rw [List.map_cons, List.map_cons, List.cons.injEq] at hnames
    obtain rfl : n = m := hnames.1
    rw [List.forall_mem_cons] at hfound
    rw [List.zip_cons_cons, List.forall_mem_cons] at h
    simp [DataType.decodeFields?, Value.field?, hfound.1, h.1,
      decodeFields?_of_lookup hnames.2 hfound.2 h.2]

end Data

/-! ## 3. Reading back -/

/-- **Stored data is read back as it was**, of every well-made type. -/
theorem decode?_encode {t : DataType} {d : Data} (ht : t.WellMade) (hd : d.HasType t) :
    t.decode? d.encode = some d := by
  induction hd with
  | absent => simp only [Data.encode, DataType.decode?]
  | present h ih =>
    cases ht with
    | scalar h => cases h
    | option ht hplain =>
      rw [Data.encode, DataType.decode?, ih ht]
      · rfl
      · exact h.encode_ne_null hplain
  | list _ ih =>
    cases ht with
    | scalar h => cases h
    | list ht =>
      rw [Data.encode, DataType.decode?, Data.encodeItems_eq_map,
        Data.mapM_map_eq_some fun d hd => ih d hd ht, Option.map_some]
  | set _ hincreasing ih =>
    cases ht with
    | scalar h => cases h
    | set ht =>
      rw [Data.encode, DataType.decode?, Data.encodeItems_eq_map,
        Data.mapM_map_eq_some fun d hd => ih d hd ht, Option.map_some,
        Data.setOf_of_increasing hincreasing]
  | map _ _ hincreasing ihk ihv =>
    cases ht with
    | scalar h => cases h
    | map hk hv =>
      rw [Data.encode, DataType.decode?, Data.encodeEntries_eq_map, Data.mapM_map_eq_some,
        Option.map_some, Data.mapOf_of_increasing hincreasing]
      intro e he
      simp [ihk e he hk, ihv e he hv]
  | tuple hlength _ ih =>
    cases ht with
    | scalar h => cases h
    | tuple ht =>
      rw [Data.encode, DataType.decode?, Data.decodeTuple?_encodeItems hlength, Option.map_some]
      exact fun p hp => ih p hp (ht p.2 (List.of_mem_zip hp).2)
  | record hnames _ ih =>
    cases ht with
    | scalar h => cases h
    | record hapart ht =>
      rw [Data.encode, DataType.decode?, Data.decodeFields?_of_lookup hnames, Option.map_some]
      · exact Data.lookup_encodeFields (hnames ▸ hapart)
      · exact fun p hp => ih p hp (ht p.2 (List.of_mem_zip hp).2)
  | _ => simp only [Data.encode, DataType.decode?]

/-- **The built-in codec loses nothing**, whichever well-made type its data are of. -/
theorem native_loses_nothing {t : DataType} {d : Data} (ht : t.WellMade) (hd : d.HasType t) :
    t.decode? d.encode = some d
      ∧ ((Codec.native t).encode d >>= (Codec.native t).decode) = .ok d := by
  have hback := decode?_encode ht hd
  refine ⟨hback, ?_⟩
  change (Codec.native t).decode d.encode = .ok d
  simp only [Codec.native, hback]

/-- A place: how far north it lies, what it is known for, and how one gets there. -/
def placeType : DataType :=
  .record "Place" [("lat", .double), ("tags", .set (.option .text)),
    ("ways", .map (.tuple [.int, .bigint]) (.list .float))]

/-- A place with a latitude that is not a number, and two ways, one of which is empty. -/
def place : Data :=
  .record [("lat", .double ⟨0x7ff8000000000001#64⟩),
    ("tags", .set [.absent, .present (.text "quiet")]),
    ("ways", .map [(.tuple [.int 1, .bigint 2], .list []),
      (.tuple [.int 1, .bigint 3], .list [.float ⟨0x80000000#32⟩])])]

theorem native_loses_nothing_place :
    placeType.WellMade ∧ place.HasType placeType ∧ placeType.decode? place.encode = some place
      ∧ ((Codec.native placeType).encode place >>= (Codec.native placeType).decode)
        = .ok place := by
  have hmade : placeType.WellMade := by
    refine .record (by decide) ?_
    rw [List.forall_mem_cons, List.forall_mem_cons, List.forall_mem_singleton]
    refine ⟨.scalar rfl, .set (.option (.scalar rfl) rfl), .map (.tuple ?_) (.list (.scalar rfl))⟩
    rw [List.forall_mem_cons, List.forall_mem_singleton]
    exact ⟨.scalar rfl, .scalar rfl⟩
  have hway : ∀ n m, (Data.tuple [.int n, .bigint m]).HasType (.tuple [.int, .bigint]) := by
    refine fun n m => .tuple rfl ?_
    rw [List.zip_cons_cons, List.zip_cons_cons, List.zip_nil_left, List.forall_mem_cons,
      List.forall_mem_singleton]
    exact ⟨.int n, .bigint m⟩
  have htype : place.HasType placeType := by
    refine .record rfl ?_
    simp only [List.zip_cons_cons, List.zip_nil_left]
    rw [List.forall_mem_cons, List.forall_mem_cons, List.forall_mem_singleton]
    refine ⟨.double _, .set ?_ ?_, .map ?_ ?_ ?_⟩
    · rw [List.forall_mem_cons, List.forall_mem_singleton]
      exact ⟨.absent _, .present (.text _)⟩
    · simp [Data.order, Data.kind, Nat.compare_eq_lt]
    · rw [List.forall_mem_cons, List.forall_mem_singleton]
      exact ⟨hway 1 2, hway 1 3⟩
    · rw [List.forall_mem_cons, List.forall_mem_singleton]
      exact ⟨.list (fun _ h => nomatch h), .list (List.forall_mem_singleton.mpr (.float _))⟩
    · simp [Data.order, Data.orderItems, Int.compare_eq_lt]
  exact ⟨hmade, htype, native_loses_nothing hmade htype⟩

/-! Types that are not well made lose data: two kinds of absence become one. -/

example : (DataType.option (.option .int)).decode? (Data.present .absent).encode = some .absent := by
  cbv

end WideColumn
