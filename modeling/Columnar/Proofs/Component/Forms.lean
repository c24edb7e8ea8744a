import Columnar.Proofs.Component.Canonical
import Columnar.Proofs.Image.Reading

/-!
# One value in several forms

A list of values can be given as JSON or as a series of several types, and a single value also
without the list around it. An encoding has a path of its own for every form, but its answer depends
on the values alone: all forms of them give the same series or the same fault.

## Main statements

- `Series.textsAs`, `Series.blobsAs`, `Series.bytes`, `Series.uint64s`, `Series.triples`: values as
  series of the types that an encoding converts.
- `Meaning`, `Encoding.answer`: lists of values, and what an encoding makes of them.
- `Encoding.Form`: the forms of a list of values.
- `Encoding.Bare`: what may be given without the list around it, be it accepted or not.
- `Encoding.encode_forms`: all forms are answered alike.
-/

namespace Columnar

/-! ## Values as JSON -/

namespace Json.Value

def byte (b : UInt8) : Value := .ofNat b.toNat

def ofBytes (bytes : List UInt8) : Value := .array (bytes.map byte)

def ofNumbers (ns : List Number) : Value := .array (ns.map .number)

def triple (t : Number × Number × Number) : Value := ofNumbers [t.1, t.2.1, t.2.2]

end Json.Value

/-! ## Values as series -/

theorem exists_uint8 {i : ℤ} (hlow : 0 ≤ i) (hhigh : i ≤ 255) : ∃ b : UInt8, (b.toNat : ℤ) = i := by
  refine ⟨UInt8.ofNat i.toNat, ?_⟩
  rw [UInt8.toNat_ofNat']
  omega

namespace Primitive

def texts : List Primitive := [.utf8, .largeUtf8, .utf8View]

def blobs : List Primitive := [.binary, .largeBinary, .binaryView]

variable {p : Primitive}

theorem ne_null_of_mem_texts (h : p ∈ texts) : DataType.primitive p ≠ .null := by
  revert p
  decide

theorem ne_null_of_mem_blobs (h : p ∈ blobs) : DataType.primitive p ≠ .null := by
  revert p
  decide

theorem admits_text (h : p ∈ texts) (x : String) : p.admits (.text x) = true := by
  simp only [texts, List.mem_cons, List.not_mem_nil, or_false] at h
  obtain rfl | rfl | rfl := h <;> rfl

theorem admits_bytes (h : p ∈ blobs) (x : List UInt8) : p.admits (.bytes x) = true := by
  simp only [blobs, List.mem_cons, List.not_mem_nil, or_false] at h
  obtain rfl | rfl | rfl := h <;> rfl

theorem admits_uint64 (i : UInt64) : Primitive.admits .uint64 (.int i.toNat) = true := by
  have h := i.toNat_lt
  simp only [admits, Cell.within, Bool.and_eq_true, decide_eq_true_eq]
  omega

end Primitive

namespace Series

def uint64s (xs : List UInt64) : Series :=
  ofList (.primitive .uint64) (fun i => .atom (.int i.toNat)) xs (by decide)
    (fun i => by simpa only [Cell.fits] using Primitive.admits_uint64 i)

def bytes (xs : List UInt8) : Series :=
  ofList .uint8 (fun b => .atom (.int b.toNat)) xs (by decide)
    (fun b => by simpa only [Cell.fits] using ImageFormat.admits_uint8 b)

/-- Texts as a series of one of the types of texts. -/
def textsAs (p : Primitive) (h : p ∈ Primitive.texts) (xs : List String) : Series :=
  ofList (.primitive p) (fun x => .atom (.text x)) xs (Primitive.ne_null_of_mem_texts h)
    (fun x => by simpa only [Cell.fits] using Primitive.admits_text h x)

/-- Blobs as a series of one of the types of blobs. -/
def blobsAs (p : Primitive) (h : p ∈ Primitive.blobs) (xs : List (List UInt8)) : Series :=
  ofList (.primitive p) (fun x => .atom (.bytes x)) xs (Primitive.ne_null_of_mem_blobs h)
    (fun x => by simpa only [Cell.fits] using Primitive.admits_bytes h x)

/-- Values that are put into a series of a primitive type can be read back from it. -/
theorem filterMap_atoms_ofList {α : Type} {p : Primitive} (wrap : α → Atom)
    {nonnull : DataType.primitive p ≠ .null}
    {fit : ∀ x, (Cell.atom (wrap x)).fits (.primitive p) = true} {read : Atom → Option α}
    (h : ∀ x, read (wrap x) = some x) (xs : List α) :
    (ofList (.primitive p) (fun x => .atom (wrap x)) xs nonnull fit).atoms.filterMap read = xs := by
  have hread : read ∘ wrap = some := funext h
  rw [atoms_ofList, List.filterMap_map, hread]
  exact List.filterMap_some

def tripleCell (t : Double × Double × Double) : Cell :=
  .list [.atom (.double t.1), .atom (.double t.2.1), .atom (.double t.2.2)]

/-- Triples as lists of three numbers in double precision, which may have any name and may be
declared nullable. -/
def triples (name : String) (nullable : Bool) (ts : List (Double × Double × Double)) : Series :=
  ofList (.fixedSizeList ⟨name, .float64, nullable⟩ 3) tripleCell ts (by simp) (fun t => by
    simp [tripleCell, Cell.fits, Cell.allFit, Cell.isMissing, Primitive.admits])

end Series

/-! ## Values apart from their form -/

/-- A list of values, whatever they are given as. -/
inductive Meaning where
  | numbers (xs : List Double)
  | texts (xs : List String)
  | blobs (xs : List (List UInt8))
  | triples (ts : List (Double × Double × Double))
  | formats (fs : List ImageFormat)

namespace Encoding

def narrowTriple (t : Double × Double × Double) : Except Fault Vec3 := do
  let x ← t.1.narrow
  let y ← t.2.1.narrow
  let z ← t.2.2.narrow
  .ok ⟨x, y, z⟩

/-- What an encoding makes of values of its kind: numbers that are narrowed may be out of range. -/
def answer : Encoding → Meaning → Except Fault Series
  | .singles, .numbers xs => (xs.mapM Double.narrow).map .singles
  | _, .numbers xs => .ok (.doubles xs)
  | _, .texts xs => .ok (.texts xs)
  | _, .blobs xs => .ok (.blobs xs)
  | _, .triples ts => (ts.mapM narrowTriple).map Vec3.series
  | _, .formats fs => .ok (ImageFormat.series fs)

/-! ## Numbers -/

section Numbers

variable {α : Type} {p : Primitive} {wrap : α → Atom} {nonnull : DataType.primitive p ≠ .null}
  {fit : ∀ x, (Cell.atom (wrap x)).fits (.primitive p) = true} {number : α → Json.Number}

theorem numbers_ofList (hp : p.isNumeric = true) (xs : List α) :
    numbers (.ofList (.primitive p) (fun x => .atom (wrap x)) xs nonnull fit) =
      .ok (p, xs.map wrap) := by
  have hnumber : DataType.number? (.primitive p) = some p := if_pos hp
  rw [numbers_eq_ok hnumber (Series.nullCount_ofList (fun _ => rfl) xs), Series.atoms_ofList]

theorem jsonNumbers_ofNumbers (ns : List Json.Number) :
    jsonNumbers (.ofNumbers ns) = .ok (ns.map Json.Number.toDouble) := by
  show (ns.map Json.Value.number).mapM jsonNumber = _
  rw [mapM_eq_ok_iff, List.forall₂_map_left_iff, List.forall₂_map_right_iff, List.forall₂_same]
  exact fun _ _ => rfl

theorem take_json_of_jsonNumbers {e : Encoding} (he : e.type.isNumeric = true) {v : Json.Value}
    {xs : List Double} (h : jsonNumbers v = .ok xs) :
    e.take (.json v) = e.answer (.numbers xs) := by
  cases e with
  | doubles => exact bind_eq_ok_iff.2 ⟨xs, h, rfl⟩
  | singles =>
    show singlesOfJson v = (xs.mapM Double.narrow).map Series.singles
    rw [singlesOfJson, h]
    rfl
  | _ => cases he

/-- Numbers may be given as a series of any numeric type. Those in single precision stand apart,
because they are not narrowed. -/
theorem take_ofSeries_numbers {e : Encoding} (he : e.type.isNumeric = true)
    (hp : p.isNumeric = true) (narrow : ∀ x, (wrap x).narrow p = ((wrap x).toDouble p).narrow)
    (xs : List α) :
    e.take (.ofSeries (.ofList (.primitive p) (fun x => .atom (wrap x)) xs nonnull fit)) =
      e.answer (.numbers (xs.map fun x => (wrap x).toDouble p)) := by
  have hnumbers : numbers (.ofList (.primitive p) (fun x => .atom (wrap x)) xs nonnull fit) =
      .ok (p, xs.map wrap) := numbers_ofList hp xs
  cases e with
  | doubles =>
    show doublesOfSeries _ = _
    rw [doublesOfSeries, hnumbers]
    show Except.ok (Series.doubles ((xs.map wrap).map (Atom.toDouble p))) = _
    rw [List.map_map]
    rfl
  | singles =>
    have hnarrow : (xs.map wrap).mapM (Atom.narrow p) =
        (xs.map fun x => (wrap x).toDouble p).mapM Double.narrow := by
      rw [List.mapM_map, List.mapM_map]
      exact congrArg xs.mapM (funext narrow)
    show singlesOfSeries _ = _
    rw [singlesOfSeries, hnumbers]
    show ((xs.map wrap).mapM (Atom.narrow p) >>= fun ys => Except.ok (Series.singles ys)) = _
    rw [hnarrow]
    rfl
  | _ => cases he

end Numbers

/-! ## Texts -/

theorem take_textsAs {p : Primitive} (hp : p ∈ Primitive.texts) (xs : List String) :
    texts.take (.ofSeries (.textsAs p hp xs)) = .ok (.texts xs) := by
  have hatoms : (Series.textsAs p hp xs).atoms.filterMap Atom.text? = xs :=
    Series.filterMap_atoms_ofList Atom.text (fun _ => rfl) xs
  have hnulls : refuseNulls (Series.textsAs p hp xs) = .ok () :=
    refuseNulls_eq_ok (Series.nullCount_ofList (fun _ => rfl) xs)
  simp only [Primitive.texts, List.mem_cons, List.not_mem_nil, or_false] at hp
  obtain rfl | rfl | rfl := hp
  all_goals
    refine bind_eq_ok_iff.2 ⟨(), hnulls, ?_⟩
    rw [hatoms]

theorem ofJson_texts (xs : List String) :
    texts.ofJson (.array (xs.map .string)) = .ok (.texts xs) := by
  have htext : ∀ x, jsonText (.string x) = .ok x := fun _ => rfl
  exact bind_eq_ok_iff.2 ⟨xs, mapM_map_eq_ok htext xs, rfl⟩

/-! ## Blobs -/

theorem blobsOfJson_of_ne_nil {items : List Json.Value} (h : items ≠ []) :
    blobsOfJson (.array items) =
      if items.all Json.Value.isArray then (items.mapM jsonBytes).map .blobs
      else (items.mapM jsonByte).map fun bytes => .blobs [bytes] := by
  cases items with
  | nil => exact absurd rfl h
  | cons v items =>
    simp only [blobsOfJson]
    split <;> rfl

theorem jsonByte_byte (b : UInt8) : jsonByte (.byte b) = .ok b := by
  have hb : (0 : Int) ≤ b.toNat ∧ (b.toNat : Int) < 256 := by
    have h := b.toNat_lt
    omega
  have hint : (Json.Value.byte b).int? = some (b.toNat : Int) := rfl
  simp only [jsonByte, hint]
  rw [if_pos hb, Int.toNat_natCast]
  exact congrArg Except.ok UInt8.ofNat_toNat

theorem jsonBytes_ofBytes (bytes : List UInt8) : jsonBytes (.ofBytes bytes) = .ok bytes :=
  mapM_map_eq_ok jsonByte_byte bytes

theorem ofJson_ofBytes {bytes : List UInt8} (h : bytes ≠ []) :
    blobs.ofJson (.ofBytes bytes) = .ok (.blobs [bytes]) := by
  obtain ⟨b, rest, rfl⟩ := List.exists_cons_of_ne_nil h
  have hbytes : ((b :: rest).map Json.Value.byte).mapM jsonByte = .ok (b :: rest) :=
    jsonBytes_ofBytes (b :: rest)
  show blobsOfJson (.array ((b :: rest).map Json.Value.byte)) = _
  rw [blobsOfJson_of_ne_nil (by simp), hbytes]
  rfl

theorem ofJson_blobs (xs : List (List UInt8)) :
    blobs.ofJson (.array (xs.map .ofBytes)) = .ok (.blobs xs) := by
  have hall : (xs.map Json.Value.ofBytes).all Json.Value.isArray = true := by
    rw [List.all_map]
    exact List.all_eq_true.2 fun _ _ => rfl
  have hblobs : (xs.map Json.Value.ofBytes).mapM jsonBytes = .ok xs :=
    mapM_map_eq_ok jsonBytes_ofBytes xs
  -- The empty list is told apart before its items are looked at.
  by_cases hxs : xs = []
  · rw [hxs]
    rfl
  · show blobsOfJson _ = _
    rw [blobsOfJson_of_ne_nil (by simpa using hxs), if_pos hall, hblobs]
    rfl

theorem take_blobsAs {p : Primitive} (hp : p ∈ Primitive.blobs) (xs : List (List UInt8)) :
    blobs.take (.ofSeries (.blobsAs p hp xs)) = .ok (.blobs xs) := by
  have hatoms : (Series.blobsAs p hp xs).atoms.filterMap Atom.bytes? = xs :=
    Series.filterMap_atoms_ofList Atom.bytes (fun _ => rfl) xs
  have hnulls : refuseNulls (Series.blobsAs p hp xs) = .ok () :=
    refuseNulls_eq_ok (Series.nullCount_ofList (fun _ => rfl) xs)
  refine bind_eq_ok_iff.2 ⟨(), hnulls, ?_⟩
  rw [hatoms]
  simp only [Primitive.blobs, List.mem_cons, List.not_mem_nil, or_false] at hp
  obtain rfl | rfl | rfl := hp <;> rfl

theorem byte?_toNat (b : UInt8) : Atom.byte? (.int b.toNat) = some b := by
  have hb : (b.toNat : Int) % 2 ^ 8 = b.toNat := by
    have h := b.toNat_lt
    omega
  rw [Atom.byte?, UInt8.ofInt, hb, Int.toNat_natCast, UInt8.ofNat_toNat]

theorem take_bytes (bytes : List UInt8) :
    blobs.take (.ofSeries (.bytes bytes)) = .ok (.blobs [bytes]) := by
  have hatoms : (Series.bytes bytes).atoms.filterMap Atom.byte? = bytes :=
    Series.filterMap_atoms_ofList (fun b : UInt8 => .int b.toNat) byte?_toNat bytes
  have hnulls : refuseNulls (Series.bytes bytes) = .ok () :=
    refuseNulls_eq_ok (Series.nullCount_ofList (fun _ => rfl) bytes)
  refine bind_eq_ok_iff.2 ⟨(), hnulls, ?_⟩
  rw [hatoms]
  rfl

/-- One blob is a list of what is not all lists, so it is told from a list of blobs. -/
theorem take_blob_eq {items : List Json.Value} (h : items.all Json.Value.isArray = false) :
    blobs.take (.json (.array items)) = blobs.take (.json (.array [.array items])) := by
  have hne : items ≠ [] := by
    rintro rfl
    cases h
  show blobsOfJson (.array items) = blobsOfJson (.array [.array items])
  have hlist : [Json.Value.array items].all Json.Value.isArray = true := rfl
  rw [blobsOfJson_of_ne_nil hne, blobsOfJson_of_ne_nil (List.cons_ne_nil _ _), if_pos hlist,
    if_neg (Bool.eq_false_iff.1 h), mapM_singleton]
  show _ = ((items.mapM jsonByte).map fun bytes => [bytes]).map Series.blobs
  cases items.mapM jsonByte <;> rfl

/-! ## Vectors -/

theorem vectorsOfJson_of_isNumber {items : List Json.Value} (hne : items ≠ [])
    (h : items.all Json.Value.isNumber = true) :
    vectorsOfJson (.array items) = (jsonVector items).map fun v => Vec3.series [v] := by
  have hone : (!items.isEmpty && items.all Json.Value.isNumber) = true := by
    simp [h, hne]
  simp only [vectorsOfJson, hone, if_true]
  rfl

/-- A list is read item by item if it is empty or has an item that is no number. -/
theorem vectorsOfJson_of_exists {items : List Json.Value}
    (h : items ≠ [] → ∃ c ∈ items, c.isNumber = false) :
    vectorsOfJson (.array items) = (items.mapM jsonTriple).map Vec3.series := by
  have hseveral : (!items.isEmpty && items.all Json.Value.isNumber) = false := by
    simpa using h
  simp only [vectorsOfJson, hseveral]
  rfl

theorem vectorsOfJson_of_not_isNumber {items : List Json.Value}
    (h : ∀ v ∈ items, v.isNumber = false) :
    vectorsOfJson (.array items) = (items.mapM jsonTriple).map Vec3.series := by
  refine vectorsOfJson_of_exists fun hne => ?_
  obtain ⟨c, hc⟩ := List.exists_mem_of_ne_nil items hne
  exact ⟨c, hc, h c hc⟩

/-- Numbers that are one vector, or too few or too many for one. -/
theorem take_vector_eq {ns : List Json.Number} (h : ns ≠ []) :
    vectors.take (.json (.ofNumbers ns)) = vectors.take (.json (.array [.ofNumbers ns])) := by
  have hnumbers : (ns.map Json.Value.number).all Json.Value.isNumber = true := by
    rw [List.all_map]
    exact List.all_eq_true.2 fun _ _ => rfl
  have hlist : ∀ v ∈ [Json.Value.ofNumbers ns], v.isNumber = false := by
    intro v hv
    rw [List.mem_singleton.1 hv]
    rfl
  show vectorsOfJson (.array (ns.map .number)) = vectorsOfJson (.array [.ofNumbers ns])
  rw [vectorsOfJson_of_isNumber (by simpa using h) hnumbers, vectorsOfJson_of_not_isNumber hlist,
    mapM_singleton]
  show _ = ((jsonVector (ns.map .number)).map fun v => [v]).map Vec3.series
  cases jsonVector (ns.map .number) <;> rfl

/-- The three numbers in double precision. -/
def doubleTriple (t : Json.Number × Json.Number × Json.Number) : Double × Double × Double :=
  (t.1.toDouble, t.2.1.toDouble, t.2.2.toDouble)

theorem ofJson_triples (ts : List (Json.Number × Json.Number × Json.Number)) :
    vectors.ofJson (.array (ts.map .triple)) =
      ((ts.map doubleTriple).mapM narrowTriple).map Vec3.series := by
  have hlists : ∀ v ∈ ts.map Json.Value.triple, v.isNumber = false := by
    intro v hv
    obtain ⟨t, -, rfl⟩ := List.mem_map.1 hv
    rfl
  show vectorsOfJson (.array (ts.map .triple)) = _
  rw [vectorsOfJson_of_not_isNumber hlists, List.mapM_map, List.mapM_map]
  rfl

theorem ofSeries_triples (name : String) (nullable : Bool)
    (ts : List (Double × Double × Double)) :
    vectors.ofSeries (.triples name nullable ts) [] = (ts.mapM narrowTriple).map Vec3.series := by
  have hnulls : refuseNulls (Series.triples name nullable ts) = .ok () :=
    refuseNulls_eq_ok (Series.nullCount_ofList (fun _ => rfl) ts)
  have hitems : ((Series.triples name nullable ts).items ++ []).countP Cell.isMissing = 0 := by
    rw [List.append_nil, List.countP_eq_zero]
    intro c hc
    obtain ⟨v, hv, hcv⟩ := List.mem_flatMap.1 hc
    obtain ⟨t, -, rfl⟩ := List.mem_map.1 hv
    simp only [Series.tripleCell, Cell.items, List.mem_cons, List.not_mem_nil, or_false] at hcv
    obtain rfl | rfl | rfl := hcv <;> exact Bool.false_ne_true
  have hvectors : (Series.triples name nullable ts).cells.mapM
      (fun c => vectorOfAtoms .float64 (c.items.filterMap Cell.atom?)) = ts.mapM narrowTriple := by
    rw [Series.triples, Series.cells_ofList, List.mapM_map]
    rfl
  show vectorsOfSeries _ [] = _
  rw [vectorsOfSeries, hnulls]
  show (if _ ≠ 0 then _ else _) = _
  rw [if_neg (not_not_intro hitems), hvectors]
  cases ts.mapM narrowTriple <;> rfl

/-! ## Image formats -/

theorem take_object_eq (entries : List (String × Json.Value)) :
    imageFormats.take (.json (.object entries)) =
      imageFormats.take (.json (.array [.object entries])) := by
  show formatsOfJson (.object entries) = formatsOfJson (.array [.object entries])
  rw [formatsOfJson, formatsOfJson, mapM_singleton]
  cases jsonFormat (.object entries) <;> rfl

theorem jsonFormat_toJson (f : ImageFormat) : jsonFormat f.toJson = .ok f := by
  rw [jsonFormat, ImageFormat.read_toJson]
  rfl

/-! ## The forms of values -/

/-- The forms of a list of values: JSON, a single value in JSON without the list around it, and
series. A blob without bytes is not written as the list of its bytes in JSON, since the empty list
is no blob at all. -/
inductive Form : Encoding → Meaning → Input → Prop
  | jsonNumbers {e : Encoding} (he : e.type.isNumeric = true) (ns : List Json.Number) :
      Form e (.numbers (ns.map Json.Number.toDouble)) (.json (.ofNumbers ns))
  | jsonNumber {e : Encoding} (he : e.type.isNumeric = true) (n : Json.Number) :
      Form e (.numbers [n.toDouble]) (.json (.number n))
  | doubles {e : Encoding} (he : e.type.isNumeric = true) (xs : List Double) :
      Form e (.numbers xs) (.ofDoubles xs)
  | int64s {e : Encoding} (he : e.type.isNumeric = true) (is : List Int64) :
      Form e (.numbers ((is.map fun i => Json.Number.int i.toInt).map Json.Number.toDouble))
        (.ofSeries (.int64s is))
  | uint64s {e : Encoding} (he : e.type.isNumeric = true) (is : List UInt64) :
      Form e (.numbers ((is.map fun i => Json.Number.int i.toNat).map Json.Number.toDouble))
        (.ofSeries (.uint64s is))
  | jsonTexts (xs : List String) : Form texts (.texts xs) (.json (.array (xs.map .string)))
  | jsonText (x : String) : Form texts (.texts [x]) (.json (.string x))
  | texts {p : Primitive} (hp : p ∈ Primitive.texts) (xs : List String) :
      Form texts (.texts xs) (.ofSeries (.textsAs p hp xs))
  | jsonBlobs (xs : List (List UInt8)) :
      Form blobs (.blobs xs) (.json (.array (xs.map .ofBytes)))
  | jsonBytes {bytes : List UInt8} (h : bytes ≠ []) :
      Form blobs (.blobs [bytes]) (.json (.ofBytes bytes))
  | blobs {p : Primitive} (hp : p ∈ Primitive.blobs) (xs : List (List UInt8)) :
      Form blobs (.blobs xs) (.ofSeries (.blobsAs p hp xs))
  | bytes (bytes : List UInt8) : Form blobs (.blobs [bytes]) (.ofSeries (.bytes bytes))
  | native (bytes : List UInt8) : Form blobs (.blobs [bytes]) (.ofBytes bytes)
  | jsonTriples (ts : List (Json.Number × Json.Number × Json.Number)) :
      Form vectors (.triples (ts.map doubleTriple)) (.json (.array (ts.map .triple)))
  | jsonTriple (t : Json.Number × Json.Number × Json.Number) :
      Form vectors (.triples [doubleTriple t]) (.json (.triple t))
  | triples (name : String) (nullable : Bool) (ts : List (Double × Double × Double)) :
      Form vectors (.triples ts) (.ofSeries (.triples name nullable ts))
  | jsonFormats (fs : List ImageFormat) :
      Form imageFormats (.formats fs) (.json (.array (fs.map ImageFormat.toJson)))
  | jsonFormat (f : ImageFormat) : Form imageFormats (.formats [f]) (.json f.toJson)
  | formats (fs : List ImageFormat) :
      Form imageFormats (.formats fs) (.ofSeries (ImageFormat.series fs))

variable {e : Encoding} {m : Meaning} {a : Input} {v : Json.Value}

theorem take_of_form (h : e.Form m a) : e.take a = e.answer m := by
  cases h with
  | jsonNumbers he ns => exact take_json_of_jsonNumbers he (jsonNumbers_ofNumbers ns)
  | jsonNumber he n => exact take_json_of_jsonNumbers he rfl
  | doubles he xs =>
    have hseries : e.take (.ofDoubles xs) = e.answer (.numbers (xs.map id)) :=
      take_ofSeries_numbers he rfl (fun _ => rfl) xs
    rwa [List.map_id] at hseries
  | int64s he is =>
    rw [List.map_map]
    exact take_ofSeries_numbers he rfl (fun _ => rfl) is
  | uint64s he is =>
    rw [List.map_map]
    exact take_ofSeries_numbers he rfl (fun _ => rfl) is
  | jsonTexts xs => exact ofJson_texts xs
  | jsonText x => rfl
  | texts hp xs => exact take_textsAs hp xs
  | jsonBlobs xs => exact ofJson_blobs xs
  | jsonBytes hbytes => exact ofJson_ofBytes hbytes
  | blobs hp xs => exact take_blobsAs hp xs
  | bytes bytes => exact take_bytes bytes
  | native bytes => exact blobsOfSeries_blobs [bytes]
  | jsonTriples ts => exact ofJson_triples ts
  | jsonTriple t => exact (take_vector_eq (List.cons_ne_nil _ _)).trans (ofJson_triples [t])
  | triples name nullable ts => exact ofSeries_triples name nullable ts
  | jsonFormats fs => exact bind_eq_ok_iff.2 ⟨fs, mapM_map_eq_ok jsonFormat_toJson fs, rfl⟩
  | jsonFormat f => exact bind_eq_ok_iff.2 ⟨f, jsonFormat_toJson f, rfl⟩
  | formats fs =>
    have hnulls : (ImageFormat.series fs).nullCount = 0 :=
      Series.nullCount_ofList (fun _ => rfl) fs
    exact formatsOfSeries_eq_ok rfl hnulls

/-- What may be given without the list around it. It need not be accepted. -/
inductive Bare : Encoding → Json.Value → Prop
  | number {e : Encoding} (he : e.type.isNumeric = true) (n : Json.Number) : Bare e (.number n)
  | text (x : String) : Bare texts (.string x)
  | blob {items : List Json.Value} (h : items.all Json.Value.isArray = false) :
      Bare blobs (.array items)
  | vector {ns : List Json.Number} (h : ns ≠ []) : Bare vectors (.ofNumbers ns)
  | format (entries : List (String × Json.Value)) : Bare imageFormats (.object entries)

theorem take_of_bare (h : e.Bare v) : e.take (.json v) = e.take (.json (.array [v])) := by
  cases h with
  | number he n =>
    rw [take_json_of_jsonNumbers he (v := .number n) rfl]
    exact (take_json_of_jsonNumbers he (jsonNumbers_ofNumbers [n])).symm
  | text x => rfl
  | blob hitems => exact take_blob_eq hitems
  | vector hns => exact take_vector_eq hns
  | format entries => exact take_object_eq entries

/-- The forms of values are answered alike, by the same series or the same error, and so is a single
value without the list around it and with it, even if it is at fault. -/
theorem encode_forms (e : Encoding) :
    (∀ m a b, e.Form m a → e.Form m b → e.encode a = e.encode b ∧ e.take a = e.answer m) ∧
      ∀ v, e.Bare v → e.encode (.json v) = e.encode (.json (.array [v])) := by
  refine ⟨?_, ?_⟩
  · intro m a b ha hb
    have htake := take_of_form ha
    refine ⟨?_, htake⟩
    rw [encode, encode, htake, take_of_form hb]
  · intro v hv
    rw [encode, encode, take_of_bare hv]

/-- A number in double precision, `1e39`, that has no counterpart in single precision. -/
def huge : Json.Number := .real ⟨0x48078287f49c4a1d⟩ (by decide)

/-- Of two vectors the second has a component out of range, wherever it is given. -/
theorem encode_forms_huge :
    let ts := [(.int 1, .int 2, .int 3), (.int 4, huge, .int 6)]
    vectors.encode (.json (.array (ts.map .triple))) =
        vectors.encode (.ofSeries (.triples "xyz" true (ts.map doubleTriple))) ∧
      vectors.encode (.json (.triple (.int 4, huge, .int 6))) =
        vectors.encode (.json (.array [.triple (.int 4, huge, .int 6)])) ∧
      vectors.encode (.json (.array (ts.map .triple))) =
        .error (.conversion "arche.datatypes.Vec3D" (Fault.outOfRange huge.toDouble).message) := by
  obtain ⟨hforms, hbare⟩ := encode_forms vectors
  refine ⟨?_, ?_, by rfl⟩
  · exact (hforms _ _ _ (.jsonTriples _) (.triples "xyz" true _)).1
  · exact hbare _ (.vector (List.cons_ne_nil _ _))

end Encoding

end Columnar
