import Columnar.Component.Catalog
import Columnar.Proofs.Traversal

/-!
# Canonical series

Whatever raw value an encoding takes in, it gives a series of its type in which no element is null.
These are exactly the series that the encoding leaves as they are, so a value that was taken in once
can be taken in again.

## Main statements

- `Encoding.Canonical`: the series that an encoding gives.
- `Encoding.canonical_of_take`: an encoding gives no others, from JSON or from a series.
- `Encoding.canonical_of_type`: any series of the type without nulls is one of them.
- `Encoding.Canonical.take_self`: an encoding leaves them as they are.
- `Component.convert_eq_ok_iff`: converting is taking in, and checking the type.
- `Component.convert_self`, `Component.convert_ofSeries`: converting what needs no conversion.
-/

namespace Columnar

/-! ## Series without nulls -/

namespace Series

theorem fits_of_mem {s : Series} {c : Cell} (h : c ∈ s.cells) : c.fits s.type = true := by
  obtain ⟨type, elements, fit⟩ := s
  cases elements with
  | nulls n => rw [(List.mem_replicate.1 h).2, Cell.fits]
  | cells list => exact fit.2 c h

theorem nullCount_eq_zero_iff {s : Series} :
    s.nullCount = 0 ↔ ∀ c ∈ s.cells, c.isMissing = false := by
  rw [nullCount_eq, List.countP_eq_zero]
  simp only [Bool.not_eq_true]

variable {α : Type} {type : DataType} {cell : α → Cell} {nonnull : type ≠ .null}
  {fit : ∀ x, (cell x).fits type = true}

theorem nullCount_ofList (h : ∀ x, (cell x).isMissing = false) (xs : List α) :
    (ofList type cell xs nonnull fit).nullCount = 0 := by
  rw [nullCount_eq_zero_iff, cells_ofList]
  intro c hc
  obtain ⟨x, -, rfl⟩ := List.mem_map.1 hc
  exact h x

theorem atoms_ofList {p : Primitive} {wrap : α → Atom} {nonnull : DataType.primitive p ≠ .null}
    {fit : ∀ x, (Cell.atom (wrap x)).fits (.primitive p) = true} (xs : List α) :
    (ofList (.primitive p) (fun x => .atom (wrap x)) xs nonnull fit).atoms = xs.map wrap := by
  rw [atoms, cells_ofList, List.filterMap_map, ← List.filterMap_eq_map]
  rfl

/-- A series whose elements are all made by a function is made by it from a list. -/
theorem exists_eq_ofList {s : Series} (ht : s.type = type)
    (h : ∀ c ∈ s.cells, c ∈ Set.range cell) : ∃ xs, s = ofList type cell xs nonnull fit := by
  obtain ⟨type', elements, fit'⟩ := s
  cases ht
  cases elements with
  | nulls n => exact absurd fit' nonnull
  | cells list =>
    obtain ⟨xs, rfl⟩ := exists_eq_map_iff.2 fun c hc => (h c hc).imp fun _ => Eq.symm
    exact ⟨xs, rfl⟩

end Series

/-! ## Elements without nulls -/

theorem Atom.mem_range_single {a : Atom} (h : Primitive.admits .float32 a = true) :
    a ∈ Set.range single := by
  cases a with
  | single x => exact ⟨x, rfl⟩
  | _ => cases h

namespace Cell

theorem exists_atom_of_fits {p : Primitive} {c : Cell} (h : c.fits (.primitive p) = true)
    (hc : c.isMissing = false) : ∃ a, p.admits a = true ∧ c = .atom a := by
  cases c with
  | null => cases hc
  | atom a => exact ⟨a, by simpa only [fits] using h, rfl⟩
  | list items => simp [fits] at h
  | record cells => simp [fits] at h
  | entry value => simp [fits] at h

theorem exists_single_of_fits {c : Cell} (h : c.fits .float32 = true) (hc : c.isMissing = false) :
    ∃ x, c = .atom (.single x) := by
  obtain ⟨a, ha, rfl⟩ := exists_atom_of_fits h hc
  obtain ⟨x, rfl⟩ := Atom.mem_range_single ha
  exact ⟨x, rfl⟩

/-- An element of a list type of size three is a list of three items. -/
theorem exists_items_of_fits {item : Field} {c : Cell}
    (h : c.fits (.fixedSizeList item 3) = true) (hc : c.isMissing = false) :
    ∃ x y z, c = .list [x, y, z] ∧ allFit item [x, y, z] = true := by
  cases c with
  | null => cases hc
  | atom a => simp [fits] at h
  | record cells => simp [fits] at h
  | entry value => simp [fits] at h
  | list items =>
    simp only [fits, Bool.and_eq_true, beq_iff_eq] at h
    obtain ⟨hlength, hitems⟩ := h
    obtain ⟨x, y, z, rfl⟩ := List.length_eq_three.1 hlength
    exact ⟨x, y, z, rfl, hitems⟩

theorem mem_range_vec3_of_fits {c : Cell} (h : c.fits Vec3.type = true)
    (hc : c.isMissing = false) : c ∈ Set.range Vec3.cell := by
  obtain ⟨x, y, z, rfl, hitems⟩ := exists_items_of_fits h hc
  -- The items of the type are not nullable, so no component is missing in an element that fits.
  simp only [allFit, Vec3.item, Bool.false_or, Bool.and_true, Bool.and_eq_true,
    Bool.not_eq_true'] at hitems
  obtain ⟨⟨hx, fx⟩, ⟨hy, fy⟩, hz, fz⟩ := hitems
  obtain ⟨x, rfl⟩ := exists_single_of_fits fx hx
  obtain ⟨y, rfl⟩ := exists_single_of_fits fy hy
  obtain ⟨z, rfl⟩ := exists_single_of_fits fz hz
  exact ⟨⟨x, y, z⟩, rfl⟩

end Cell

theorem Series.mem_range_vec3 {s : Series} (ht : s.type = Vec3.type) (hs : s.nullCount = 0) :
    ∀ c ∈ s.cells, c ∈ Set.range Vec3.cell := by
  intro c hc
  have hfits : c.fits Vec3.type = true := ht ▸ fits_of_mem hc
  exact Cell.mem_range_vec3_of_fits hfits (nullCount_eq_zero_iff.1 hs c hc)

/-- A series of a primitive type without nulls is made from the values of its elements. -/
theorem Series.exists_eq_ofAtoms {α : Type} {p : Primitive} {wrap : α → Atom}
    {nonnull : DataType.primitive p ≠ .null}
    {fit : ∀ x, (Cell.atom (wrap x)).fits (.primitive p) = true}
    (admitted : ∀ a, p.admits a = true → a ∈ Set.range wrap) {s : Series}
    (ht : s.type = .primitive p) (hs : s.nullCount = 0) :
    ∃ xs, s = ofList (.primitive p) (fun x => .atom (wrap x)) xs nonnull fit := by
  refine exists_eq_ofList ht ?_
  intro c hc
  have hfits : c.fits (.primitive p) = true := ht ▸ fits_of_mem hc
  obtain ⟨a, ha, rfl⟩ := Cell.exists_atom_of_fits hfits (nullCount_eq_zero_iff.1 hs c hc)
  obtain ⟨x, rfl⟩ := admitted a ha
  exact ⟨x, rfl⟩

namespace Encoding

/-! ## What an encoding gives -/

/-- The series that an encoding gives. Those of image formats are taken over as they are, whatever
the codes in them. -/
inductive Canonical : Encoding → Series → Prop
  | doubles (xs : List Double) : Canonical .doubles (.doubles xs)
  | singles (xs : List Single) : Canonical .singles (.singles xs)
  | texts (xs : List String) : Canonical .texts (.texts xs)
  | blobs (xs : List (List UInt8)) : Canonical .blobs (.blobs xs)
  | vectors (vs : List Vec3) : Canonical .vectors (Vec3.series vs)
  | imageFormats {s : Series} (ht : s.type = ImageFormat.type) (hs : s.nullCount = 0) :
      Canonical .imageFormats s

variable {e : Encoding} {s t : Series}

theorem Canonical.type (h : e.Canonical s) : s.type = e.type := by
  cases h with
  | imageFormats ht _ => exact ht
  | _ => rfl

theorem Canonical.nullCount (h : e.Canonical s) : s.nullCount = 0 := by
  cases h with
  | imageFormats _ hs => exact hs
  | _ => exact Series.nullCount_ofList (fun _ => rfl) _

/-- Any series of the type of an encoding is one that the encoding gives, unless it has nulls. -/
theorem canonical_of_type (ht : s.type = e.type) (hs : s.nullCount = 0) : e.Canonical s := by
  cases e with
  | doubles =>
    have admitted : ∀ a, Primitive.admits .float64 a = true → a ∈ Set.range Atom.double := by
      intro a ha
      cases a with
      | double x => exact ⟨x, rfl⟩
      | _ => cases ha
    obtain ⟨xs, rfl⟩ : ∃ xs, s = .doubles xs := Series.exists_eq_ofAtoms admitted ht hs
    exact .doubles xs
  | singles =>
    obtain ⟨xs, rfl⟩ : ∃ xs, s = .singles xs :=
      Series.exists_eq_ofAtoms (fun _ => Atom.mem_range_single) ht hs
    exact .singles xs
  | texts =>
    have admitted : ∀ a, Primitive.admits .utf8 a = true → a ∈ Set.range Atom.text := by
      intro a ha
      cases a with
      | text x => exact ⟨x, rfl⟩
      | _ => cases ha
    obtain ⟨xs, rfl⟩ : ∃ xs, s = .texts xs := Series.exists_eq_ofAtoms admitted ht hs
    exact .texts xs
  | blobs =>
    have admitted : ∀ a, Primitive.admits .binary a = true → a ∈ Set.range Atom.bytes := by
      intro a ha
      cases a with
      | bytes x => exact ⟨x, rfl⟩
      | _ => cases ha
    obtain ⟨xs, rfl⟩ : ∃ xs, s = .blobs xs := Series.exists_eq_ofAtoms admitted ht hs
    exact .blobs xs
  | vectors =>
    obtain ⟨vs, rfl⟩ : ∃ vs, s = Vec3.series vs :=
      Series.exists_eq_ofList ht (Series.mem_range_vec3 ht hs)
    exact .vectors vs
  | imageFormats => exact .imageFormats ht hs

/-! ## Taking in JSON -/

theorem canonical_of_ofJson {v : Json.Value} (h : e.ofJson v = .ok s) : e.Canonical s := by
  cases e with
  | doubles =>
    obtain ⟨xs, -, hs⟩ := bind_eq_ok_iff.1 h
    cases hs
    exact .doubles xs
  | singles =>
    obtain ⟨xs, -, hxs⟩ := bind_eq_ok_iff.1 h
    obtain ⟨ys, -, hs⟩ := bind_eq_ok_iff.1 hxs
    cases hs
    exact .singles ys
  | texts =>
    cases v with
    | string text =>
      cases h
      exact .texts [text]
    | array items =>
      obtain ⟨texts, -, hs⟩ := bind_eq_ok_iff.1 h
      cases hs
      exact .texts texts
    | _ => cases h
  | blobs =>
    simp only [ofJson, blobsOfJson] at h
    split at h
    · cases h
      exact .blobs []
    -- An array is read as blobs if all its items are arrays, and otherwise as the bytes of one.
    · split at h
      · obtain ⟨blobs, -, hs⟩ := bind_eq_ok_iff.1 h
        cases hs
        exact .blobs blobs
      · obtain ⟨bytes, -, hs⟩ := bind_eq_ok_iff.1 h
        cases hs
        exact .blobs [bytes]
    · cases h
  | vectors =>
    simp only [ofJson, vectorsOfJson] at h
    split at h
    -- An array is read as one vector if all its items are numbers, and otherwise as several.
    · split at h
      · obtain ⟨v, -, hs⟩ := bind_eq_ok_iff.1 h
        cases hs
        exact .vectors [v]
      · obtain ⟨vs, -, hs⟩ := bind_eq_ok_iff.1 h
        cases hs
        exact .vectors vs
    · cases h
  | imageFormats =>
    cases v with
    | object entries =>
      obtain ⟨format, -, hs⟩ := bind_eq_ok_iff.1 h
      cases hs
      exact .imageFormats rfl (Series.nullCount_ofList (fun _ => rfl) _)
    | array items =>
      obtain ⟨formats, -, hs⟩ := bind_eq_ok_iff.1 h
      cases hs
      exact .imageFormats rfl (Series.nullCount_ofList (fun _ => rfl) _)
    | _ => cases h

/-! ## Taking in series -/

theorem refuseNulls_eq_ok_iff {u : Unit} : refuseNulls t = .ok u ↔ t.nullCount = 0 := by
  unfold refuseNulls
  constructor
  · intro h
    by_contra hne
    rw [if_neg hne] at h
    cases h
  · intro h
    rw [if_pos h]

theorem canonical_of_ofSeries {surplus : List Cell} (h : e.ofSeries t surplus = .ok s) :
    e.Canonical s := by
  cases e with
  | doubles =>
    obtain ⟨⟨p, atoms⟩, -, hs⟩ := bind_eq_ok_iff.1 h
    cases hs
    exact .doubles _
  | singles =>
    obtain ⟨⟨p, atoms⟩, -, hxs⟩ := bind_eq_ok_iff.1 h
    obtain ⟨xs, -, hs⟩ := bind_eq_ok_iff.1 hxs
    cases hs
    exact .singles xs
  | texts =>
    simp only [ofSeries, textsOfSeries] at h
    split at h
    · obtain ⟨u, -, hs⟩ := bind_eq_ok_iff.1 h
      cases hs
      exact .texts _
    · obtain ⟨u, -, hs⟩ := bind_eq_ok_iff.1 h
      cases hs
      exact .texts _
    · obtain ⟨u, -, hs⟩ := bind_eq_ok_iff.1 h
      cases hs
      exact .texts _
    · cases h
  | blobs =>
    obtain ⟨u, -, hs⟩ := bind_eq_ok_iff.1 h
    -- by the type of the series: three types of blobs, bytes, and those that are not supported
    split at hs
    · cases hs
      exact .blobs _
    · cases hs
      exact .blobs _
    · cases hs
      exact .blobs _
    · cases hs
      exact .blobs _
    · cases hs
  | vectors =>
    obtain ⟨u, -, hs⟩ := bind_eq_ok_iff.1 h
    split at hs
    · split at hs
      · cases hs
      · simp only at hs
        split at hs
        · cases hs
        · obtain ⟨vs, -, hvs⟩ := bind_eq_ok_iff.1 hs
          obtain ⟨_, -, hs⟩ := bind_eq_ok_iff.1 hvs
          cases hs
          exact .vectors vs
    · cases hs
  | imageFormats =>
    simp only [ofSeries, formatsOfSeries] at h
    split at h
    · next ht =>
      obtain ⟨u, hu, hs⟩ := bind_eq_ok_iff.1 h
      cases hs
      exact .imageFormats ht (refuseNulls_eq_ok_iff.1 hu)
    · cases h

theorem canonical_of_take {input : Input} (h : e.take input = .ok s) : e.Canonical s := by
  cases input with
  | json v => exact canonical_of_ofJson h
  | series t surplus => exact canonical_of_ofSeries h

/-! ## Taking in again -/

theorem refuseNulls_eq_ok (h : s.nullCount = 0) : refuseNulls s = .ok () :=
  refuseNulls_eq_ok_iff.2 h

theorem numbers_eq_ok {p : Primitive} (ht : s.type.number? = some p) (h : s.nullCount = 0) :
    numbers s = .ok (p, s.atoms) := by
  unfold numbers
  rw [ht]
  exact bind_eq_ok_iff.2 ⟨(), refuseNulls_eq_ok h, rfl⟩

theorem doublesOfSeries_doubles (xs : List Double) :
    doublesOfSeries (.doubles xs) = .ok (.doubles xs) := by
  have hatoms : (Series.doubles xs).atoms = xs.map Atom.double := Series.atoms_ofList xs
  have hxs : (xs.map Atom.double).map (Atom.toDouble .float64) = xs := by
    rw [List.map_map]
    exact List.map_id xs
  have hn := numbers_eq_ok (p := .float64) rfl (Canonical.doubles xs).nullCount
  refine bind_eq_ok_iff.2 ⟨_, hn, ?_⟩
  simp only [hatoms, hxs]

theorem singlesOfSeries_singles (xs : List Single) :
    singlesOfSeries (.singles xs) = .ok (.singles xs) := by
  have hatoms : (Series.singles xs).atoms = xs.map Atom.single := Series.atoms_ofList xs
  have hxs : (xs.map Atom.single).mapM (Atom.narrow .float32) = .ok xs := by
    rw [mapM_eq_ok_iff, List.forall₂_map_left_iff, List.forall₂_same]
    exact fun x _ => rfl
  have hn := numbers_eq_ok (p := .float32) rfl (Canonical.singles xs).nullCount
  refine bind_eq_ok_iff.2 ⟨_, hn, bind_eq_ok_iff.2 ⟨xs, ?_, rfl⟩⟩
  rw [← hxs, ← hatoms]

theorem textsOfSeries_texts (xs : List String) : textsOfSeries (.texts xs) = .ok (.texts xs) := by
  have hatoms : (Series.texts xs).atoms = xs.map Atom.text := Series.atoms_ofList xs
  have hxs : (xs.map Atom.text).filterMap Atom.text? = xs := by
    rw [List.filterMap_map]
    exact List.filterMap_some
  have hn := refuseNulls_eq_ok (Canonical.texts xs).nullCount
  refine bind_eq_ok_iff.2 ⟨(), hn, ?_⟩
  rw [hatoms, hxs]

theorem blobsOfSeries_blobs (xs : List (List UInt8)) :
    blobsOfSeries (.blobs xs) = .ok (.blobs xs) := by
  have hatoms : (Series.blobs xs).atoms = xs.map Atom.bytes := Series.atoms_ofList xs
  have hxs : (xs.map Atom.bytes).filterMap Atom.bytes? = xs := by
    rw [List.filterMap_map]
    exact List.filterMap_some
  have hn := refuseNulls_eq_ok (Canonical.blobs xs).nullCount
  refine bind_eq_ok_iff.2 ⟨(), hn, ?_⟩
  show Except.ok (Series.blobs ((Series.blobs xs).atoms.filterMap Atom.bytes?)) = _
  rw [hatoms, hxs]

theorem countP_items_vectors (vs : List Vec3) :
    ((Vec3.series vs).items ++ []).countP Cell.isMissing = 0 := by
  rw [List.append_nil, List.countP_eq_zero]
  intro c hc
  obtain ⟨v, hv, hcv⟩ := List.mem_flatMap.1 hc
  obtain ⟨v, -, rfl⟩ := List.mem_map.1 hv
  simp only [Vec3.cell, Cell.items, List.mem_cons, List.not_mem_nil, or_false] at hcv
  obtain rfl | rfl | rfl := hcv <;> exact Bool.false_ne_true

theorem vectorsOfSeries_vectors (vs : List Vec3) :
    vectorsOfSeries (Vec3.series vs) [] = .ok (Vec3.series vs) := by
  have hvs : (Vec3.series vs).cells.mapM
      (fun c => vectorOfAtoms .float32 (c.items.filterMap Cell.atom?)) = .ok vs := by
    show (vs.map Vec3.cell).mapM _ = _
    rw [mapM_eq_ok_iff, List.forall₂_map_left_iff, List.forall₂_same]
    exact fun v _ => rfl
  have hn := refuseNulls_eq_ok (Canonical.vectors vs).nullCount
  refine bind_eq_ok_iff.2 ⟨(), hn, ?_⟩
  show (if _ ≠ 0 then _ else _) = _
  rw [if_neg (not_not_intro (countP_items_vectors vs))]
  refine bind_eq_ok_iff.2 ⟨vs, hvs, ?_⟩
  rfl

theorem formatsOfSeries_eq_ok (ht : s.type = ImageFormat.type) (hs : s.nullCount = 0) :
    formatsOfSeries s = .ok s := by
  unfold formatsOfSeries
  rw [if_pos ht]
  exact bind_eq_ok_iff.2 ⟨(), refuseNulls_eq_ok hs, rfl⟩

theorem Canonical.take_self (h : e.Canonical s) : e.take (.ofSeries s) = .ok s := by
  cases h with
  | doubles xs => exact doublesOfSeries_doubles xs
  | singles xs => exact singlesOfSeries_singles xs
  | texts xs => exact textsOfSeries_texts xs
  | blobs xs => exact blobsOfSeries_blobs xs
  | vectors vs => exact vectorsOfSeries_vectors vs
  | imageFormats ht hs => exact formatsOfSeries_eq_ok ht hs

/-! ## Faults under the encoding's name -/

theorem encode_eq_ok_iff {input : Input} : e.encode input = .ok s ↔ e.take input = .ok s :=
  mapError_eq_ok_iff

theorem encode_eq_error_iff {input : Input} {error : Error} :
    e.encode input = .error error ↔ ∃ fault : Fault, e.take input = .error fault ∧
      error = .conversion e.name fault.message :=
  mapError_eq_error_iff

end Encoding

/-! ## Components -/

namespace Component

variable {c : Component} {input : Input} {s : Series}

theorem convert_eq_ok_iff :
    c.convert input = .ok s ↔ c.encoding.take input = .ok s ∧ s.type = c.type := by
  unfold convert Encoding.encode
  cases c.encoding.take input with
  | error fault =>
    constructor
    · intro h
      cases h
    · rintro ⟨h, -⟩
      cases h
  | ok t =>
    show (if t.type = c.type then Except.ok t else _) = _ ↔ _
    by_cases ht : t.type = c.type
    · rw [if_pos ht]
      constructor
      · intro h
        cases h
        exact ⟨rfl, ht⟩
      · rintro ⟨h, -⟩
        rw [Except.ok.inj h]
    · rw [if_neg ht]
      constructor
      · intro h
        cases h
      · rintro ⟨h, hs⟩
        cases h
        exact absurd hs ht

/-- What a component has converted, it leaves as it is. -/
theorem convert_self (h : c.convert input = .ok s) : c.convert (.ofSeries s) = .ok s := by
  obtain ⟨htake, ht⟩ := convert_eq_ok_iff.1 h
  exact convert_eq_ok_iff.2 ⟨(Encoding.canonical_of_take htake).take_self, ht⟩

theorem type_of_mem_known (h : c ∈ known) : c.type = c.encoding.type := by
  revert c
  decide

/-- A component of the catalog leaves a series of its type without nulls as it is. -/
theorem convert_ofSeries (known : c ∈ known) (ht : s.type = c.type) (hs : s.nullCount = 0) :
    c.convert (.ofSeries s) = .ok s := by
  have hcanonical : c.encoding.Canonical s :=
    Encoding.canonical_of_type (ht.trans (type_of_mem_known known)) hs
  exact convert_eq_ok_iff.2 ⟨hcanonical.take_self, ht⟩

end Component

end Columnar
