import Columnar.Proofs.Component.Forms

/-!
# How many values an encoding gives

Every form of a raw value decides for itself how many values it is. A list of JSON values has one
for each item, unless the items together are one blob or one vector; a series has one for each
element, unless the elements are bytes, which are gathered in one blob however many there are. So no
values come of what is empty and of nothing else, except that of an empty series of bytes comes one
blob.

## Main statements

- `Encoding.count`: how many values a raw value is.
- `Encoding.length_of_take`: so many values are given if the raw value is accepted.
- `Input.isEmpty`, `Encoding.gathers`: what is empty, and what is gathered in one blob.
- `Encoding.count_eq_zero_iff`: what is no values.
-/

namespace Columnar

/-! ## Lengths of series -/

namespace Series

variable {s : Series} {p : Primitive}

theorem length_ofList {α : Type} {type : DataType} {cell : α → Cell} {nonnull : type ≠ .null}
    {fit : ∀ x, (cell x).fits type = true} (xs : List α) :
    (ofList type cell xs nonnull fit).length = xs.length :=
  List.length_map _

theorem cells_eq_map_atoms (ht : s.type = .primitive p) (hs : s.nullCount = 0) :
    s.cells = s.atoms.map .atom := by
  obtain ⟨atoms, hatoms⟩ : ∃ atoms : List Atom, s.cells = atoms.map .atom := by
    refine exists_eq_map_iff.2 fun c hc => ?_
    have hfits : c.fits (.primitive p) = true := ht ▸ fits_of_mem hc
    obtain ⟨a, -, hca⟩ := Cell.exists_atom_of_fits hfits (nullCount_eq_zero_iff.1 hs c hc)
    exact ⟨a, hca⟩
  rw [Series.atoms, hatoms, List.filterMap_map]
  congr 1
  exact List.filterMap_some.symm

theorem length_atoms (ht : s.type = .primitive p) (hs : s.nullCount = 0) :
    s.atoms.length = s.length := by
  rw [← length_cells, cells_eq_map_atoms ht hs, List.length_map]

theorem eq_empty_of_length (h : s.length = 0) : s = .empty s.type := by
  obtain ⟨type, elements, fit⟩ := s
  cases elements with
  | nulls n =>
    cases fit
    cases h
    rfl
  | cells list =>
    cases List.length_eq_zero_iff.1 h
    rw [empty, dif_neg fit.1]

/-- A series of texts of any type is made from the texts in it. -/
theorem exists_eq_textsAs (hp : p ∈ Primitive.texts) (ht : s.type = .primitive p)
    (hs : s.nullCount = 0) : ∃ xs, s = .textsAs p hp xs := by
  refine exists_eq_ofAtoms ?_ ht hs
  intro a ha
  simp only [Primitive.texts, List.mem_cons, List.not_mem_nil, or_false] at hp
  cases a with
  | text x => exact ⟨x, rfl⟩
  | _ => obtain rfl | rfl | rfl := hp <;> cases ha

/-- A series of blobs of any type is made from the blobs in it. -/
theorem exists_eq_blobsAs (hp : p ∈ Primitive.blobs) (ht : s.type = .primitive p)
    (hs : s.nullCount = 0) : ∃ xs, s = .blobsAs p hp xs := by
  refine exists_eq_ofAtoms ?_ ht hs
  intro a ha
  simp only [Primitive.blobs, List.mem_cons, List.not_mem_nil, or_false] at hp
  cases a with
  | bytes x => exact ⟨x, rfl⟩
  | _ => obtain rfl | rfl | rfl := hp <;> cases ha

/-- A series of integers of eight bits without sign is made from bytes. -/
theorem exists_eq_bytes (ht : s.type = .uint8) (hs : s.nullCount = 0) : ∃ bs, s = .bytes bs := by
  refine exists_eq_ofAtoms ?_ ht hs
  intro a ha
  cases a with
  | int i =>
    simp only [Primitive.admits, Cell.within, Bool.and_eq_true, decide_eq_true_eq] at ha
    obtain ⟨b, rfl⟩ := exists_uint8 ha.1 ha.2
    exact ⟨b, rfl⟩
  | _ => cases ha

end Series

/-! ## What is empty -/

/-- The empty list, or a series without elements. -/
def Input.isEmpty : Input → Bool
  | .json (.array items) => items.isEmpty
  | .json _ => false
  | .series s _ => s.isEmpty

namespace Encoding

/-- Whether the elements of a raw value are bytes of one blob. -/
def gathers : Encoding → Input → Bool
  | .blobs, .series s _ => decide (s.type = .uint8)
  | _, _ => false

/-- How many values a JSON value is: one if it is no list. -/
def countOfJson : Encoding → Json.Value → Nat
  | .blobs, .array items => if items.all Json.Value.isArray then items.length else 1
  | .vectors, .array items =>
    if !items.isEmpty && items.all Json.Value.isNumber then 1 else items.length
  | _, .array items => items.length
  | _, _ => 1

/-- How many values a raw value is. -/
def count (e : Encoding) : Input → Nat
  | .json v => e.countOfJson v
  | .series s surplus => if e.gathers (.series s surplus) then 1 else s.length

theorem countOfJson_eq_zero_iff {e : Encoding} {v : Json.Value} :
    e.countOfJson v = 0 ↔ (Input.json v).isEmpty = true := by
  cases v with
  | array items =>
    cases items with
    | nil => cases e <;> exact ⟨fun _ => rfl, fun _ => rfl⟩
    | cons v items =>
      have hcount : e.countOfJson (.array (v :: items)) ≠ 0 := by
        cases e with
        | blobs =>
          simp only [countOfJson, List.length_cons]
          split <;> omega
        | vectors =>
          simp only [countOfJson, List.length_cons]
          split <;> omega
        | _ => exact Nat.succ_ne_zero items.length
      exact ⟨fun h => absurd h hcount, fun h => absurd h Bool.false_ne_true⟩
  | null | bool _ | number _ | string _ | object _ =>
    cases e <;> exact ⟨fun h => absurd h Nat.one_ne_zero, fun h => absurd h Bool.false_ne_true⟩

theorem count_eq_zero_iff {e : Encoding} {input : Input} :
    e.count input = 0 ↔ input.isEmpty = true ∧ e.gathers input = false := by
  cases input with
  | json v =>
    have hgathers : e.gathers (.json v) = false := by
      cases e <;> rfl
    rw [count, countOfJson_eq_zero_iff, hgathers]
    exact (and_iff_left rfl).symm
  | series s surplus =>
    rw [count, Input.isEmpty, Series.isEmpty, beq_iff_eq]
    cases e.gathers (.series s surplus) with
    | false => exact (and_iff_left rfl).symm
    | true => exact ⟨fun h => absurd h Nat.one_ne_zero, fun h => absurd h.2 Bool.noConfusion⟩

variable {e : Encoding} {s t : Series}

/-! ## JSON -/

theorem length_of_jsonNumbers {v : Json.Value} {xs : List Double} (h : jsonNumbers v = .ok xs) :
    xs.length = doubles.countOfJson v := by
  cases v with
  | number n =>
    cases h
    rfl
  | array items => exact length_of_mapM h
  | _ => cases h

theorem length_of_blobsOfJson {items : List Json.Value} (h : blobsOfJson (.array items) = .ok s) :
    s.length = blobs.countOfJson (.array items) := by
  rw [countOfJson]
  by_cases hne : items = []
  · subst hne
    cases h
    rfl
  · rw [blobsOfJson_of_ne_nil hne] at h
    by_cases hall : items.all Json.Value.isArray = true
    · rw [if_pos hall] at h
      obtain ⟨xs, hxs, rfl⟩ := map_eq_ok_iff.1 h
      rw [if_pos hall, ← length_of_mapM hxs]
      exact Series.length_ofList xs
    · rw [if_neg hall] at h
      obtain ⟨bytes, -, rfl⟩ := map_eq_ok_iff.1 h
      rw [if_neg hall]
      rfl

theorem length_of_vectorsOfJson {items : List Json.Value}
    (h : vectorsOfJson (.array items) = .ok s) : s.length = vectors.countOfJson (.array items) := by
  simp only [vectorsOfJson] at h
  rw [countOfJson]
  split at h
  · next hone =>
    obtain ⟨v, -, hs⟩ := bind_eq_ok_iff.1 h
    cases hs
    rw [if_pos hone]
    rfl
  · next hseveral =>
    obtain ⟨vs, hvs, hs⟩ := bind_eq_ok_iff.1 h
    cases hs
    rw [if_neg hseveral, ← length_of_mapM hvs]
    exact Series.length_ofList vs

theorem length_of_ofJson {v : Json.Value} (h : e.ofJson v = .ok s) :
    s.length = e.countOfJson v := by
  cases e with
  | doubles =>
    obtain ⟨xs, hxs, hs⟩ := bind_eq_ok_iff.1 h
    cases hs
    exact (Series.length_ofList xs).trans (length_of_jsonNumbers hxs)
  | singles =>
    obtain ⟨xs, hxs, hrest⟩ := bind_eq_ok_iff.1 h
    obtain ⟨ys, hys, hs⟩ := bind_eq_ok_iff.1 hrest
    cases hs
    have hcount : singles.countOfJson v = doubles.countOfJson v := by
      cases v <;> rfl
    rw [hcount, ← length_of_jsonNumbers hxs, ← length_of_mapM hys]
    exact Series.length_ofList ys
  | texts =>
    cases v with
    | string x =>
      cases h
      rfl
    | array items =>
      obtain ⟨xs, hxs, hs⟩ := bind_eq_ok_iff.1 h
      cases hs
      exact (Series.length_ofList xs).trans (length_of_mapM hxs)
    | _ => cases h
  | blobs =>
    cases v with
    | array items => exact length_of_blobsOfJson h
    | _ => cases h
  | vectors =>
    cases v with
    | array items => exact length_of_vectorsOfJson h
    | _ => cases h
  | imageFormats =>
    cases v with
    | object entries =>
      obtain ⟨f, -, hs⟩ := bind_eq_ok_iff.1 h
      cases hs
      rfl
    | array items =>
      obtain ⟨fs, hfs, hs⟩ := bind_eq_ok_iff.1 h
      cases hs
      exact (Series.length_ofList fs).trans (length_of_mapM hfs)
    | _ => cases h

/-! ## Series -/

theorem numbers_eq_ok_iff {p : Primitive} {atoms : List Atom} :
    numbers t = .ok (p, atoms) ↔
      t.type.number? = some p ∧ t.nullCount = 0 ∧ atoms = t.atoms := by
  constructor
  · intro h
    unfold numbers at h
    split at h
    · cases h
    · next q hq =>
      obtain ⟨u, hu, hs⟩ := bind_eq_ok_iff.1 h
      cases hs
      exact ⟨hq, refuseNulls_eq_ok_iff.1 hu, rfl⟩
  · rintro ⟨ht, hs, rfl⟩
    exact numbers_eq_ok ht hs

theorem number?_eq_some_iff {type : DataType} {p : Primitive} :
    type.number? = some p ↔ type = .primitive p ∧ type.isNumeric = true := by
  unfold DataType.number? DataType.isNumeric
  split
  · next q =>
    by_cases hq : q.isNumeric = true
    · rw [if_pos hq, Option.some_inj, DataType.primitive.injEq, and_iff_left hq]
    · rw [if_neg hq]
      simp [hq]
  · next h =>
    constructor
    · intro hp
      cases hp
    · rintro ⟨rfl, -⟩
      exact absurd rfl (h p)

theorem length_of_numbers {p : Primitive} {atoms : List Atom} (h : numbers t = .ok (p, atoms)) :
    atoms.length = t.length := by
  obtain ⟨ht, hnulls, rfl⟩ := numbers_eq_ok_iff.1 h
  exact Series.length_atoms (number?_eq_some_iff.1 ht).1 hnulls

theorem exists_of_textsOfSeries (h : textsOfSeries t = .ok s) :
    ∃ p, ∃ hp : p ∈ Primitive.texts, ∃ xs, t = .textsAs p hp xs := by
  have htype : ∃ p ∈ Primitive.texts, t.type = .primitive p ∧ t.nullCount = 0 := by
    unfold textsOfSeries at h
    split at h
    · next ht =>
      obtain ⟨u, hu, -⟩ := bind_eq_ok_iff.1 h
      exact ⟨.utf8, by decide, ht, refuseNulls_eq_ok_iff.1 hu⟩
    · next ht =>
      obtain ⟨u, hu, -⟩ := bind_eq_ok_iff.1 h
      exact ⟨.largeUtf8, by decide, ht, refuseNulls_eq_ok_iff.1 hu⟩
    · next ht =>
      obtain ⟨u, hu, -⟩ := bind_eq_ok_iff.1 h
      exact ⟨.utf8View, by decide, ht, refuseNulls_eq_ok_iff.1 hu⟩
    · cases h
  obtain ⟨p, hp, ht, hnulls⟩ := htype
  obtain ⟨xs, hxs⟩ := Series.exists_eq_textsAs hp ht hnulls
  exact ⟨p, hp, xs, hxs⟩

theorem exists_of_blobsOfSeries (h : blobsOfSeries t = .ok s) :
    (∃ p, ∃ hp : p ∈ Primitive.blobs, ∃ xs, t = .blobsAs p hp xs) ∨
      t.type = .uint8 ∧ s = .blobs [t.atoms.filterMap Atom.byte?] := by
  obtain ⟨u, hu, hs⟩ := bind_eq_ok_iff.1 h
  have hnulls : t.nullCount = 0 := refuseNulls_eq_ok_iff.1 hu
  have hblobs : ∀ p ∈ Primitive.blobs, t.type = .primitive p →
      ∃ p, ∃ hp : p ∈ Primitive.blobs, ∃ xs, t = .blobsAs p hp xs := by
    intro p hp ht
    obtain ⟨xs, hxs⟩ := Series.exists_eq_blobsAs hp ht hnulls
    exact ⟨p, hp, xs, hxs⟩
  split at hs
  · next ht => exact .inl (hblobs .binary (by decide) ht)
  · next ht => exact .inl (hblobs .largeBinary (by decide) ht)
  · next ht => exact .inl (hblobs .binaryView (by decide) ht)
  · next ht => exact .inr ⟨ht, (Except.ok.inj hs).symm⟩
  · cases hs

theorem length_of_vectorsOfSeries {surplus : List Cell} (h : vectorsOfSeries t surplus = .ok s) :
    s.length = t.length := by
  obtain ⟨u, -, hs⟩ := bind_eq_ok_iff.1 h
  split at hs
  · split at hs
    · cases hs
    · simp only at hs
      split at hs
      · cases hs
      · obtain ⟨vs, hvs, hrest⟩ := bind_eq_ok_iff.1 hs
        obtain ⟨_, -, hs⟩ := bind_eq_ok_iff.1 hrest
        cases hs
        rw [← Series.length_cells t, ← length_of_mapM hvs]
        exact Series.length_ofList vs
  · cases hs

theorem length_of_ofSeries {surplus : List Cell} (h : e.ofSeries t surplus = .ok s) :
    s.length = e.count (.series t surplus) := by
  cases e with
  | doubles =>
    obtain ⟨⟨p, atoms⟩, hatoms, hs⟩ := bind_eq_ok_iff.1 h
    cases hs
    exact (Series.length_ofList _).trans ((List.length_map _).trans (length_of_numbers hatoms))
  | singles =>
    obtain ⟨⟨p, atoms⟩, hatoms, hrest⟩ := bind_eq_ok_iff.1 h
    obtain ⟨xs, hxs, hs⟩ := bind_eq_ok_iff.1 hrest
    cases hs
    exact (Series.length_ofList xs).trans ((length_of_mapM hxs).trans (length_of_numbers hatoms))
  | texts =>
    obtain ⟨p, hp, xs, rfl⟩ := exists_of_textsOfSeries h
    cases (take_textsAs hp xs).symm.trans h
    have hlength : (Series.textsAs p hp xs).length = xs.length := Series.length_ofList xs
    exact (Series.length_ofList xs).trans hlength.symm
  | blobs =>
    -- Of blobs each element is a value, of bytes all of them are one.
    obtain ⟨p, hp, xs, rfl⟩ | ⟨ht, rfl⟩ := exists_of_blobsOfSeries h
    · cases (take_blobsAs hp xs).symm.trans h
      have hne : ∀ p ∈ Primitive.blobs, DataType.primitive p ≠ .uint8 := by decide
      have hgathers : blobs.gathers (.series (.blobsAs p hp xs) surplus) = false :=
        decide_eq_false (hne p hp)
      have hlength : (Series.blobsAs p hp xs).length = xs.length := Series.length_ofList xs
      rw [count, hgathers]
      exact (Series.length_ofList xs).trans hlength.symm
    · rw [count, gathers, decide_eq_true ht]
      rfl
  | vectors => exact length_of_vectorsOfSeries h
  | imageFormats =>
    simp only [ofSeries, formatsOfSeries] at h
    split at h
    · obtain ⟨u, -, hs⟩ := bind_eq_ok_iff.1 h
      cases hs
      rfl
    · cases h

/-- An encoding gives as many values as a raw value is. -/
theorem length_of_take {input : Input} (h : e.take input = .ok s) : s.length = e.count input := by
  cases input with
  | json v => exact length_of_ofJson h
  | series t surplus => exact length_of_ofSeries h

end Encoding

end Columnar
