import Columnar.Proofs.Component.Count
import Columnar.Proofs.Number.Narrowing

/-!
# Which series an encoding accepts

A series is accepted for its type and if it has no nulls; one that is narrowed must also have no
number out of range. What is given then has an element for each element of the series, in the same
order, and differs from it in no more than the precision of its numbers. Only bytes are gathered in
one blob.

## Main statements

- `Encoding.Accepts`: the series that an encoding accepts.
- `Encoding.castCell`: what becomes of an element.
- `Encoding.ofSeries_eq_ok`: an accepted series is taken in, and what it is taken in as.
- `Encoding.encode_series`: every other series is refused.
-/

namespace Columnar

/-! ## Numbers in single precision -/

theorem Double.narrow_eq_ok_iff {x : Double} {y : Single} :
    x.narrow = .ok y ↔ ¬ x.Overflows ∧ x.toSingle = y := by
  rw [narrow, Overflows]
  split
  · next h =>
    rw [Bool.and_eq_true, Bool.not_eq_true'] at h
    simp [h]
  · next h =>
    rw [Bool.and_eq_true, Bool.not_eq_true'] at h
    simp [h]

theorem Double.narrow_eq_error_iff {x : Double} {fault : Fault} :
    x.narrow = .error fault ↔ x.Overflows ∧ fault = .outOfRange x := by
  rw [narrow, Overflows]
  split
  · next h =>
    rw [Bool.and_eq_true, Bool.not_eq_true'] at h
    simp [h, eq_comm]
  · next h =>
    rw [Bool.and_eq_true, Bool.not_eq_true'] at h
    simp [h]

namespace Cell

/-- The number that an element of a numeric type is. -/
def toDouble : DataType → Cell → Double
  | .primitive p, .atom a => a.toDouble p
  | _, _ => .ofInt 0

/-- The number in single precision, which one that has it already keeps. -/
def toSingle : DataType → Cell → Single
  | _, .atom (.single x) => x
  | type, c => (c.toDouble type).toSingle

end Cell

/-- A single number is not narrowed, and would not overflow if it were. -/
theorem Atom.narrow_eq_ok_iff {p : Primitive} {a : Atom} {y : Single} :
    a.narrow p = .ok y ↔
      ¬ (a.toDouble p).Overflows ∧ Cell.toSingle (.primitive p) (.atom a) = y := by
  cases a with
  | single x =>
    have hx : ¬ (Atom.toDouble p (.single x)).Overflows := x.not_overflows
    show Except.ok x = Except.ok y ↔ _ ∧ x = y
    rw [and_iff_right hx, Except.ok.injEq]
  | _ => exact Double.narrow_eq_ok_iff

namespace Encoding

/-- Elements of a numeric type none of which is out of range in single precision. -/
def InRange (type : DataType) (cells : List Cell) : Prop :=
  ∀ c ∈ cells, ¬ (c.toDouble type).Overflows

instance (type : DataType) (cells : List Cell) : Decidable (InRange type cells) :=
  inferInstanceAs (Decidable (∀ c ∈ cells, ¬ (c.toDouble type).Overflows))

/-- The series that an encoding accepts. The items of a series of lists are those of its elements
and those beyond its last whole list. -/
def Accepts : Encoding → Series → List Cell → Prop
  | .doubles, s, _ => s.type.isNumeric = true ∧ s.nullCount = 0
  | .singles, s, _ => s.type.isNumeric = true ∧ s.nullCount = 0 ∧ InRange s.type s.cells
  | .texts, s, _ => (∃ p ∈ Primitive.texts, s.type = .primitive p) ∧ s.nullCount = 0
  | .blobs, s, _ =>
    ((∃ p ∈ Primitive.blobs, s.type = .primitive p) ∨ s.type = .uint8) ∧ s.nullCount = 0
  | .vectors, s, surplus => ∃ item, s.type = .fixedSizeList item 3 ∧ item.type.isNumeric = true ∧
      s.nullCount = 0 ∧ (∀ c ∈ s.items ++ surplus, c.isMissing = false) ∧
      InRange item.type (s.items ++ surplus)
  | .imageFormats, s, _ => s.type = ImageFormat.type ∧ s.nullCount = 0

/-- What becomes of an element of a series of some type. -/
def castCell : Encoding → DataType → Cell → Cell
  | .doubles, type, c => .atom (.double (c.toDouble type))
  | .singles, type, c => .atom (.single (c.toSingle type))
  | .vectors, .fixedSizeList item _, .list items =>
    .list (items.map fun c => .atom (.single (c.toSingle item.type)))
  | _, _, c => c

/-- What a series is taken in as. -/
def TakenAs (e : Encoding) (s t : Series) : Prop :=
  (∃ bs, s = .bytes bs ∧ t = .blobs [bs] ∧ e = .blobs) ∨
    e.gathers (.ofSeries s) = false ∧ t.cells = s.cells.map (e.castCell s.type)

variable {s t : Series} {surplus : List Cell} {p : Primitive}

theorem exists_of_isNumeric {type : DataType} (h : type.isNumeric = true) :
    ∃ p, type = .primitive p := by
  cases type with
  | primitive p => exact ⟨p, rfl⟩
  | _ => cases h

theorem inRange_append {type : DataType} {cells rest : List Cell} :
    InRange type (cells ++ rest) ↔ InRange type cells ∧ InRange type rest :=
  List.forall_mem_append

theorem inRange_flatMap {α : Type} {type : DataType} {xs : List α} {cells : α → List Cell} :
    InRange type (xs.flatMap cells) ↔ ∀ x ∈ xs, InRange type (cells x) := by
  simp only [InRange, List.mem_flatMap]
  exact ⟨fun h x hx c hc => h c ⟨x, hx, hc⟩, fun h c ⟨x, hx, hc⟩ => h x hx c hc⟩

theorem inRange_atoms {atoms : List Atom} :
    InRange (.primitive p) (atoms.map .atom) ↔ ∀ a ∈ atoms, ¬ (a.toDouble p).Overflows :=
  List.forall_mem_map

/-- What is no value counts for nothing. -/
theorem inRange_iff_filterMap {cells : List Cell} :
    InRange (.primitive p) cells ↔
      ∀ a ∈ cells.filterMap Cell.atom?, ¬ (a.toDouble p).Overflows := by
  have hzero : ¬ (Double.ofInt 0).Overflows := by decide
  constructor
  · intro h a ha
    obtain ⟨c, hc, hca⟩ := List.mem_filterMap.1 ha
    cases c with
    | atom b =>
      cases hca
      exact h _ hc
    | _ => cases hca
  · intro h c hc
    cases c with
    | atom a => exact h a (List.mem_filterMap.2 ⟨.atom a, hc, rfl⟩)
    | _ => exact hzero

theorem mapM_narrow_eq_ok_iff {atoms : List Atom} {ys : List Single} :
    atoms.mapM (Atom.narrow p) = .ok ys ↔ (∀ a ∈ atoms, ¬ (a.toDouble p).Overflows) ∧
      atoms.map (fun a => Cell.toSingle (.primitive p) (.atom a)) = ys :=
  mapM_eq_ok_iff_map_eq fun _ _ => Atom.narrow_eq_ok_iff

/-! ## Numbers -/

theorem doublesOfSeries_eq_ok_iff : doublesOfSeries s = .ok t ↔
    doubles.Accepts s surplus ∧ t = .doubles (s.cells.map (Cell.toDouble s.type)) := by
  have hcells : ∀ {p}, s.type = .primitive p → s.nullCount = 0 →
      s.atoms.map (Atom.toDouble p) = s.cells.map (Cell.toDouble s.type) := by
    intro p ht hs
    rw [Series.cells_eq_map_atoms ht hs, List.map_map, ht]
    rfl
  constructor
  · intro h
    obtain ⟨⟨p, atoms⟩, hnumbers, h⟩ := bind_eq_ok_iff.1 h
    obtain ⟨hnumber, hs, rfl⟩ := numbers_eq_ok_iff.1 hnumbers
    obtain ⟨ht, hnumeric⟩ := number?_eq_some_iff.1 hnumber
    cases h
    rw [hcells ht hs]
    exact ⟨⟨hnumeric, hs⟩, rfl⟩
  · rintro ⟨⟨hnumeric, hs⟩, rfl⟩
    obtain ⟨p, ht⟩ := exists_of_isNumeric hnumeric
    rw [← hcells ht hs]
    exact bind_eq_ok_iff.2 ⟨_, numbers_eq_ok (number?_eq_some_iff.2 ⟨ht, hnumeric⟩) hs, rfl⟩

theorem singlesOfSeries_eq_ok_iff : singlesOfSeries s = .ok t ↔
    singles.Accepts s surplus ∧ t = .singles (s.cells.map (Cell.toSingle s.type)) := by
  have hnarrow : ∀ {p ys}, s.type = .primitive p → s.nullCount = 0 →
      (s.atoms.mapM (Atom.narrow p) = .ok ys ↔
        InRange s.type s.cells ∧ s.cells.map (Cell.toSingle s.type) = ys) := by
    intro p ys ht hs
    rw [Series.cells_eq_map_atoms ht hs, ht, inRange_atoms, List.map_map]
    exact mapM_narrow_eq_ok_iff
  constructor
  · intro h
    obtain ⟨⟨p, atoms⟩, hnumbers, h⟩ := bind_eq_ok_iff.1 h
    obtain ⟨hnumber, hs, rfl⟩ := numbers_eq_ok_iff.1 hnumbers
    obtain ⟨ht, hnumeric⟩ := number?_eq_some_iff.1 hnumber
    obtain ⟨ys, hys, h⟩ := bind_eq_ok_iff.1 h
    obtain ⟨hrange, rfl⟩ := (hnarrow ht hs).1 hys
    cases h
    exact ⟨⟨hnumeric, hs, hrange⟩, rfl⟩
  · rintro ⟨⟨hnumeric, hs, hrange⟩, rfl⟩
    obtain ⟨p, ht⟩ := exists_of_isNumeric hnumeric
    refine bind_eq_ok_iff.2 ⟨_, numbers_eq_ok (number?_eq_some_iff.2 ⟨ht, hnumeric⟩) hs, ?_⟩
    exact bind_eq_ok_iff.2 ⟨_, (hnarrow ht hs).2 ⟨hrange, rfl⟩, rfl⟩

/-! ## Vectors -/

/-- A list of three values. -/
def tripleOfAtoms (t : Atom × Atom × Atom) : Cell := .list [.atom t.1, .atom t.2.1, .atom t.2.2]

def narrowedTriple (p : Primitive) (t : Atom × Atom × Atom) : Vec3 :=
  ⟨Cell.toSingle (.primitive p) (.atom t.1), Cell.toSingle (.primitive p) (.atom t.2.1),
    Cell.toSingle (.primitive p) (.atom t.2.2)⟩

theorem exists_triple_of_fits {item : Field} {c : Cell} (hitem : item.type = .primitive p)
    (h : c.fits (.fixedSizeList item 3) = true) (hc : c.isMissing = false)
    (hitems : ∀ x ∈ c.items, x.isMissing = false) : ∃ t, c = tripleOfAtoms t := by
  obtain ⟨x, y, z, rfl, hall⟩ := Cell.exists_items_of_fits h hc
  simp only [Cell.allFit, hitem, Bool.and_true, Bool.and_eq_true] at hall
  obtain ⟨⟨-, fx⟩, ⟨-, fy⟩, -, fz⟩ := hall
  simp only [Cell.items, List.forall_mem_cons] at hitems
  obtain ⟨hx, hy, hz, -⟩ := hitems
  obtain ⟨x, -, rfl⟩ := Cell.exists_atom_of_fits fx hx
  obtain ⟨y, -, rfl⟩ := Cell.exists_atom_of_fits fy hy
  obtain ⟨z, -, rfl⟩ := Cell.exists_atom_of_fits fz hz
  exact ⟨(x, y, z), rfl⟩

theorem exists_triples {item : Field} (ht : s.type = .fixedSizeList item 3)
    (hitem : item.type = .primitive p) (hs : s.nullCount = 0)
    (hitems : ∀ c ∈ s.items, c.isMissing = false) :
    ∃ ts : List (Atom × Atom × Atom), s.cells = ts.map tripleOfAtoms := by
  refine exists_eq_map_iff.2 fun c hc => ?_
  have hfits : c.fits (.fixedSizeList item 3) = true := ht ▸ Series.fits_of_mem hc
  refine exists_triple_of_fits hitem hfits (Series.nullCount_eq_zero_iff.1 hs c hc) ?_
  exact fun x hx => hitems x (List.mem_flatMap.2 ⟨c, hc, hx⟩)

theorem vectorOfAtoms_eq_ok_iff {t : Atom × Atom × Atom} {v : Vec3} :
    vectorOfAtoms p ((tripleOfAtoms t).items.filterMap Cell.atom?) = .ok v ↔
      InRange (.primitive p) (tripleOfAtoms t).items ∧ narrowedTriple p t = v := by
  obtain ⟨x, y, z⟩ := t
  have hrange : InRange (.primitive p) (tripleOfAtoms (x, y, z)).items ↔
      ¬ (x.toDouble p).Overflows ∧ ¬ (y.toDouble p).Overflows ∧ ¬ (z.toDouble p).Overflows := by
    simp [InRange, tripleOfAtoms, Cell.items, Cell.toDouble]
  rw [hrange]
  constructor
  · intro h
    obtain ⟨x', hx', h⟩ := bind_eq_ok_iff.1 h
    obtain ⟨y', hy', h⟩ := bind_eq_ok_iff.1 h
    obtain ⟨z', hz', h⟩ := bind_eq_ok_iff.1 h
    cases h
    obtain ⟨hx, rfl⟩ := Atom.narrow_eq_ok_iff.1 hx'
    obtain ⟨hy, rfl⟩ := Atom.narrow_eq_ok_iff.1 hy'
    obtain ⟨hz, rfl⟩ := Atom.narrow_eq_ok_iff.1 hz'
    exact ⟨⟨hx, hy, hz⟩, rfl⟩
  · rintro ⟨⟨hx, hy, hz⟩, rfl⟩
    refine bind_eq_ok_iff.2 ⟨_, Atom.narrow_eq_ok_iff.2 ⟨hx, rfl⟩, ?_⟩
    refine bind_eq_ok_iff.2 ⟨_, Atom.narrow_eq_ok_iff.2 ⟨hy, rfl⟩, ?_⟩
    exact bind_eq_ok_iff.2 ⟨_, Atom.narrow_eq_ok_iff.2 ⟨hz, rfl⟩, rfl⟩

theorem exists_of_vectorsOfSeries (h : vectorsOfSeries s surplus = .ok t) :
    ∃ item, s.type = .fixedSizeList item 3 ∧ item.type.isNumeric = true ∧ s.nullCount = 0 ∧
      ∀ c ∈ s.items ++ surplus, c.isMissing = false := by
  obtain ⟨u, hu, h⟩ := bind_eq_ok_iff.1 h
  split at h
  · next item ht =>
    split at h
    · cases h
    · next p hp =>
      simp only at h
      split at h
      · cases h
      · next hmissing =>
        rw [not_not, List.countP_eq_zero] at hmissing
        refine ⟨item, ht, (number?_eq_some_iff.1 hp).2, refuseNulls_eq_ok_iff.1 hu, ?_⟩
        exact fun c hc => Bool.eq_false_iff.2 (hmissing c hc)
  · cases h

/-- Where the checks of the types and the nulls are passed, the lists are narrowed and then the
items that belong to none. -/
theorem vectorsOfSeries_eq {item : Field} (ht : s.type = .fixedSizeList item 3)
    (hp : item.type.number? = some p) (hs : s.nullCount = 0)
    (hmissing : ∀ c ∈ s.items ++ surplus, c.isMissing = false) : vectorsOfSeries s surplus = (do
      let vs ← s.cells.mapM fun c => vectorOfAtoms p (c.items.filterMap Cell.atom?)
      let _ ← (surplus.filterMap Cell.atom?).mapM (Atom.narrow p)
      .ok (Vec3.series vs)) := by
  have hnone : (s.items ++ surplus).countP Cell.isMissing = 0 :=
    List.countP_eq_zero.2 fun c hc => Bool.eq_false_iff.1 (hmissing c hc)
  simp only [vectorsOfSeries, refuseNulls_eq_ok hs, ht, hp, hnone]
  rfl

/-- Lists of three numbers are vectors unless a number is out of range, be it beyond the lists. -/
theorem vectorsOfSeries_triples {item : Field} {ts : List (Atom × Atom × Atom)}
    (ht : s.type = .fixedSizeList item 3) (hp : item.type.number? = some p)
    (hs : s.nullCount = 0) (hmissing : ∀ c ∈ s.items ++ surplus, c.isMissing = false)
    (hts : s.cells = ts.map tripleOfAtoms) : vectorsOfSeries s surplus = .ok t ↔
      InRange item.type (s.items ++ surplus) ∧ Vec3.series (ts.map (narrowedTriple p)) = t := by
  obtain ⟨hitem, -⟩ := number?_eq_some_iff.1 hp
  have hrest : InRange (.primitive p) surplus ↔
      ∀ a ∈ surplus.filterMap Cell.atom?, ¬ (a.toDouble p).Overflows := inRange_iff_filterMap
  have hrange : InRange item.type (s.items ++ surplus) ↔
      (∀ u ∈ ts, InRange (.primitive p) (tripleOfAtoms u).items) ∧
        ∀ a ∈ surplus.filterMap Cell.atom?, ¬ (a.toDouble p).Overflows := by
    rw [inRange_append, Series.items, hts, List.flatMap_map, inRange_flatMap, hitem, hrest]
  have hvectors : ∀ vs, (s.cells.mapM fun c => vectorOfAtoms p (c.items.filterMap Cell.atom?)) =
      .ok vs ↔ (∀ u ∈ ts, InRange (.primitive p) (tripleOfAtoms u).items) ∧
        ts.map (narrowedTriple p) = vs := by
    intro vs
    rw [hts, List.mapM_map]
    exact mapM_eq_ok_iff_map_eq fun _ _ => vectorOfAtoms_eq_ok_iff
  rw [vectorsOfSeries_eq ht hp hs hmissing, bind_eq_ok_iff, hrange]
  constructor
  · rintro ⟨vs, hvs, h⟩
    obtain ⟨ys, hys, h⟩ := bind_eq_ok_iff.1 h
    obtain ⟨hlists, rfl⟩ := (hvectors vs).1 hvs
    exact ⟨⟨hlists, (mapM_narrow_eq_ok_iff.1 hys).1⟩, Except.ok.inj h⟩
  · rintro ⟨⟨hlists, hrest⟩, rfl⟩
    refine ⟨_, (hvectors _).2 ⟨hlists, rfl⟩, ?_⟩
    exact bind_eq_ok_iff.2 ⟨_, mapM_narrow_eq_ok_iff.2 ⟨hrest, rfl⟩, rfl⟩

/-! ## All encodings -/

variable {e : Encoding}

theorem takenAs_of_vectorsOfSeries (h : vectorsOfSeries s surplus = .ok t) :
    vectors.Accepts s surplus ∧ t.cells = s.cells.map (vectors.castCell s.type) := by
  obtain ⟨item, ht, hnumeric, hs, hmissing⟩ := exists_of_vectorsOfSeries h
  obtain ⟨p, hitem⟩ := exists_of_isNumeric hnumeric
  have hp : item.type.number? = some p := number?_eq_some_iff.2 ⟨hitem, hnumeric⟩
  obtain ⟨ts, hts⟩ := exists_triples ht hitem hs (List.forall_mem_append.1 hmissing).1
  obtain ⟨hrange, rfl⟩ := (vectorsOfSeries_triples ht hp hs hmissing hts).1 h
  refine ⟨⟨item, ht, hnumeric, hs, hmissing, hrange⟩, ?_⟩
  show (ts.map (narrowedTriple p)).map Vec3.cell = _
  rw [hts, ht, List.map_map, List.map_map]
  refine List.map_congr_left fun u _ => ?_
  simp only [Function.comp_apply, castCell, tripleOfAtoms, List.map_cons, List.map_nil, hitem]
  rfl

theorem takenAs_of_ofSeries (h : e.ofSeries s surplus = .ok t) :
    e.Accepts s surplus ∧ e.TakenAs s t := by
  cases e with
  | doubles =>
    obtain ⟨haccepts, rfl⟩ := doublesOfSeries_eq_ok_iff.1 h
    exact ⟨haccepts, .inr ⟨rfl, List.map_map⟩⟩
  | singles =>
    obtain ⟨haccepts, rfl⟩ := singlesOfSeries_eq_ok_iff.1 h
    exact ⟨haccepts, .inr ⟨rfl, List.map_map⟩⟩
  | texts =>
    obtain ⟨p, hp, xs, rfl⟩ := exists_of_textsOfSeries h
    cases (take_textsAs hp xs).symm.trans h
    have hs : (Series.textsAs p hp xs).nullCount = 0 := Series.nullCount_ofList (fun _ => rfl) xs
    exact ⟨⟨⟨p, hp, rfl⟩, hs⟩, .inr ⟨rfl, (List.map_id _).symm⟩⟩
  | blobs =>
    obtain ⟨u, hu, -⟩ := bind_eq_ok_iff.1 h
    have hs := refuseNulls_eq_ok_iff.1 hu
    obtain ⟨p, hp, xs, rfl⟩ | ⟨ht, -⟩ := exists_of_blobsOfSeries h
    · cases (take_blobsAs hp xs).symm.trans h
      have hne : ∀ p ∈ Primitive.blobs, DataType.primitive p ≠ .uint8 := by decide
      exact ⟨⟨.inl ⟨p, hp, rfl⟩, hs⟩, .inr ⟨decide_eq_false (hne p hp), (List.map_id _).symm⟩⟩
    · obtain ⟨bs, rfl⟩ := Series.exists_eq_bytes ht hs
      cases (take_bytes bs).symm.trans h
      exact ⟨⟨.inr ht, hs⟩, .inl ⟨bs, rfl, rfl, rfl⟩⟩
  | vectors =>
    obtain ⟨haccepts, hcells⟩ := takenAs_of_vectorsOfSeries h
    exact ⟨haccepts, .inr ⟨rfl, hcells⟩⟩
  | imageFormats =>
    simp only [ofSeries, formatsOfSeries] at h
    split at h
    · next ht =>
      obtain ⟨u, hu, h⟩ := bind_eq_ok_iff.1 h
      cases h
      exact ⟨⟨ht, refuseNulls_eq_ok_iff.1 hu⟩, .inr ⟨rfl, (List.map_id _).symm⟩⟩
    · cases h

theorem exists_of_accepts (h : e.Accepts s surplus) : ∃ t, e.ofSeries s surplus = .ok t := by
  cases e with
  | doubles => exact ⟨_, doublesOfSeries_eq_ok_iff.2 ⟨h, rfl⟩⟩
  | singles => exact ⟨_, singlesOfSeries_eq_ok_iff.2 ⟨h, rfl⟩⟩
  | texts =>
    obtain ⟨⟨p, hp, ht⟩, hs⟩ := h
    obtain ⟨xs, rfl⟩ := Series.exists_eq_textsAs hp ht hs
    exact ⟨_, take_textsAs hp xs⟩
  | blobs =>
    obtain ⟨⟨p, hp, ht⟩ | ht, hs⟩ := h
    · obtain ⟨xs, rfl⟩ := Series.exists_eq_blobsAs hp ht hs
      exact ⟨_, take_blobsAs hp xs⟩
    · obtain ⟨bs, rfl⟩ := Series.exists_eq_bytes ht hs
      exact ⟨_, take_bytes bs⟩
  | vectors =>
    obtain ⟨item, ht, hnumeric, hs, hmissing, hrange⟩ := h
    obtain ⟨p, hitem⟩ := exists_of_isNumeric hnumeric
    have hp : item.type.number? = some p := number?_eq_some_iff.2 ⟨hitem, hnumeric⟩
    obtain ⟨ts, hts⟩ := exists_triples ht hitem hs (List.forall_mem_append.1 hmissing).1
    exact ⟨_, (vectorsOfSeries_triples ht hp hs hmissing hts).2 ⟨hrange, rfl⟩⟩
  | imageFormats => exact ⟨s, formatsOfSeries_eq_ok h.1 h.2⟩

/-- A series is taken in if it is one that the encoding accepts, and otherwise refused under the
name of the encoding. What is taken in has the type of the encoding and no nulls; it is one blob of
all bytes, or in each place what becomes of the element there. -/
theorem encode_series (e : Encoding) (s : Series) (surplus : List Cell) :
    ((∃ t, e.encode (.series s surplus) = .ok t) ↔ e.Accepts s surplus) ∧
    (∀ t, e.encode (.series s surplus) = .ok t →
      t.type = e.type ∧ t.nullCount = 0 ∧ e.TakenAs s t) ∧
    (¬ e.Accepts s surplus → ∃ fault : Fault,
      e.encode (.series s surplus) = .error (.conversion e.name fault.message)) := by
  have hsound : ∀ t, e.encode (.series s surplus) = .ok t → e.Accepts s surplus := by
    intro t h
    exact (takenAs_of_ofSeries (encode_eq_ok_iff.1 h)).1
  refine ⟨⟨fun ⟨t, h⟩ => hsound t h, ?_⟩, ?_, ?_⟩
  · intro h
    obtain ⟨t, ht⟩ := exists_of_accepts h
    exact ⟨t, encode_eq_ok_iff.2 ht⟩
  · intro t h
    have htake := encode_eq_ok_iff.1 h
    have hcanonical := canonical_of_take htake
    exact ⟨hcanonical.type, hcanonical.nullCount, (takenAs_of_ofSeries htake).2⟩
  · intro hrefused
    cases h : e.encode (.series s surplus) with
    | ok t => exact absurd (hsound t h) hrefused
    | error error =>
      obtain ⟨fault, -, rfl⟩ := encode_eq_error_iff.1 h
      exact ⟨fault, rfl⟩

/-- One vector in double precision. Its items have another name and may be null. -/
def ones : Series := .triples "xyz" true [(.ofInt 1, .ofInt 1, .ofInt 1)]

/-- A number out of range refuses a series, even if it stands beyond the last whole list. -/
theorem encode_series_ones :
    (∃ t, vectors.encode (.series ones []) = .ok t ∧ t.type = Vec3.type) ∧
      ∃ fault : Fault,
        vectors.encode (.series ones [.atom (.double ⟨0x48078287f49c4a1d⟩)]) =
          .error (.conversion "arche.datatypes.Vec3D" fault.message) := by
  have haccepts : vectors.Accepts ones [] :=
    ⟨_, rfl, rfl, rfl, by decide, by decide⟩
  have hrefused : ¬ vectors.Accepts ones [.atom (.double ⟨0x48078287f49c4a1d⟩)] := by
    rintro ⟨item, ht, -, -, -, hrange⟩
    cases ht
    revert hrange
    decide
  obtain ⟨t, ht⟩ := (encode_series vectors ones []).1.2 haccepts
  refine ⟨⟨t, ht, ((encode_series vectors ones []).2.1 t ht).1⟩, ?_⟩
  exact (encode_series vectors ones _).2.2 hrefused

end Encoding

end Columnar
