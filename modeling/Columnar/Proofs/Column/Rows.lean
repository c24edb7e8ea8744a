import Columnar.Proofs.Column.Partition

/-!
# The rows of a column

A column has as many rows as its offsets say, however it was made, and each row is as long as its
offsets are apart.

## Main statements

- `Column.getElem?_rows`, `Column.length_rows`: the rows by place, and how many there are.
- `Column.map_length_rows`: the lengths of the rows are the distances between the offsets.
-/

namespace Columnar

theorem getElem?_filterMap_of_some {α β : Type} {f : α → Option β} {xs : List α}
    (h : ∀ x ∈ xs, ∃ y, f x = some y) (i : Nat) : (xs.filterMap f)[i]? = xs[i]?.bind f := by
  induction xs generalizing i with
  | nil => rfl
  | cons x xs ih =>
    rw [List.forall_mem_cons] at h
    obtain ⟨y, hy⟩ := h.1
    rw [List.filterMap_cons_some hy]
    cases i with
    | zero => exact hy.symm
    | succ i => exact ih h.2 i

/-- The distance to a place is that from the place before it. -/
theorem Offsets.getElem?_distances {start : Nat} {ends : List Nat} {i p q : Nat}
    (hp : (start :: ends)[i]? = some p) (hq : ends[i]? = some q) :
    (distances start ends)[i]? = some (q - p) := by
  induction ends generalizing start i with
  | nil => cases hq
  | cons e ends ih =>
    cases i with
    | zero =>
      cases hp
      cases hq
      rfl
    | succ i => exact ih hp hq

namespace Column

theorem exists_offsets {c : Column} {i : Nat} (h : i < c.numRows) :
    ∃ first next, c.offsets[i]? = some first ∧ c.offsets[i + 1]? = some next := by
  have hlength : c.offsets.length = c.numRows + 1 := rfl
  exact ⟨_, _, List.getElem?_eq_getElem (by omega), List.getElem?_eq_getElem (by omega)⟩

/-- A row is as long as its offsets are apart, as no row ends beyond what is stored. -/
theorem length_of_row? {c : Column} {i first next : Nat} {s : Series}
    (hfirst : c.offsets[i]? = some first) (hnext : c.offsets[i + 1]? = some next)
    (hs : c.row? i = some s) : s.length = next - first := by
  obtain ⟨first', next', hfirst', hnext', rfl⟩ := row?_eq_some_iff.1 hs
  obtain rfl := Option.some_inj.1 (hfirst.symm.trans hfirst')
  obtain rfl := Option.some_inj.1 (hnext.symm.trans hnext')
  have hrow : i + 1 ≤ c.numRows := Nat.le_of_lt_succ (List.getElem?_eq_some_iff.1 hnext).1
  have hfinish : next ≤ c.bounds.finish :=
    Offsets.places_mono hrow hnext c.bounds.getElem?_places_numRows
  have hwithin := c.within
  rw [Series.length_slice, Nat.min_eq_left (by omega)]

theorem exists_row? {c : Column} {i : Nat} (h : i < c.numRows) : ∃ s, c.row? i = some s := by
  obtain ⟨first, next, hfirst, hnext⟩ := exists_offsets h
  exact ⟨_, row?_eq_some_iff.2 ⟨first, next, hfirst, hnext, rfl⟩⟩

theorem getElem?_rows (c : Column) (i : Nat) : c.rows[i]? = c.row? i := by
  have hall : ∀ j ∈ List.range c.numRows, ∃ s, c.row? j = some s :=
    fun _ hj => exists_row? (List.mem_range.1 hj)
  rw [rows, getElem?_filterMap_of_some hall]
  by_cases h : i < c.numRows
  · rw [List.getElem?_range h]
    rfl
  · rw [List.getElem?_eq_none (by simpa using h), row?_eq_none (Nat.not_lt.1 h)]
    rfl

theorem length_rows (c : Column) : c.rows.length = c.numRows := by
  apply Nat.le_antisymm
  · rw [← List.getElem?_eq_none_iff, getElem?_rows, row?_eq_none (Nat.le_refl _)]
  · apply Nat.le_of_not_lt
    intro hlt
    obtain ⟨s, hs⟩ := exists_row? hlt
    rw [← getElem?_rows, List.getElem?_eq_none (Nat.le_refl _)] at hs
    cases hs

theorem map_length_rows (c : Column) : c.rows.map Series.length = c.lengths := by
  apply List.ext_getElem?
  intro i
  rw [List.getElem?_map, getElem?_rows]
  by_cases h : i < c.numRows
  · obtain ⟨first, next, hfirst, hnext⟩ := exists_offsets h
    obtain ⟨s, hs⟩ := exists_row? h
    have hlength : c.lengths[i]? = some (next - first) := Offsets.getElem?_distances hfirst hnext
    rw [hs, hlength, ← length_of_row? hfirst hnext hs]
    rfl
  · have hlength : c.lengths.length ≤ i := by
      rw [lengths, Offsets.length_lengths]
      exact Nat.not_lt.1 h
    rw [row?_eq_none (Nat.not_lt.1 h), List.getElem?_eq_none hlength]
    rfl

end Column

end Columnar
