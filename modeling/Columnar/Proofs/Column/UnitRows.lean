import Columnar.Proofs.Column.Layout

/-!
# One value in each row

The default column form of a record has as many rows as the first batch with values is long. It
exists if all batches with values have that length, which then is the length of the longest batch,
too. Otherwise the first batch that has another length is to blame.

## Main statements

- `Record.CommonLength`: all batches with values have one length.
- `ColumnList.exists_ofRecordBy_iff`: a record can be split if each batch can.
- `ColumnList.exists_of_ofRecordBy_error`: otherwise the first batch that cannot raises the error.
- `ColumnList.ofRecord_unitRows`: when the default column form exists, and what it is.
-/

namespace Columnar

/-! ## Rows of length one -/

theorem Batch.fits_replicate_one {b : Batch} {n : Nat} :
    b.Fits (List.replicate n 1) ↔ b.length = 0 ∨ n = b.length ∧ n ≤ Column.maxValues := by
  rw [Fits, total_replicate, Nat.mul_one]

theorem Batch.not_fits_of_misfit {b : Batch} {ns : List Nat} {e : Error} (hb : b.length ≠ 0)
    (h : b.Misfit ns e) : ¬ b.Fits ns := by
  intro hfits
  have herr := partition_eq_error hb h
  rw [partition_eq_ok hfits] at herr
  cases herr

/-- So few rows of length one only misfit a batch by its length. -/
theorem Batch.misfit_replicate_one {b : Batch} {n : Nat} {e : Error} (hmax : n ≤ Column.maxValues)
    (h : b.Misfit (List.replicate n 1) e) :
    b.length ≠ n ∧ e = .lengthMismatch b.descriptor.text n b.length := by
  have htotal : total (List.replicate n 1) = n := by
    rw [total_replicate, Nat.mul_one]
  have hu : n ≤ Text.maxUnsigned := Nat.le_trans hmax Column.maxValues_le_maxUnsigned
  cases h with
  | overflow h => omega
  | mismatch _ h =>
    rw [htotal] at h ⊢
    exact ⟨h.symm, rfl⟩
  | tooLong _ _ h => omega

/-- So many rows, all of them without values. -/
def Column.EmptyRows (c : Column) (n : Nat) : Prop :=
  ∀ i, (c.row? i).map Series.cells = if i < n then some [] else none

/-- One row for each value of a batch. -/
def Column.SingleRows (c : Column) (b : Batch) : Prop :=
  c.valueType = b.values.type ∧
    ∀ i, (c.row? i).map Series.cells = b.values.cells[i]?.map fun x => [x]

theorem Column.emptyRows_of_partition {b : Batch} {ns : List Nat} {c : Column}
    (hb : b.length = 0) (hc : b.partition ns = .ok c) : c.EmptyRows ns.length := by
  have hrow := (keeps_of_partition hc).row
  rw [Batch.rowLengths, if_pos hb] at hrow
  intro i
  rw [hrow i]
  by_cases hi : i < ns.length
  · rw [if_pos hi, List.getElem?_replicate_of_lt hi, Option.map_some, Option.map_some,
      Series.cells_slice, List.take_zero]
  · rw [if_neg hi, List.getElem?_replicate, if_neg hi]
    rfl

theorem Column.singleRows_of_partition {b : Batch} {n : Nat} {c : Column} (hb : b.length ≠ 0)
    (hc : b.partition (List.replicate n 1) = .ok c) : c.SingleRows b := by
  have hfits := Batch.exists_partition_iff.1 ⟨c, hc⟩
  obtain ⟨hn, -⟩ := (Batch.fits_replicate_one.1 hfits).resolve_left hb
  have hkeeps := keeps_of_partition hc
  have hrow := hkeeps.row
  rw [Batch.rowLengths, if_neg hb] at hrow
  have hlength : b.values.cells.length = n := by
    rw [Series.length_cells, hn]
    rfl
  refine ⟨hkeeps.valueType, ?_⟩
  intro i
  rw [hrow i]
  by_cases hi : i < n
  · have hcells : i < b.values.cells.length := by omega
    rw [List.getElem?_replicate_of_lt hi, List.take_replicate, total_replicate, Nat.mul_one,
      Nat.min_eq_left (Nat.le_of_lt hi), Option.map_some, Option.map_some, Series.cells_slice,
      List.drop_eq_getElem_cons hcells, List.getElem?_eq_getElem hcells]
    rfl
  · have hcells : b.values.cells.length ≤ i := by omega
    rw [List.getElem?_replicate, if_neg hi, List.getElem?_eq_none hcells]
    rfl

theorem Column.IsOf.emptyRows {a : Archetype} {ns : List Nat} {f : FieldSpec} {b : Batch}
    {c : Column} (h : c.IsOf a ns (f, .cleared b)) : c.EmptyRows ns.length := by
  obtain ⟨b', ⟨hb, -, hempty⟩, hc⟩ := h
  cases hb
  exact emptyRows_of_partition hempty hc

theorem Column.IsOf.singleRows {a : Archetype} {n : Nat} {f : FieldSpec} {b : Batch} {c : Column}
    (h : c.IsOf a (List.replicate n 1) (f, .present b)) : c.SingleRows b := by
  obtain ⟨b', ⟨hb, -, hne⟩, hc⟩ := h
  cases hb
  exact singleRows_of_partition hne hc

namespace Record

/-! ## Lengths of the batches -/

variable {r : Record}

/-- All batches with values have one length; it is zero if there are none. -/
structure CommonLength (r : Record) (n : Nat) : Prop where
  eq : ∀ b ∈ r.setBatches, b.length ≠ 0 → b.length = n
  zero : (∀ b ∈ r.setBatches, b.length = 0) → n = 0

/-- The first batch with values. -/
def leading? (r : Record) : Option Batch := r.setBatches.find? fun b => b.length ≠ 0

theorem defaultRows_eq (r : Record) :
    ColumnList.defaultRows r = (r.leading?.map Batch.length).getD 0 := by
  rw [ColumnList.defaultRows, List.find?_map, leading?]
  have hp : (fun n => decide (0 < n)) ∘ Batch.length = fun b => decide (b.length ≠ 0) := by
    funext b
    exact decide_eq_decide.2 Nat.pos_iff_ne_zero
  rw [hp]

theorem length_eq_zero_of_leading? (h : r.leading? = none) :
    ∀ b ∈ r.setBatches, b.length = 0 := by
  intro b hb
  have hnot := List.find?_eq_none.1 h b hb
  rw [decide_eq_true_eq, not_not] at hnot
  exact hnot

theorem leading?_spec {first : Batch} (h : r.leading? = some first) :
    first ∈ r.setBatches ∧ first.length ≠ 0 ∧ ColumnList.defaultRows r = first.length := by
  obtain ⟨hne, -⟩ := List.find?_eq_some_iff_append.1 h
  refine ⟨List.mem_of_find?_eq_some h, of_decide_eq_true hne, ?_⟩
  rw [defaultRows_eq, h]
  rfl

theorem exists_leading? {b : Batch} (hb : b ∈ r.setBatches) (hne : b.length ≠ 0) :
    ∃ first, r.leading? = some first := by
  cases h : r.leading? with
  | none => exact absurd (length_eq_zero_of_leading? h b hb) hne
  | some first => exact ⟨first, rfl⟩

theorem commonLength_iff {n : Nat} :
    r.CommonLength n ↔ n = ColumnList.defaultRows r ∧
      ∀ b ∈ r.setBatches, b.length = 0 ∨ ColumnList.defaultRows r = b.length := by
  cases hfirst : r.leading? with
  | none =>
    have hzero := length_eq_zero_of_leading? hfirst
    have hrows : ColumnList.defaultRows r = 0 := by
      rw [defaultRows_eq, hfirst]
      rfl
    rw [hrows]
    constructor
    · intro h
      exact ⟨h.zero hzero, fun b hb => Or.inl (hzero b hb)⟩
    · rintro ⟨rfl, -⟩
      exact ⟨fun b hb hne => absurd (hzero b hb) hne, fun _ => rfl⟩
  | some first =>
    obtain ⟨hmem, hne, hrows⟩ := leading?_spec hfirst
    rw [hrows]
    constructor
    · intro h
      have hn : first.length = n := h.eq first hmem hne
      refine ⟨hn.symm, ?_⟩
      intro b hb
      by_cases hz : b.length = 0
      · exact Or.inl hz
      · exact Or.inr (hn.trans (h.eq b hb hz).symm)
    · rintro ⟨rfl, hall⟩
      refine ⟨?_, fun hz => absurd (hz first hmem) hne⟩
      intro b hb hz
      exact ((hall b hb).resolve_left hz).symm

theorem defaultRows_le_maxValues (fits : ∀ b ∈ r.setBatches, b.length ≤ Column.maxValues) :
    ColumnList.defaultRows r ≤ Column.maxValues := by
  cases hfirst : r.leading? with
  | none =>
    rw [defaultRows_eq, hfirst]
    exact Nat.zero_le _
  | some first =>
    obtain ⟨hmem, -, hrows⟩ := leading?_spec hfirst
    rw [hrows]
    exact fits first hmem

/-- The common length of the batches with values is the length of the longest batch. -/
theorem CommonLength.numInstances_eq {n : Nat} (h : r.CommonLength n) : r.numInstances = n := by
  unfold numInstances
  cases hmax : (r.setBatches.map Batch.length).max? with
  | none =>
    have hnil : r.setBatches = [] := List.map_eq_nil_iff.1 (List.max?_eq_none_iff.1 hmax)
    have hzero : ∀ b ∈ r.setBatches, b.length = 0 := by
      rw [hnil]
      exact fun b hb => absurd hb List.not_mem_nil
    exact (h.zero hzero).symm
  | some m =>
    obtain ⟨hm, hle⟩ := List.max?_eq_some_iff.1 hmax
    obtain ⟨b, hb, rfl⟩ := List.mem_map.1 hm
    by_cases hz : b.length = 0
    · have hzero : ∀ b' ∈ r.setBatches, b'.length = 0 := by
        intro b' hb'
        exact Nat.le_zero.1 (hz ▸ hle b'.length (List.mem_map_of_mem hb'))
      exact hz.trans (h.zero hzero).symm
    · exact h.eq b hb hz

end Record

namespace ColumnList

/-! ## Splitting a record -/

variable {a : Archetype} {r : Record} {ns : List Nat}

/-- Splitting a record is splitting its batches, the first of which that cannot be split raises the
error. -/
theorem exists_of_ofRecordBy_error {e : Error} (h : ofRecordBy r ns = .error e) :
    ∃ before b after, r.setBatches = before ++ b :: after ∧ (∀ b' ∈ before, b'.Fits ns) ∧
      b.length ≠ 0 ∧ b.Misfit ns e := by
  have hsplit : (r.setBatches.mapM fun b : Batch => b.partition ns) = .error e := by
    unfold ofRecordBy at h
    cases hb : r.setBatches with
    | nil =>
      rw [hb] at h
      cases h
    | cons b bs =>
      rw [hb] at h
      cases hs : (b :: bs).mapM fun b : Batch => b.partition ns with
      | error e' =>
        simp only [hs] at h
        exact congrArg Except.error (Except.error.inj h)
      | ok cs =>
        simp only [hs] at h
        cases h
  obtain ⟨before, b, after, hmem, hbefore, hb⟩ := exists_of_mapM_error hsplit
  obtain ⟨hne, hmisfit⟩ := Batch.partition_eq_error_iff.1 hb
  refine ⟨before, b, after, hmem, ?_, hne, hmisfit⟩
  intro b' hb'
  exact Batch.exists_partition_iff.1 (hbefore b' hb')

theorem exists_ofRecordBy_iff :
    (∃ l, ofRecordBy r ns = .ok l) ↔ ∀ b ∈ r.setBatches, b.Fits ns := by
  constructor
  · rintro ⟨l, hl⟩ b hb
    rw [ofRecordBy_eq, ofBatches_eq_ok_iff] at hl
    have hmem : b ∈ r.columnBatches := by
      rw [Record.columnBatches, if_neg (List.ne_nil_of_mem hb), Record.rowForm]
      exact List.mem_cons_of_mem _ hb
    obtain ⟨c, -, hc⟩ := exists_of_mem_left hl hmem
    exact Batch.exists_partition_iff.1 ⟨c, hc⟩
  · intro hall
    cases hl : ofRecordBy r ns with
    | ok l => exact ⟨l, rfl⟩
    | error e =>
      obtain ⟨before, b, after, hmem, -, hne, hmisfit⟩ := exists_of_ofRecordBy_error hl
      have hb : b ∈ r.setBatches := by
        rw [hmem]
        exact List.mem_append_right before List.mem_cons_self
      exact absurd (hall b hb) (Batch.not_fits_of_misfit hne hmisfit)

/-! ## The default column form -/

theorem exists_ofRecord_iff (fits : ∀ b ∈ r.setBatches, b.length ≤ Column.maxValues) :
    (∃ l, ofRecord r = .ok l) ↔ ∃ n, r.CommonLength n := by
  unfold ofRecord
  rw [exists_ofRecordBy_iff]
  constructor
  · intro hall
    refine ⟨defaultRows r, Record.commonLength_iff.2 ⟨rfl, ?_⟩⟩
    intro b hb
    exact (Batch.fits_replicate_one.1 (hall b hb)).imp_right And.left
  · rintro ⟨n, hn⟩ b hb
    obtain ⟨-, hall⟩ := Record.commonLength_iff.1 hn
    have hmax := Record.defaultRows_le_maxValues fits
    exact Batch.fits_replicate_one.2 ((hall b hb).imp_right fun h => ⟨h, hmax⟩)

/-- The columns of a record with one value in each row. -/
structure UnitRows (a : Archetype) (r : Record) (n : Nat) (l : ColumnList) : Prop where
  length : l.length = r.setFields.length + 1
  numRows : l.numRows = n
  numInstances : r.numInstances = n
  indicator : ∃ c, l.columns[0]? = some c ∧ c.descriptor = a.indicatorDescriptor ∧ c.EmptyRows n
  cleared : ∀ (k : Nat) f b, r.setFields[k]? = some (f, .cleared b) →
    ∃ c, l.columns[k + 1]? = some c ∧ c.descriptor = a.descriptor f ∧ c.EmptyRows n
  present : ∀ (k : Nat) f b, r.setFields[k]? = some (f, .present b) →
    ∃ c, l.columns[k + 1]? = some c ∧ c.descriptor = a.descriptor f ∧ c.SingleRows b

theorem unitRows_of_ofRecord {n : Nat} {l : ColumnList} (reach : Record.Reachable a r)
    (hl : ofRecord r = .ok l) (hn : r.CommonLength n) (hset : r.isUnset = false) :
    UnitRows a r n l := by
  obtain ⟨hrows, -⟩ := Record.commonLength_iff.1 hn
  have hlength : (List.replicate n 1).length = n := List.length_replicate
  have laid : Laid a r (List.replicate n 1) l := by
    rw [hrows]
    exact laid_of_ofRecordBy reach hl
  have hne : r.setFields ≠ [] := by
    intro h
    rw [(Record.isUnset_iff_setFields reach).2 h] at hset
    cases hset
  have hempty := Column.emptyRows_of_partition (Batch.length_indicator a.indicatorDescriptor)
    (Batch.partition_indicator a.indicatorDescriptor (List.replicate n 1))
  obtain ⟨columns, rfl, fields⟩ := laid.exists_columns hne
  refine
    { length := congrArg Nat.succ fields.length_eq.symm, numRows := ?_,
      numInstances := hn.numInstances_eq, indicator := ?_, cleared := ?_, present := ?_ }
  · exact List.length_replicate.trans hlength
  · rw [hlength] at hempty ⊢
    exact ⟨_, rfl, rfl, hempty⟩
  · intro k f b hk
    obtain ⟨c, hc, hof⟩ := laid.exists_column hk
    have hrows := hof.emptyRows
    rw [hlength] at hrows
    exact ⟨c, hc, hof.descriptor, hrows⟩
  · intro k f b hk
    obtain ⟨c, hc, hof⟩ := laid.exists_column hk
    exact ⟨c, hc, hof.descriptor, hof.singleRows⟩

/-- The first batch with values, and the first one whose length differs from it. -/
def Blames (r : Record) (first b : Batch) : Prop :=
  r.setBatches.find? (fun x => x.length ≠ 0) = some first ∧
    r.setBatches.find? (fun x => x.length ≠ 0 ∧ x.length ≠ first.length) = some b

theorem exists_blames_of_error {e : Error}
    (fits : ∀ b ∈ r.setBatches, b.length ≤ Column.maxValues) (h : ofRecord r = .error e) :
    ∃ first b, Blames r first b ∧ e = .lengthMismatch b.descriptor.text first.length b.length := by
  obtain ⟨before, b, after, hmem, hbefore, hne, hmisfit⟩ := exists_of_ofRecordBy_error h
  have hb : b ∈ r.setBatches := by
    rw [hmem]
    exact List.mem_append_right before List.mem_cons_self
  have hmax := Record.defaultRows_le_maxValues fits
  obtain ⟨first, hfirst⟩ := Record.exists_leading? hb hne
  obtain ⟨-, -, hrows⟩ := Record.leading?_spec hfirst
  rw [hrows] at hbefore hmisfit hmax
  obtain ⟨hdiffer, he⟩ := Batch.misfit_replicate_one hmax hmisfit
  refine ⟨first, b, ⟨hfirst, ?_⟩, he⟩
  refine List.find?_eq_some_iff_append.2 ⟨decide_eq_true ⟨hne, hdiffer⟩, before, after, hmem, ?_⟩
  intro x hx
  rw [Bool.not_eq_true', decide_eq_false_iff_not, not_and_not_right]
  intro hxne
  exact ((Batch.fits_replicate_one.1 (hbefore x hx)).resolve_left hxne).1.symm

/-- The default column form of a record exists if its batches with values have one length, and then
each of them has one value in each row. Otherwise the error names the first batch that differs in
length from the first one with values. -/
theorem ofRecord_unitRows (reach : Record.Reachable a r)
    (fits : ∀ b ∈ r.setBatches, b.length ≤ Column.maxValues) :
    ((∃ l, ofRecord r = .ok l) ↔ ∃ n, r.CommonLength n) ∧
    (∀ l n, ofRecord r = .ok l → r.CommonLength n → r.isUnset = false → UnitRows a r n l) ∧
    ∀ e, ofRecord r = .error e →
      ∃ first b, Blames r first b ∧
        e = .lengthMismatch b.descriptor.text first.length b.length := by
  refine ⟨exists_ofRecord_iff fits, ?_, ?_⟩
  · intro l n hl hn hset
    exact unitRows_of_ofRecord reach hl hn hset
  · intro e he
    exact exists_blames_of_error fits he

theorem ofRecord_unitRows_capsules :
    ∃ l, Record.Reachable .capsules3D .capsules ∧
      (∀ b ∈ Record.capsules.setBatches, b.length ≤ Column.maxValues) ∧
      ofRecord .capsules = .ok l ∧ UnitRows .capsules3D .capsules 3 l := by
  have fits : ∀ b ∈ Record.capsules.setBatches, b.length ≤ Column.maxValues := by decide
  obtain ⟨-, hok, -⟩ := ofRecord_unitRows Record.reachable_capsules fits
  exact ⟨_, Record.reachable_capsules, fits, rfl, hok _ 3 rfl ⟨by decide, by decide⟩ rfl⟩

end ColumnList

end Columnar
