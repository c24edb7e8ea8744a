import Columnar.Column.List
import Columnar.Proofs.Column.Partition
import Columnar.Proofs.Record.Reachable

/-!
# Regrouping does not depend on the way

A column still is the batch that it was made from, and the column of an indicator is the indicator's
batch without values. So a list of columns made from a record holds the row form of the record,
however often its rows were regrouped, and splitting it anew gives what splitting the record gives.

## Main statements

- `ColumnList.Formed`: the lists that come from a record, with the lengths that were used last.
- `ColumnList.batches_of_formed`: such a list holds the row form of the record.
- `ColumnList.repartition_eq_ofRecordBy`: regrouping it is splitting the record.
-/

namespace Columnar

/-! ## The batch in a column -/

theorem Batch.batch_of_partition {b : Batch} {lengths : List Nat} {c : Column}
    (hc : b.partition lengths = .ok c) : c.batch = b := by
  obtain ⟨h, rfl⟩ := Batch.partition_eq_ok_iff.1 hc
  rw [Column.batch, Batch.values_inRows]
  rfl

theorem Batch.length_indicator (d : Descriptor) : (Batch.indicator d).length = 0 := rfl

/-- The column of an indicator is made like that of any batch without values. -/
theorem Batch.partition_indicator (d : Descriptor) (lengths : List Nat) :
    (Batch.indicator d).partition lengths = .ok (.indicator d lengths.length) := by
  have h : (Batch.indicator d).Fits lengths := Or.inl (Batch.length_indicator d)
  have hr : (Batch.indicator d).rowLengths lengths = List.replicate lengths.length 0 :=
    if_pos (Batch.length_indicator d)
  rw [Batch.partition_eq_ok h]
  simp only [Batch.inRows, hr, Offsets.ofLengths_replicate_zero]
  rfl

/-- The batches that the columns of a record hold: its row form, unless all fields are unset. -/
def Record.columnBatches (r : Record) : List Batch :=
  if r.setBatches = [] then [] else r.rowForm

namespace ColumnList

/-! ## Columns of batches -/

/-- The batches that the columns hold. -/
def batches (l : ColumnList) : List Batch := l.columns.map Column.batch

/-- The columns of batches, with rows of given lengths. -/
def ofBatches (bs : List Batch) (lengths : List Nat) : Except Error ColumnList :=
  (bs.mapM fun b : Batch => b.partition lengths).map ColumnList.mk

theorem ofBatches_eq_ok_iff {bs : List Batch} {lengths : List Nat} {l : ColumnList} :
    ofBatches bs lengths = .ok l ↔
      List.Forall₂ (fun (b : Batch) c => b.partition lengths = .ok c) bs l.columns := by
  rw [← mapM_eq_ok_iff, ofBatches]
  cases bs.mapM fun b : Batch => b.partition lengths with
  | error e =>
    constructor
    · intro h
      cases h
    · intro h
      cases h
  | ok cs =>
    constructor
    · intro h
      cases h
      rfl
    · intro h
      cases h
      rfl

theorem batches_of_ofBatches {bs : List Batch} {lengths : List Nat} {l : ColumnList}
    (h : ofBatches bs lengths = .ok l) : l.batches = bs := by
  obtain ⟨cs⟩ := l
  have hall : List.Forall₂ _ bs cs := ofBatches_eq_ok_iff.1 h
  show cs.map Column.batch = bs
  clear h
  induction hall with
  | nil => rfl
  | cons hc _ ih => rw [List.map_cons, Batch.batch_of_partition hc, ih]

/-- Both ways to columns are the same with the batches taken from another place. -/
theorem ofRecordBy_eq (r : Record) (lengths : List Nat) :
    ofRecordBy r lengths = ofBatches r.columnBatches lengths := by
  unfold ofRecordBy Record.columnBatches
  cases hb : r.setBatches with
  | nil => rw [if_pos rfl]; rfl
  | cons b bs =>
    have hi : r.archetype.indicatorBatch.partition lengths =
        .ok (.indicator r.archetype.indicatorDescriptor lengths.length) :=
      Batch.partition_indicator _ lengths
    rw [if_neg (List.cons_ne_nil b bs), Record.rowForm, hb, ofBatches,
      mapM_cons_ok (f := fun b : Batch => b.partition lengths) hi]
    dsimp only
    cases (b :: bs).mapM fun b : Batch => b.partition lengths with
    | error e => rfl
    | ok cs => rfl

theorem repartition_eq (l : ColumnList) (lengths : List Nat) :
    l.repartition lengths = ofBatches l.batches lengths := by
  rw [repartition, ofBatches, batches, List.mapM_map]
  unfold Column.repartition
  rfl

/-! ## Lists that come from a record -/

/-- The column lists that come from a record, with the lengths that were used last. -/
inductive Formed (r : Record) : List Nat → ColumnList → Prop
  | ofRecord {l : ColumnList} (h : ofRecord r = .ok l) :
      Formed r (List.replicate (defaultRows r) 1) l
  | ofRecordBy {l : ColumnList} (lengths : List Nat) (h : ofRecordBy r lengths = .ok l) :
      Formed r lengths l
  | repartition {before : List Nat} {l l' : ColumnList} (lengths : List Nat)
      (formed : Formed r before l) (h : l.repartition lengths = .ok l') : Formed r lengths l'

theorem batches_of_formed {r : Record} {lengths : List Nat} {l : ColumnList}
    (h : Formed r lengths l) : l.batches = r.columnBatches := by
  induction h with
  | ofRecord h =>
    rw [ColumnList.ofRecord, ofRecordBy_eq] at h
    exact batches_of_ofBatches h
  | ofRecordBy lengths h =>
    rw [ofRecordBy_eq] at h
    exact batches_of_ofBatches h
  | repartition lengths _ h ih =>
    rw [repartition_eq, ih] at h
    exact batches_of_ofBatches h

/-- Splitting a list of columns anew gives what splitting the record gives, the same columns or the
same error, whatever rows the list had before. -/
theorem repartition_eq_ofRecordBy {r : Record} {before : List Nat} {l : ColumnList}
    (h : Formed r before l) (lengths : List Nat) :
    l.repartition lengths = ofRecordBy r lengths := by
  rw [repartition_eq, batches_of_formed h, ofRecordBy_eq]

theorem repartition_eq_ofRecordBy_capsules :
    ∃ l l', ofRecordBy .capsules [1, 2] = .ok l ∧ l.repartition [3] = .ok l' ∧
      Formed .capsules [3] l' ∧ l'.repartition [2, 0, 1] = ofRecordBy .capsules [2, 0, 1] := by
  refine ⟨_, _, rfl, rfl, ?_⟩
  have formed := Formed.repartition [3] (.ofRecordBy (r := .capsules) [1, 2] rfl) rfl
  exact ⟨formed, repartition_eq_ofRecordBy formed [2, 0, 1]⟩

end ColumnList

end Columnar
