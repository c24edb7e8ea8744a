import Columnar.Ingest.Table
import Columnar.Proofs.Column.Layout
import Columnar.Proofs.Column.Rows
import Columnar.Proofs.Ingest.Validation

/-!
# Chunks that make up a table

A chunk is made from any columns, and of its indexes it is the length that counts. A table needs
more: a value of every index in each row, and the same number of rows in all columns. Columns that
come from a record have the same number of rows. Other columns, and indexes with a missing value,
may make up a chunk of which there is no table.

## Main statements

- `Table.refusal?_eq_none_iff`: which columns make up a table.
- `Index.Complete`, `ColumnList.Aligned`: what a table needs of a chunk.
- `ColumnList.aligned_of_formed`: columns that come from a record are aligned.
- `Chunk.exists_table_iff_of_formed`: what a table of such columns needs.
- `Chunk.Unrenderable`: why there is no table of a chunk.
- `Chunk.table_of_make`: of which chunks there is a table.
- `Chunk.make_without_table`: chunks of which there is none.
-/

namespace Columnar

/-! ## Tables -/

namespace Table

variable {context : String} {numRows : Nat} {notes : List (String × String)}
  {columns : List TableColumn}

theorem find?_nulls_eq_none_iff :
    columns.find? (fun c => !c.nullable && c.cells.hasNulls) = none ↔
      ∀ c ∈ columns, c.nullable = false → c.cells.hasNulls = false := by
  simp only [List.find?_eq_none, Bool.and_eq_true, Bool.not_eq_true', not_and, Bool.not_eq_true]

theorem any_length_iff :
    (columns.any fun c => c.cells.length != numRows) = true ↔
      ¬ ∀ c ∈ columns, c.cells.length = numRows := by
  simp only [List.any_eq_true, bne_iff_ne, ne_eq, not_forall, exists_prop]

/-- The first null where there should be none is noticed before anything else. -/
theorem refusal?_of_null {before after : List TableColumn} {c : TableColumn}
    (hbefore : ∀ b ∈ before, b.nullable = false → b.cells.hasNulls = false)
    (hnullable : c.nullable = false) (hnulls : c.cells.hasNulls = true) :
    refusal? numRows (before ++ c :: after) =
      some ("Invalid argument error: Column '" ++ c.name
        ++ "' is declared as non-nullable but contains null values") := by
  have hfind : (before ++ c :: after).find? (fun c => !c.nullable && c.cells.hasNulls) =
      some c := by
    rw [List.find?_append, find?_nulls_eq_none_iff.2 hbefore, Option.none_or,
      List.find?_cons_of_pos (by rw [hnullable, hnulls]; rfl)]
  unfold refusal?
  rw [hfind]

theorem refusal?_of_length
    (hnulls : ∀ c ∈ columns, c.nullable = false → c.cells.hasNulls = false)
    (hlength : ¬ ∀ c ∈ columns, c.cells.length = numRows) :
    refusal? numRows columns =
      some "Invalid argument error: all columns in a record batch must have the specified row count"
    := by
  unfold refusal?
  rw [find?_nulls_eq_none_iff.2 hnulls]
  exact if_pos (any_length_iff.2 hlength)

/-- Columns make up a table if nulls are only where they may be and all columns have so many
rows. -/
theorem refusal?_eq_none_iff :
    refusal? numRows columns = none ↔
      (∀ c ∈ columns, c.nullable = false → c.cells.hasNulls = false) ∧
        ∀ c ∈ columns, c.cells.length = numRows := by
  unfold refusal?
  cases hfind : columns.find? fun c => !c.nullable && c.cells.hasNulls with
  | some c =>
    constructor
    · intro h
      cases h
    · rintro ⟨hnulls, -⟩
      rw [find?_nulls_eq_none_iff.2 hnulls] at hfind
      cases hfind
  | none =>
    rw [and_iff_right (find?_nulls_eq_none_iff.1 hfind), ← not_iff_not, ← any_length_iff]
    simp only [ite_eq_right_iff, reduceCtorEq, imp_false, not_not]

theorem make_eq_ok_iff {t : Table} :
    make context numRows notes columns = .ok t ↔
      refusal? numRows columns = none ∧ t = ⟨numRows, notes, columns⟩ := by
  unfold make
  cases refusal? numRows columns with
  | some cause =>
    constructor
    · intro h
      cases h
    · rintro ⟨h, -⟩
      cases h
  | none =>
    constructor
    · intro h
      exact ⟨rfl, (Except.ok.inj h).symm⟩
    · rintro ⟨-, rfl⟩
      rfl

theorem make_eq_error {cause : String} (h : refusal? numRows columns = some cause) :
    make context numRows notes columns = .error (.rendering context [cause]) := by
  rw [make, h]

end Table

/-! ## What a table needs of a chunk -/

/-- An index with a value for each row that it counts. -/
def Index.Complete (i : Index) : Prop := none ∉ i.values

instance (i : Index) : Decidable i.Complete := inferInstanceAs (Decidable (none ∉ i.values))

/-- Columns with the same number of rows. -/
def ColumnList.Aligned (l : ColumnList) : Prop := ∀ c ∈ l.columns, c.numRows = l.numRows

theorem Index.hasNulls_eq_false_iff {i : Index} :
    i.tableColumn.cells.hasNulls = false ↔ i.Complete := by
  show i.values.any Option.isNone = false ↔ none ∉ i.values
  rw [List.any_eq_false]
  constructor
  · intro h hnone
    exact h none hnone rfl
  · intro h v hv hnone
    rw [Option.isNone_iff_eq_none.1 hnone] at hv
    exact h hv

theorem Column.length_tableColumn (c : Column) : c.tableColumn.cells.length = c.numRows :=
  c.length_rows

/-- Columns that come from a record have the same number of rows. -/
theorem ColumnList.aligned_of_formed {r : Record} {ns : List Nat} {l : ColumnList}
    (h : Formed r ns l) : l.Aligned := by
  have hby := ofRecordBy_of_formed h
  rw [ofRecordBy_eq, ofBatches_eq_ok_iff] at hby
  have hrows : ∀ c ∈ l.columns, c.numRows = ns.length := by
    intro c hc
    obtain ⟨b, -, hb⟩ := exists_of_mem_right hby hc
    rw [(Column.keeps_of_partition hb).numRows, Batch.length_rowLengths]
  intro c hc
  rw [hrows c hc]
  obtain ⟨_ | ⟨first, columns⟩⟩ := l
  · cases hc
  · exact (hrows first List.mem_cons_self).symm

namespace Chunk

variable {c : Chunk}

/-! ## Chunks that are made -/

theorem length_of_make {path : String} {indexes : List Index} {columns : ColumnList}
    (h : make path indexes columns = .ok c) :
    c = ⟨path, indexes, columns⟩ ∧ ∀ i ∈ indexes, i.length = columns.numRows := by
  obtain ⟨⟨-, hindexes⟩, rfl⟩ := make_eq_ok_iff.1 h
  exact ⟨rfl, hindexes.lengths⟩

/-! ## Tables of chunks -/

/-- The columns of the table of a chunk. -/
def tableColumns (c : Chunk) : List TableColumn :=
  c.indexes.map Index.tableColumn ++ c.columns.columns.map Column.tableColumn

theorem forall_mem_tableColumns {P : TableColumn → Prop} :
    (∀ k ∈ c.tableColumns, P k) ↔
      (∀ i ∈ c.indexes, P i.tableColumn) ∧ ∀ d ∈ c.columns.columns, P d.tableColumn := by
  rw [tableColumns, List.forall_mem_append, List.forall_mem_map, List.forall_mem_map]

/-- Only indexes may not have nulls. -/
theorem nulls_tableColumns_iff :
    (∀ k ∈ c.tableColumns, k.nullable = false → k.cells.hasNulls = false) ↔
      ∀ i ∈ c.indexes, i.Complete := by
  rw [forall_mem_tableColumns]
  constructor
  · rintro ⟨h, -⟩ i hi
    exact Index.hasNulls_eq_false_iff.1 (h i hi rfl)
  · intro h
    exact ⟨fun i hi _ => Index.hasNulls_eq_false_iff.2 (h i hi), fun d _ _ => rfl⟩

theorem length_tableColumns_iff (hindexes : ∀ i ∈ c.indexes, i.length = c.numRows) :
    (∀ k ∈ c.tableColumns, k.cells.length = c.numRows) ↔ c.columns.Aligned := by
  have hcells : ∀ i ∈ c.indexes, i.tableColumn.cells.length = c.numRows := hindexes
  rw [forall_mem_tableColumns, and_iff_right hcells]
  constructor
  · intro h d hd
    rw [← d.length_tableColumn]
    exact h d hd
  · intro h d hd
    rw [d.length_tableColumn]
    exact h d hd

theorem table_eq_ok_iff {t : Table} :
    c.table = .ok t ↔ Table.refusal? c.numRows c.tableColumns = none ∧
      t = ⟨c.numRows, [("arche.entity_path", c.entityPath)], c.tableColumns⟩ :=
  Table.make_eq_ok_iff

theorem exists_table_iff (hindexes : ∀ i ∈ c.indexes, i.length = c.numRows) :
    (∃ t, c.table = .ok t) ↔ (∀ i ∈ c.indexes, i.Complete) ∧ c.columns.Aligned := by
  rw [← nulls_tableColumns_iff, ← length_tableColumns_iff hindexes, ← Table.refusal?_eq_none_iff]
  constructor
  · rintro ⟨t, h⟩
    exact (table_eq_ok_iff.1 h).1
  · intro h
    exact ⟨_, table_eq_ok_iff.2 ⟨h, rfl⟩⟩

/-- Of columns that come from a record it is only the indexes that may stand in the way. -/
theorem exists_table_iff_of_formed {r : Record} {ns : List Nat}
    (formed : ColumnList.Formed r ns c.columns) (hindexes : ∀ i ∈ c.indexes, i.length = c.numRows) :
    (∃ t, c.table = .ok t) ↔ ∀ i ∈ c.indexes, i.Complete := by
  rw [exists_table_iff hindexes]
  exact and_iff_left (ColumnList.aligned_of_formed formed)

/-- Why there is no table of a chunk whose indexes have the right lengths. -/
inductive Unrenderable (c : Chunk) : Error → Prop
  | missingValue {before after : List Index} {i : Index} (h : c.indexes = before ++ i :: after)
      (hbefore : ∀ j ∈ before, j.Complete) (hi : ¬ i.Complete) :
      Unrenderable c (.rendering ("record batch for " ++ c.entityPath)
        ["Invalid argument error: Column '" ++ i.timeline
          ++ "' is declared as non-nullable but contains null values"])
  | ragged (h : ∀ i ∈ c.indexes, i.Complete) (hcolumns : ¬ c.columns.Aligned) :
      Unrenderable c (.rendering ("record batch for " ++ c.entityPath)
        ["Invalid argument error: all columns in a record batch must have the specified row count"])

theorem table_eq_error {e : Error} (hindexes : ∀ i ∈ c.indexes, i.length = c.numRows)
    (h : c.Unrenderable e) : c.table = .error e := by
  cases h with
  | @missingValue before after i h hbefore hi =>
    have hnulls : i.tableColumn.cells.hasNulls = true := by
      rw [← Bool.not_eq_false, Index.hasNulls_eq_false_iff]
      exact hi
    have hbefore' : ∀ b ∈ before.map Index.tableColumn,
        b.nullable = false → b.cells.hasNulls = false := by
      rw [List.forall_mem_map]
      exact fun j hj _ => Index.hasNulls_eq_false_iff.2 (hbefore j hj)
    apply Table.make_eq_error
    rw [h, List.map_append, List.map_cons, List.append_assoc, List.cons_append]
    exact Table.refusal?_of_null hbefore' rfl hnulls
  | ragged h hcolumns =>
    rw [← length_tableColumns_iff hindexes] at hcolumns
    exact Table.make_eq_error (Table.refusal?_of_length (nulls_tableColumns_iff.2 h) hcolumns)

theorem exists_unrenderable (h : ¬ ((∀ i ∈ c.indexes, i.Complete) ∧ c.columns.Aligned)) :
    ∃ e, c.Unrenderable e := by
  cases hfind : c.indexes.find? fun i => !decide i.Complete with
  | some i =>
    obtain ⟨hi, before, after, hsplit, hbefore⟩ := List.find?_eq_some_iff_append.1 hfind
    refine ⟨_, .missingValue hsplit ?_ ?_⟩
    · intro j hj
      simpa using hbefore j hj
    · simpa using hi
  | none =>
    have hcomplete : ∀ i ∈ c.indexes, i.Complete := by
      intro i hi
      simpa using List.find?_eq_none.1 hfind i hi
    exact ⟨_, .ragged hcomplete fun hcolumns => h ⟨hcomplete, hcolumns⟩⟩

theorem table_eq_error_iff {e : Error} (hindexes : ∀ i ∈ c.indexes, i.length = c.numRows) :
    c.table = .error e ↔ c.Unrenderable e := by
  constructor
  · intro h
    have hnot : ¬ ((∀ i ∈ c.indexes, i.Complete) ∧ c.columns.Aligned) := by
      rw [← exists_table_iff hindexes]
      rintro ⟨t, ht⟩
      rw [ht] at h
      cases h
    obtain ⟨e', he'⟩ := exists_unrenderable hnot
    rw [table_eq_error hindexes he'] at h
    exact Except.error.inj h ▸ he'
  · exact table_eq_error hindexes

/-- There is a table of a chunk if no value of an index is missing and all columns have the same
number of rows, as those that come from a record do. It has a row for each row of the chunk. If
there is none, the first index with a missing value is to blame, or else the columns are. -/
theorem table_of_make {path : String} {indexes : List Index} {columns : ColumnList} {c : Chunk}
    (h : make path indexes columns = .ok c) :
    ((∃ t, c.table = .ok t) ↔ (∀ i ∈ indexes, i.Complete) ∧ columns.Aligned) ∧
    (∀ t, c.table = .ok t →
      t.numRows = c.numRows ∧ ∀ k ∈ t.columns, k.cells.length = c.numRows) ∧
    (∀ e, c.table = .error e ↔ c.Unrenderable e) ∧
    ∀ r ns, ColumnList.Formed r ns columns → columns.Aligned := by
  obtain ⟨rfl, hindexes⟩ := length_of_make h
  refine ⟨exists_table_iff hindexes, ?_, fun e => table_eq_error_iff hindexes, ?_⟩
  · intro t ht
    obtain ⟨hnone, rfl⟩ := table_eq_ok_iff.1 ht
    exact ⟨rfl, (Table.refusal?_eq_none_iff.1 hnone).2⟩
  · intro r ns hformed
    exact ColumnList.aligned_of_formed hformed

theorem table_of_make_capsules :
    ∃ l c, ColumnList.Formed .capsules [2, 0, 1] l ∧
      make "data" [.sequence "step" [some 7, some 8, some 9]] l = .ok c ∧
      ∃ t, c.table = .ok t ∧ t.numRows = 3 := by
  have hrendered : ∀ l c, ColumnList.Formed .capsules [2, 0, 1] l →
      make "data" [.sequence "step" [some 7, some 8, some 9]] l = .ok c →
      ∃ t, c.table = .ok t ∧ t.numRows = c.numRows := by
    intro l c hformed hmake
    obtain ⟨htable, hrows, -, haligned⟩ := table_of_make hmake
    obtain ⟨t, ht⟩ := htable.2 ⟨by decide, haligned _ _ hformed⟩
    exact ⟨t, ht, (hrows t ht).1⟩
  have hformed := ColumnList.Formed.ofRecordBy (r := .capsules) [2, 0, 1] rfl
  exact ⟨_, _, hformed, rfl, hrendered _ _ hformed rfl⟩

/-- A column for an indicator. -/
def marker (rows : Nat) : Column :=
  .indicator (.forIndicator "arche.archetypes.Scalar" "arche.components.ScalarIndicator") rows

/-- A chunk with an index that has no value in the second row, and one with columns of different
lengths: both are made, and there is no table of either. -/
theorem make_without_table :
    (∃ c, make "data" [.sequence "step" [some 7, none]] ⟨[marker 2]⟩ = .ok c ∧
      c.table = .error (.rendering "record batch for data"
        ["Invalid argument error: Column 'step' is declared as non-nullable but contains null "
          ++ "values"])) ∧
    ∃ c, make "data" [.sequence "step" [some 7, some 8]] ⟨[marker 2, marker 3]⟩ = .ok c ∧
      c.table = .error (.rendering "record batch for data"
        ["Invalid argument error: all columns in a record batch must have the specified row "
          ++ "count"]) :=
  ⟨⟨_, rfl, rfl⟩, _, rfl, rfl⟩

end Chunk

end Columnar
