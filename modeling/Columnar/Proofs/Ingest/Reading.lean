import Columnar.Proofs.Ingest.Rendering

/-!
# Reading tables back

A table is read back column by column: integers are an index, whose kind is noted, and lists are a
column, whose descriptor is noted. What is read of the table of a chunk is the chunk, up to how the
columns keep their rows, so chunks that differ have different tables.

## Main definitions

- `IndexKind.ofNotes?`, `Descriptor.ofNotes?`: reading the notes on a column.
- `ColumnReading`, `Contents`: what can be read of a column and of a whole table.
- `Table.contents?`: reading a table.
- `Table.Renders`: where a table has what a chunk has.

## Main statements

- `Chunk.contents?_of_table`: what is read of the table of a chunk.
- `Chunk.renders_of_table`: the table of a chunk, place by place.
- `Chunk.table_faithful`: tables of different chunks are different.
-/

namespace Columnar

/-! ## Notes -/

namespace IndexKind

/-- The kind that notes tell, if it is one. -/
def ofNotes? (notes : List (String × String)) : Option IndexKind :=
  (notes.lookup "arche.index.kind").bind fun text => (parse text).toOption

theorem parse_name (k : IndexKind) : parse k.name = .ok k := by
  cases k <;> rfl

theorem ofNotes?_tableColumn (i : Index) : ofNotes? i.tableColumn.notes = some i.kind := by
  show (parse i.kind.name).toOption = some i.kind
  rw [parse_name]
  rfl

end IndexKind

namespace Descriptor

/-- The descriptor that notes tell, if they tell the component. -/
def ofNotes? (notes : List (String × String)) : Option Descriptor :=
  (notes.lookup "arche.component").map fun component =>
    ⟨notes.lookup "arche.archetype", notes.lookup "arche.field", component⟩

@[simp] theorem lookup_notes_archetype (d : Descriptor) :
    d.notes.lookup "arche.archetype" = d.archetype := by
  obtain ⟨archetype, field, component⟩ := d
  cases archetype <;> cases field <;> rfl

@[simp] theorem lookup_notes_component (d : Descriptor) :
    d.notes.lookup "arche.component" = some d.component := by
  obtain ⟨archetype, field, component⟩ := d
  cases archetype <;> cases field <;> rfl

@[simp] theorem lookup_notes_field (d : Descriptor) :
    d.notes.lookup "arche.field" = d.field := by
  obtain ⟨archetype, field, component⟩ := d
  cases archetype <;> cases field <;> rfl

theorem ofNotes?_notes (d : Descriptor) : ofNotes? d.notes = some d := by
  rw [ofNotes?, lookup_notes_component, lookup_notes_archetype, lookup_notes_field]
  rfl

end Descriptor

/-! ## Columns of a table -/

/-- What can be read of a column: not where its values are kept. -/
structure ColumnReading where
  descriptor : Descriptor
  valueType : DataType
  rows : List Series
deriving DecidableEq

def Column.reading (c : Column) : ColumnReading := ⟨c.descriptor, c.valueType, c.rows⟩

def ColumnReading.tableColumn (r : ColumnReading) : TableColumn :=
  ⟨r.descriptor.text, true, r.descriptor.notes, .lists r.valueType r.rows⟩

theorem Column.tableColumn_reading (c : Column) : c.tableColumn = c.reading.tableColumn := rfl

namespace TableColumn

def index? (k : TableColumn) : Option Index :=
  match k.cells with
  | .integers values => (IndexKind.ofNotes? k.notes).map fun kind => ⟨k.name, kind, values⟩
  | .lists _ _ => none

def reading? (k : TableColumn) : Option ColumnReading :=
  match k.cells with
  | .integers _ => none
  | .lists item rows => (Descriptor.ofNotes? k.notes).map fun d => ⟨d, item, rows⟩

/-- A column of a table that has what an index has. -/
structure OfIndex (k : TableColumn) (i : Index) : Prop where
  name : k.name = i.timeline
  type : k.cells.type = .int64
  kind : k.notes.lookup "arche.index.kind" = some i.kind.name
  values : k.cells = .integers i.values

/-- A column of a table that has what a column of a chunk has. -/
structure OfColumn (k : TableColumn) (c : Column) : Prop where
  name : k.name = c.descriptor.text
  type : k.cells.type = c.listType
  descriptor : Descriptor.ofNotes? k.notes = some c.descriptor
  rows : ∃ rows, k.cells = .lists c.valueType rows ∧ rows.length = c.numRows ∧
    ∀ r, rows[r]? = c.row? r

end TableColumn

theorem Index.index?_tableColumn (i : Index) : i.tableColumn.index? = some i := by
  show (IndexKind.ofNotes? i.tableColumn.notes).map _ = _
  rw [IndexKind.ofNotes?_tableColumn]
  rfl

theorem Index.ofIndex_tableColumn (i : Index) : i.tableColumn.OfIndex i := ⟨rfl, rfl, rfl, rfl⟩

theorem Column.reading?_tableColumn (c : Column) : c.tableColumn.reading? = some c.reading := by
  show (Descriptor.ofNotes? c.descriptor.notes).map _ = _
  rw [Descriptor.ofNotes?_notes]
  rfl

theorem Column.ofColumn_tableColumn (c : Column) : c.tableColumn.OfColumn c :=
  ⟨rfl, rfl, c.descriptor.ofNotes?_notes, c.rows, rfl, c.length_rows, c.getElem?_rows⟩

/-! ## Tables -/

/-- What can be read of a table. -/
structure Contents where
  entityPath : String
  indexes : List Index
  columns : List ColumnReading
deriving DecidableEq

namespace Table

def contents? (t : Table) : Option Contents :=
  (t.notes.lookup "arche.entity_path").map fun path =>
    ⟨path, t.columns.filterMap TableColumn.index?, t.columns.filterMap TableColumn.reading?⟩

/-- A table that has what a chunk has: first the indexes and then the columns, in their orders. -/
structure Renders (t : Table) (c : Chunk) : Prop where
  numRows : t.numRows = c.numRows
  full : ∀ k ∈ t.columns, k.cells.length = t.numRows
  entityPath : t.notes.lookup "arche.entity_path" = some c.entityPath
  width : t.columns.length = c.indexes.length + c.columns.length
  indexes : ∀ (n : Nat) (i : Index), c.indexes[n]? = some i →
    ∃ k, t.columns[n]? = some k ∧ k.OfIndex i
  columns : ∀ (n : Nat) (d : Column), c.columns.columns[n]? = some d →
    ∃ k, t.columns[c.indexes.length + n]? = some k ∧ k.OfColumn d

end Table

namespace Chunk

variable {c c' : Chunk} {t : Table}

def contents (c : Chunk) : Contents :=
  ⟨c.entityPath, c.indexes, c.columns.columns.map Column.reading⟩

theorem filterMap_index?_tableColumns (c : Chunk) :
    c.tableColumns.filterMap TableColumn.index? = c.indexes := by
  have hindexes : TableColumn.index? ∘ Index.tableColumn = some :=
    funext Index.index?_tableColumn
  have hcolumns : TableColumn.index? ∘ Column.tableColumn = fun _ => none := rfl
  rw [tableColumns, List.filterMap_append, List.filterMap_map, List.filterMap_map, hindexes,
    hcolumns, List.filterMap_some, List.filterMap_none, List.append_nil]

theorem filterMap_reading?_tableColumns (c : Chunk) :
    c.tableColumns.filterMap TableColumn.reading? = c.columns.columns.map Column.reading := by
  have hindexes : TableColumn.reading? ∘ Index.tableColumn = fun _ => none := rfl
  have hcolumns : TableColumn.reading? ∘ Column.tableColumn = some ∘ Column.reading :=
    funext Column.reading?_tableColumn
  rw [tableColumns, List.filterMap_append, List.filterMap_map, List.filterMap_map, hindexes,
    hcolumns, List.filterMap_none, List.nil_append, List.filterMap_eq_map]

/-- Reading the table of a chunk gives what there is to be read of the chunk. -/
theorem contents?_of_table (h : c.table = .ok t) : t.contents? = some c.contents := by
  obtain ⟨-, rfl⟩ := table_eq_ok_iff.1 h
  rw [contents, ← filterMap_index?_tableColumns, ← filterMap_reading?_tableColumns]
  rfl

/-- The table of a chunk has everything where a reader looks for it. -/
theorem renders_of_table (h : c.table = .ok t) : t.Renders c := by
  obtain ⟨hnone, rfl⟩ := table_eq_ok_iff.1 h
  refine ⟨rfl, (Table.refusal?_eq_none_iff.1 hnone).2, rfl, ?_, ?_, ?_⟩
  · show c.tableColumns.length = c.indexes.length + c.columns.columns.length
    rw [tableColumns, List.length_append, List.length_map, List.length_map]
  · intro n i hi
    have hn : n < (c.indexes.map Index.tableColumn).length := by
      rw [List.length_map]
      exact (List.getElem?_eq_some_iff.1 hi).1
    refine ⟨_, ?_, i.ofIndex_tableColumn⟩
    rw [tableColumns, List.getElem?_append_left hn, List.getElem?_map, hi]
    rfl
  · intro n d hd
    refine ⟨_, ?_, d.ofColumn_tableColumn⟩
    rw [tableColumns, List.getElem?_append_right (by rw [List.length_map]; omega),
      List.length_map, Nat.add_sub_cancel_left, List.getElem?_map, hd]
    rfl

/-! ## Chunks with the same table -/

/-- What a reading tells of each column is the same if the same can be read. -/
theorem map_eq_of_contents {β : Type} {f : Column → β} {g : ColumnReading → β}
    (hf : ∀ d, f d = g d.reading) (h : c'.contents = c.contents) :
    c'.columns.columns.map f = c.columns.columns.map f := by
  have hread : ∀ c : Chunk, c.columns.columns.map f = c.contents.columns.map g := by
    intro c
    show _ = (c.columns.columns.map Column.reading).map g
    rw [List.map_map]
    exact List.map_congr_left fun d _ => hf d
  rw [hread, hread, h]

theorem numRows_eq_headD (c : Chunk) :
    c.numRows = (c.columns.columns.map Column.numRows).headD 0 := by
  obtain ⟨path, indexes, ⟨_ | ⟨first, columns⟩⟩⟩ := c <;> rfl

/-- Chunks of which the same can be read have the same table, or none for the same reason. -/
theorem table_eq_of_contents (h : c'.contents = c.contents) : c'.table = c.table := by
  have hpath : c'.entityPath = c.entityPath := congrArg Contents.entityPath h
  have hindexes : c'.indexes = c.indexes := congrArg Contents.indexes h
  have hrows : c'.numRows = c.numRows := by
    rw [numRows_eq_headD, numRows_eq_headD,
      map_eq_of_contents (g := fun r => r.rows.length) (fun d => d.length_rows.symm) h]
  have hcolumns : c'.columns.columns.map Column.tableColumn =
      c.columns.columns.map Column.tableColumn :=
    map_eq_of_contents Column.tableColumn_reading h
  rw [table, table, hpath, hindexes, hrows, hcolumns]

theorem table_eq_ok_iff_contents (h : c.table = .ok t) :
    c'.table = .ok t ↔ c'.contents = c.contents := by
  constructor
  · intro h'
    exact Option.some_inj.1 ((contents?_of_table h').symm.trans (contents?_of_table h))
  · intro hcontents
    rw [table_eq_of_contents hcontents]
    exact h

/-- The table of a chunk has everything where a reader looks for it, and what is read of it is what
there is to be read of the chunk. So chunks with the same table have the same entity path, the same
indexes and columns for the same descriptors, with the same rows divided at the same places. -/
theorem table_faithful {c : Chunk} {t : Table} (h : c.table = .ok t) :
    t.Renders c ∧ t.contents? = some c.contents ∧
    (∀ c' : Chunk, c'.table = .ok t ↔ c'.contents = c.contents) ∧
    ∀ c' : Chunk, c'.table = .ok t →
      c'.entityPath = c.entityPath ∧ c'.indexes = c.indexes ∧
      c'.columns.descriptors = c.columns.descriptors ∧
      c'.columns.columns.map Column.rows = c.columns.columns.map Column.rows ∧
      c'.columns.columns.map Column.lengths = c.columns.columns.map Column.lengths := by
  refine ⟨renders_of_table h, contents?_of_table h, fun c' => table_eq_ok_iff_contents h, ?_⟩
  intro c' h'
  have hcontents : c'.contents = c.contents := (table_eq_ok_iff_contents h).1 h'
  refine ⟨congrArg Contents.entityPath hcontents, congrArg Contents.indexes hcontents, ?_, ?_, ?_⟩
  · exact map_eq_of_contents (g := ColumnReading.descriptor) (fun d => rfl) hcontents
  · exact map_eq_of_contents (g := ColumnReading.rows) (fun d => rfl) hcontents
  · exact map_eq_of_contents (g := fun r => r.rows.map Series.length)
      (fun d => d.map_length_rows.symm) hcontents

theorem table_faithful_capsules :
    ∃ l c t, ColumnList.Formed .capsules [2, 0, 1] l ∧
      make "data" [.sequence "step" [some 7, some 8, some 9]] l = .ok c ∧ c.table = .ok t ∧
      t.Renders c ∧ ∀ c' : Chunk, c'.table = .ok t → c'.indexes = c.indexes := by
  have hread : ∀ (c : Chunk) (t : Table), c.table = .ok t →
      t.Renders c ∧ ∀ c' : Chunk, c'.table = .ok t → c'.indexes = c.indexes := by
    intro c t ht
    obtain ⟨hrenders, -, -, hsame⟩ := table_faithful ht
    exact ⟨hrenders, fun c' h' => (hsame c' h').2.1⟩
  have hformed := ColumnList.Formed.ofRecordBy (r := .capsules) [2, 0, 1] rfl
  exact ⟨_, _, _, hformed, rfl, rfl, hread _ _ rfl⟩

end Chunk

end Columnar
