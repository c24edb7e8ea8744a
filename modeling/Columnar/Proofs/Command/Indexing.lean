import Columnar.Command.Run
import Columnar.Proofs.Ingest.Rendering

/-!
# Columns with an index

With a timeline the command makes the same columns as without one and brings them together with an
index. Nothing can go wrong on the way but the file of the index: columns that come from a record
have the same number of rows, and an index of so many values makes up a table with them. If there is
no file, the rows are numbered, so there is a value for each.

## Main statements

- `ColumnsOptions.unindexed`, `ColumnsOptions.indexedBy`: a request without a timeline and with one.
- `Succeeds`, `succeeds_iff`: the program ends without an error.
- `readIndex_eq_ok_iff`: the files that hold an index.
- `Answers`, `summarize_unindexed_eq_ok_iff`: what a request without a timeline comes to.
- `summarize_indexedBy`, `Indexes`: what a timeline adds to it.
- `columns_indexed`: a request with a timeline beside the one without.
-/

namespace Columnar

theorem Chunk.make_one_eq_ok_iff {path : String} {i : Index} {columns : ColumnList} {c : Chunk}
    (hpath : path ≠ "") :
    make path [i] columns = .ok c ↔ i.length = columns.numRows ∧ c = ⟨path, [i], columns⟩ := by
  rw [make_eq_ok_iff, and_iff_right hpath, Index.placed_singleton_iff]

theorem Json.Value.int?_eq_some_iff {v : Value} {i : Int} :
    v.int? = some i ↔ v = .number (.int i) := by
  constructor
  · intro h
    cases v with
    | number n =>
      cases n with
      | int j => rw [Option.some_inj.1 h]
      | real x finite => cases h
    | _ => cases h
  · rintro rfl
    rfl

namespace Command

variable {files : Files} {o : ColumnsOptions} {timeline : String} {s : Summary}

/-! ## Requests -/

namespace ColumnsOptions

/-- The request without a timeline. -/
def unindexed (o : ColumnsOptions) : ColumnsOptions :=
  { o with timeline := none, indexFile := none }

/-- The request with a timeline, and with a file of index values or none. -/
def indexedBy (o : ColumnsOptions) (timeline : String) (file : Option String) : ColumnsOptions :=
  { o with timeline := some timeline, indexFile := file }

end ColumnsOptions

/-- The program ends without an error. -/
def Succeeds (files : Files) (o : ColumnsOptions) : Prop :=
  ((Request.columns o).run files).exit = 0

theorem succeeds_iff : Succeeds files o ↔ ∃ s, summarize files o = .ok s := by
  show (Outcome.ofAnswer (columnsText files o)).exit = 0 ↔ _
  unfold columnsText
  cases summarize files o with
  | error failure =>
    constructor
    · intro h
      cases h
    · rintro ⟨s, h⟩
      cases h
  | ok s => exact ⟨fun _ => ⟨s, rfl⟩, fun _ => rfl⟩

/-! ## The values of an index -/

/-- Index values as JSON. -/
def indexList (values : List Int64) : Json.Value :=
  .array (values.map fun v => .number (.int v.toInt))

theorem readIndexValue_eq_ok_iff {v : Json.Value} {i : Int64} :
    readIndexValue v = .ok i ↔ v = .number (.int i.toInt) := by
  constructor
  · intro h
    simp only [readIndexValue] at h
    split at h
    · next n hn =>
      split at h
      · next hrange =>
        cases h
        have hlow : -2 ^ 63 ≤ n := by omega
        have hhigh : n < 2 ^ 63 := by omega
        rw [Int64.toInt_ofInt_of_le hlow hhigh]
        exact Json.Value.int?_eq_some_iff.1 hn
      · cases h
    · cases h
  · rintro rfl
    have hrange : -0x8000000000000000 ≤ i.toInt ∧ i.toInt ≤ 0x7fffffffffffffff := by
      have hlow := i.le_toInt
      have hhigh := i.toInt_lt
      omega
    have hint : (Json.Value.number (.int i.toInt)).int? = some i.toInt := rfl
    simp only [readIndexValue, hint]
    rw [if_pos hrange, Int64.ofInt_toInt]

theorem readIndex_eq_ok_iff {path : String} {values : List Int64} :
    readIndex files path = .ok values ↔ readJson files path = .ok (indexList values) := by
  have hitems : ∀ items : List Json.Value, items.mapM readIndexValue = .ok values ↔
      items = values.map fun v => .number (.int v.toInt) :=
    fun _ => mapM_eq_ok_iff_eq_map fun _ _ => readIndexValue_eq_ok_iff
  constructor
  · intro h
    obtain ⟨v, hv, h⟩ := bind_eq_ok_iff.1 h
    cases v with
    | array items => rw [hv, (hitems items).1 h, indexList]
    | _ => cases h
  · intro h
    exact bind_eq_ok_iff.2 ⟨_, h, (hitems _).2 rfl⟩

def rowNumbers (rows : Nat) : List Int64 := (List.range rows).map Int64.ofNat

theorem toInt_rowNumbers {rows : Nat} (h : rows ≤ 0x8000000000000000) :
    (rowNumbers rows).map Int64.toInt = (List.range rows).map Int.ofNat := by
  rw [rowNumbers, List.map_map]
  refine List.map_congr_left ?_
  intro n hn
  have hlt : n < 2 ^ 63 := Nat.lt_of_lt_of_le (List.mem_range.1 hn) h
  exact Int64.toInt_ofNat_of_lt hlt

/-! ## Columns of a request -/

theorem exists_formed_of_columnsOf {r : Record} {p : Option (List Nat)} {l : ColumnList}
    (h : columnsOf r p = .ok l) : ∃ ns, ColumnList.Formed r ns l := by
  cases p with
  | none => exact ⟨_, .ofRecord h⟩
  | some lengths => exact ⟨lengths, .ofRecordBy lengths h⟩

theorem resolve_eq_ok_iff {name : String} {a : Archetype} :
    resolve name = .ok a ↔ Archetype.find? name = some a := by
  unfold resolve
  cases Archetype.find? name <;> simp only [reduceCtorEq, Except.ok.injEq, Option.some.injEq]

theorem readFields_eq_ok_iff {path : String} {fields : List (String × Input)} :
    readFields files path = .ok fields ↔ ∃ entries,
      readJson files path = .ok (.object entries) ∧
        entries.map (fun p => (p.1, Input.json p.2)) = fields := by
  constructor
  · intro h
    obtain ⟨v, hv, h⟩ := bind_eq_ok_iff.1 h
    cases v with
    | object entries => exact ⟨entries, hv, Except.ok.inj h⟩
    | _ => cases h
  · rintro ⟨entries, hv, rfl⟩
    exact bind_eq_ok_iff.2 ⟨_, hv, rfl⟩

/-- A summary without an index is that of a request if its columns are those of the record that the
values in the file make up, for the archetype of the name. -/
structure Answers (files : Files) (o : ColumnsOptions) (s : Summary) : Prop where
  archetype : Archetype.find? o.archetype = some s.archetype
  columns : ∃ entries r, readJson files o.input = .ok (.object entries) ∧
    Record.tryConstruct s.archetype (entries.map fun p => (p.1, .json p.2)) = .ok r ∧
    columnsOf r o.partition = .ok s.columns
  indexed : s.indexed = none

theorem summarize_unindexed_eq_ok_iff :
    summarize files o.unindexed = .ok s ↔ Answers files o s := by
  constructor
  · intro h
    obtain ⟨a, ha, h⟩ := bind_eq_ok_iff.1 h
    obtain ⟨fields, hfields, h⟩ := bind_eq_ok_iff.1 h
    obtain ⟨r, hr, h⟩ := bind_eq_ok_iff.1 h
    obtain ⟨l, hl, hs⟩ := bind_eq_ok_iff.1 h
    obtain ⟨entries, hentries, rfl⟩ := readFields_eq_ok_iff.1 hfields
    cases hs
    exact
      { archetype := resolve_eq_ok_iff.1 ha
        columns := ⟨entries, r, hentries, mapError_eq_ok_iff.1 hr, mapError_eq_ok_iff.1 hl⟩
        indexed := rfl }
  · obtain ⟨a, l, indexed⟩ := s
    rintro ⟨ha, ⟨entries, r, hentries, hr, hl⟩, rfl⟩
    have hfields := readFields_eq_ok_iff.2 ⟨entries, hentries, rfl⟩
    refine bind_eq_ok_iff.2 ⟨a, resolve_eq_ok_iff.2 ha, bind_eq_ok_iff.2 ⟨_, hfields, ?_⟩⟩
    refine bind_eq_ok_iff.2 ⟨r, mapError_eq_ok_iff.2 hr, ?_⟩
    exact bind_eq_ok_iff.2 ⟨l, mapError_eq_ok_iff.2 hl, rfl⟩

theorem Answers.exists_formed (h : Answers files o s) :
    ∃ r ns, ColumnList.Formed r ns s.columns := by
  obtain ⟨entries, r, -, -, hl⟩ := h.columns
  obtain ⟨ns, hformed⟩ := exists_formed_of_columnsOf hl
  exact ⟨r, ns, hformed⟩

/-- A timeline is taken into account only when there are columns. -/
theorem summarize_indexedBy (files : Files) (o : ColumnsOptions) (timeline : String)
    (file : Option String) :
    summarize files (o.indexedBy timeline file) =
      (summarize files o.unindexed >>= fun s =>
        index files (o.indexedBy timeline file) s.columns timeline >>= fun i =>
          .ok { s with indexed := some i }) := by
  simp only [summarize, bind_assoc]
  rfl

/-! ## Indexing -/

theorem index_eq_ok_iff {file : Option String} {l : ColumnList} {i : Indexed}
    (path : o.entityPath ≠ "") :
    index files (o.indexedBy timeline file) l timeline = .ok i ↔ ∃ values t,
      indexValues files l.numRows file = .ok values ∧ values.length = l.numRows ∧
        Chunk.table ⟨o.entityPath, [⟨timeline, o.indexKind, values.map some⟩], l⟩ = .ok t ∧
        i = ⟨timeline, o.indexKind, values, t⟩ := by
  constructor
  · intro h
    obtain ⟨values, hvalues, h⟩ := bind_eq_ok_iff.1 h
    obtain ⟨c, hc, h⟩ := bind_eq_ok_iff.1 h
    obtain ⟨t, ht, hi⟩ := bind_eq_ok_iff.1 h
    obtain ⟨hlength, rfl⟩ := (Chunk.make_one_eq_ok_iff path).1 (mapError_eq_ok_iff.1 hc)
    have hvalues' : values.length = l.numRows := by
      rw [← hlength, Index.length, List.length_map]
    exact ⟨values, t, hvalues, hvalues', mapError_eq_ok_iff.1 ht, (Except.ok.inj hi).symm⟩
  · rintro ⟨values, t, hvalues, hlength, ht, rfl⟩
    have hmake : Chunk.make o.entityPath [⟨timeline, o.indexKind, values.map some⟩] l = .ok _ :=
      (Chunk.make_one_eq_ok_iff path).2 ⟨(List.length_map some).trans hlength, rfl⟩
    refine bind_eq_ok_iff.2 ⟨values, hvalues, ?_⟩
    refine bind_eq_ok_iff.2 ⟨_, mapError_eq_ok_iff.2 hmake, ?_⟩
    exact bind_eq_ok_iff.2 ⟨t, mapError_eq_ok_iff.2 ht, rfl⟩

/-- Columns that come from a record make up a table with any index of so many values. -/
theorem exists_table_of_formed {r : Record} {ns : List Nat} {l : ColumnList}
    (h : ColumnList.Formed r ns l) (path : String) (timeline : String) (kind : IndexKind)
    {values : List Int64} (hlength : values.length = l.numRows) :
    ∃ t, Chunk.table ⟨path, [⟨timeline, kind, values.map some⟩], l⟩ = .ok t := by
  have hrows : (⟨timeline, kind, values.map some⟩ : Index).length = l.numRows :=
    (List.length_map some).trans hlength
  have hcomplete : (⟨timeline, kind, values.map some⟩ : Index).Complete := by
    intro hnone
    obtain ⟨v, -, hv⟩ := List.mem_map.1 hnone
    cases hv
  refine (Chunk.exists_table_iff_of_formed h ?_).2 ?_
  · exact List.forall_mem_singleton.2 hrows
  · exact List.forall_mem_singleton.2 hcomplete

/-- One summary is another one with an index of given values, and with the table of both. -/
def Indexes (o : ColumnsOptions) (timeline : String) (values : List Int64) (s₀ s : Summary) :
    Prop :=
  ∃ t, s = { s₀ with indexed := some ⟨timeline, o.indexKind, values, t⟩ } ∧
    Chunk.table ⟨o.entityPath, [⟨timeline, o.indexKind, values.map some⟩], s₀.columns⟩ = .ok t

theorem summarize_indexedBy_eq_ok_iff (path : o.entityPath ≠ "") {file : Option String} :
    summarize files (o.indexedBy timeline file) = .ok s ↔ ∃ s₀ values, Answers files o s₀ ∧
      indexValues files s₀.columns.numRows file = .ok values ∧
      values.length = s₀.columns.numRows ∧ Indexes o timeline values s₀ s := by
  rw [summarize_indexedBy, bind_eq_ok_iff]
  constructor
  · rintro ⟨s₀, hs₀, h⟩
    obtain ⟨i, hi, hs⟩ := bind_eq_ok_iff.1 h
    obtain ⟨values, t, hvalues, hlength, ht, rfl⟩ := (index_eq_ok_iff path).1 hi
    have hanswers := summarize_unindexed_eq_ok_iff.1 hs₀
    exact ⟨s₀, values, hanswers, hvalues, hlength, t, (Except.ok.inj hs).symm, ht⟩
  · rintro ⟨s₀, values, hanswers, hvalues, hlength, t, rfl, ht⟩
    have hi : index files (o.indexedBy timeline file) s₀.columns timeline = .ok _ :=
      (index_eq_ok_iff path).2 ⟨values, t, hvalues, hlength, ht, rfl⟩
    exact ⟨s₀, summarize_unindexed_eq_ok_iff.2 hanswers, bind_eq_ok_iff.2 ⟨_, hi, rfl⟩⟩

theorem succeeds_unindexed_iff :
    Succeeds files o.unindexed ↔ ∃ s₀, Answers files o s₀ := by
  rw [succeeds_iff]
  simp only [summarize_unindexed_eq_ok_iff]

theorem succeeds_indexedBy_iff (path : o.entityPath ≠ "") {file : Option String} :
    Succeeds files (o.indexedBy timeline file) ↔ ∃ s₀ values, Answers files o s₀ ∧
      indexValues files s₀.columns.numRows file = .ok values ∧
      values.length = s₀.columns.numRows := by
  rw [succeeds_iff]
  constructor
  · rintro ⟨s, hs⟩
    obtain ⟨s₀, values, hs₀, hvalues, hlength, -⟩ := (summarize_indexedBy_eq_ok_iff path).1 hs
    exact ⟨s₀, values, hs₀, hvalues, hlength⟩
  · rintro ⟨s₀, values, hs₀, hvalues, hlength⟩
    obtain ⟨r, ns, hformed⟩ := hs₀.exists_formed
    obtain ⟨t, ht⟩ := exists_table_of_formed hformed o.entityPath timeline o.indexKind hlength
    exact ⟨_, (summarize_indexedBy_eq_ok_iff path).2
      ⟨s₀, values, hs₀, hvalues, hlength, t, rfl, ht⟩⟩

theorem length_rowNumbers (rows : Nat) : (rowNumbers rows).length = rows := by
  rw [rowNumbers, List.length_map, List.length_range]

/-- With a timeline and no file of index values, the command succeeds as it does without a timeline,
and the index of the same columns are the numbers of their rows. With a file it succeeds if in
addition the file holds a value for each row, and these are the index. -/
theorem columns_indexed (files : Files) (o : ColumnsOptions) (path : o.entityPath ≠ "")
    (timeline : String) :
    (∀ s₀, summarize files o.unindexed = .ok s₀ ↔ Answers files o s₀) ∧
    (Succeeds files (o.indexedBy timeline none) ↔ Succeeds files o.unindexed) ∧
    (∀ s, summarize files (o.indexedBy timeline none) = .ok s → ∃ s₀, Answers files o s₀ ∧
      Indexes o timeline (rowNumbers s₀.columns.numRows) s₀ s ∧
      (s₀.columns.numRows ≤ 0x8000000000000000 →
        (rowNumbers s₀.columns.numRows).map Int64.toInt =
          (List.range s₀.columns.numRows).map Int.ofNat)) ∧
    ∀ file,
      (Succeeds files (o.indexedBy timeline (some file)) ↔ ∃ s₀ values, Answers files o s₀ ∧
        readJson files file = .ok (indexList values) ∧ values.length = s₀.columns.numRows) ∧
      ∀ s, summarize files (o.indexedBy timeline (some file)) = .ok s → ∃ s₀ values,
        Answers files o s₀ ∧ readJson files file = .ok (indexList values) ∧
          values.length = s₀.columns.numRows ∧ Indexes o timeline values s₀ s := by
  refine ⟨fun _ => summarize_unindexed_eq_ok_iff, ?_, ?_, ?_⟩
  · rw [succeeds_indexedBy_iff path, succeeds_unindexed_iff]
    constructor
    · rintro ⟨s₀, -, hs₀, -⟩
      exact ⟨s₀, hs₀⟩
    · rintro ⟨s₀, hs₀⟩
      exact ⟨s₀, rowNumbers s₀.columns.numRows, hs₀, rfl, length_rowNumbers _⟩
  · intro s hs
    obtain ⟨s₀, values, hs₀, hvalues, -, hindexes⟩ := (summarize_indexedBy_eq_ok_iff path).1 hs
    cases hvalues
    exact ⟨s₀, hs₀, hindexes, toInt_rowNumbers⟩
  · intro file
    have hread : ∀ rows values, indexValues files rows (some file) = .ok values ↔
        readJson files file = .ok (indexList values) := fun _ _ => readIndex_eq_ok_iff
    refine ⟨?_, ?_⟩
    · rw [succeeds_indexedBy_iff path]
      simp only [hread]
    · intro s hs
      obtain ⟨s₀, values, hs₀, hvalues, hlength, hindexes⟩ :=
        (summarize_indexedBy_eq_ok_iff path).1 hs
      exact ⟨s₀, values, hs₀, (hread _ _).1 hvalues, hlength, hindexes⟩

/-- A file with two scalars, and one with an index of two values. -/
def scalarFiles : Files := fun path =>
  if path = "fields.json" then .file "\x7b\"scalar\":[1,2]\x7d".toUTF8.toList
  else if path = "index.json" then .file "[7,8]".toUTF8.toList
  else .missing

def scalarRequest : ColumnsOptions :=
  ⟨"scalar", "fields.json", none, none, none, .sequence, "data", true⟩

theorem columns_indexed_scalars :
    scalarRequest.entityPath ≠ "" ∧ Succeeds scalarFiles (scalarRequest.indexedBy "step" none) ∧
      Succeeds scalarFiles (scalarRequest.indexedBy "step" (some "index.json")) ∧
      ∀ s, summarize scalarFiles (scalarRequest.indexedBy "step" (some "index.json")) = .ok s →
        s.indexed.map Indexed.values = some [7, 8] := by
  have path : scalarRequest.entityPath ≠ "" := by decide
  have hfields : readJson scalarFiles "fields.json" =
      .ok (.object [("scalar", .array [.number (.int 1), .number (.int 2)])]) := by
    with_unfolding_all rfl
  have hindex : readJson scalarFiles "index.json" = .ok (indexList [7, 8]) := by
    with_unfolding_all rfl
  obtain ⟨r, l, hr, hl, hrows⟩ : ∃ r l, Record.tryConstruct .scalar
      [("scalar", .json (.array [.number (.int 1), .number (.int 2)]))] = .ok r ∧
      columnsOf r none = .ok l ∧ l.numRows = 2 := ⟨_, _, rfl, rfl, rfl⟩
  have hs₀ : Answers scalarFiles scalarRequest ⟨.scalar, l, none⟩ :=
    ⟨rfl, ⟨_, r, hfields, hr, hl⟩, rfl⟩
  obtain ⟨-, hnumbered, -, hfile⟩ := columns_indexed scalarFiles scalarRequest path "step"
  obtain ⟨hsucceeds, hindexes⟩ := hfile "index.json"
  refine ⟨path, hnumbered.2 (succeeds_unindexed_iff.2 ⟨_, hs₀⟩), ?_, ?_⟩
  · exact hsucceeds.2 ⟨_, [7, 8], hs₀, hindex, hrows.symm⟩
  · intro s hs
    obtain ⟨s₁, values, -, hvalues, -, t, rfl, -⟩ := hindexes s hs
    have hread := readIndex_eq_ok_iff.2 hvalues
    rw [readIndex_eq_ok_iff.2 hindex] at hread
    exact congrArg some (Except.ok.inj hread).symm

end Command

end Columnar
