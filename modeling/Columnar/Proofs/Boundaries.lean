import Columnar.Ingest.Table
import Columnar.Proofs.Column.Regrouping
import Columnar.Proofs.Component.Canonical
import Columnar.Proofs.Ingest.Validation
import Columnar.Proofs.Record.Rejection
import Columnar.Proofs.Record.Replacement
import Mathlib.Data.List.Infix

/-!
# Two kinds of errors

An error of a record that is built or patched lies in the input of a field, and it names the field
of one of the entries. An error of columns, chunks and tables lies in how they are put together, and
it names no field. So whoever meets an error can tell from it where it comes from, also after it was
wrapped with the names of fields: that changes which field is named and what the causes are, but not
the kind.

## Main statements

- `Error.OfInput`, `Error.OfLayout`: the two kinds.
- `Record.ofInput_of_apply`: errors of entries.
- `ColumnList.ofLayout_of_ofBatches`, `Chunk.ofLayout_of_make`, `Chunk.ofLayout_of_table`: errors of
  columns, chunks and tables.
- `Error.wrap`, `Error.chain_wrap`: errors wrapped several times.
- `Error.kinds_separate`: the kinds of all errors, and what wrapping does to them.
-/

namespace Columnar

namespace Error

/-- An error that lies in the input of a field, under one of the names that were given. -/
structure OfInput (names : List String) (e : Error) : Prop where
  isConversion : e.isConversion = true
  field : ∃ name ∈ names, e.fieldName? = some name

/-- An error that lies in no input and names no field. -/
structure OfLayout (e : Error) : Prop where
  isConversion : e.isConversion = false
  field : e.fieldName? = none

/-! ## Wrapped errors -/

/-- An error wrapped with names of archetypes and fields, the outermost ones first. -/
def wrap (names : List (String × String)) (e : Error) : Error :=
  names.foldr (fun p source => .inField p.1 p.2 source) e

theorem wrap_cons (p : String × String) (names : List (String × String)) (e : Error) :
    wrap (p :: names) e = .inField p.1 p.2 (wrap names e) := rfl

theorem isConversion_wrap (names : List (String × String)) (e : Error) :
    (wrap names e).isConversion = e.isConversion := by
  induction names with
  | nil => rfl
  | cons p names ih => rw [wrap_cons, isConversion_inField, ih]

/-- The outermost field is named. -/
theorem fieldName?_wrap (names : List (String × String)) (e : Error) :
    (wrap names e).fieldName? = (names.head?.map Prod.snd).or e.fieldName? := by
  cases names with
  | nil => rfl
  | cons p names => rfl

theorem asCauses_wrap (names : List (String × String)) (e : Error) :
    (wrap names e).asCauses =
      names.tails.map (fun inner => (wrap inner e).message) ++ e.chain := by
  induction names with
  | nil => rfl
  | cons p names ih =>
    rw [List.tails_cons, List.map_cons, List.cons_append, ← ih]
    rfl

/-- The causes are what was wrapped each time, and then those of the error at the bottom. -/
theorem chain_wrap (names : List (String × String)) (e : Error) :
    (wrap names e).chain =
      names.tails.tail.map (fun inner => (wrap inner e).message) ++ e.chain := by
  cases names with
  | nil => rfl
  | cons p names => rw [wrap_cons, chain_inField, asCauses_wrap, List.tails_cons, List.tail_cons]

end Error

/-! ## Errors of entries -/

theorem Component.isConversion_of_convert {c : Component} {input : Input} {e : Error}
    (h : c.convert input = .error e) : e.isConversion = true := by
  unfold convert at h
  cases hencode : c.encoding.encode input with
  | error e' =>
    rw [hencode] at h
    cases h
    obtain ⟨fault, -, rfl⟩ := Encoding.encode_eq_error_iff.1 hencode
    rfl
  | ok s =>
    rw [hencode] at h
    change (if s.type = c.type then .ok s else _) = Except.error e at h
    by_cases htype : s.type = c.type
    · rw [if_pos htype] at h
      cases h
    · rw [if_neg htype] at h
      cases h
      rfl

theorem Archetype.isConversion_of_refuses {a : Archetype} {entry : Entry} {e : Error}
    (h : a.Refuses entry e) : e.isConversion = true := by
  cases h with
  | unknownField _ => rfl
  | conversion _ _ hconvert =>
    rw [Error.isConversion_inField]
    exact Component.isConversion_of_convert hconvert

namespace Record

variable {a : Archetype} {r : Record} {entries : List Entry} {clearUnset : Bool} {e : Error}

theorem ofInput_of_apply (h : r.apply entries clearUnset = .error e) :
    e.OfInput (entries.map Entry.field) := by
  obtain ⟨before, entry, after, rfl, -, hrefuses⟩ := exists_of_apply_error h
  refine ⟨Archetype.isConversion_of_refuses hrefuses, entry.field, ?_,
    Archetype.fieldName?_of_refuses hrefuses⟩
  exact List.mem_map_of_mem (List.mem_append_right _ List.mem_cons_self)

theorem ofInput_of_tryFromFields {fields : List (String × Input)}
    (h : tryFromFields a clearUnset fields = .error e) : e.OfInput (fields.map Prod.fst) := by
  rw [← field_entriesOf]
  exact ofInput_of_apply h

end Record

/-! ## Errors of columns and chunks -/

theorem Batch.ofLayout_of_partition {b : Batch} {lengths : List Nat} {e : Error}
    (h : b.partition lengths = .error e) : e.OfLayout := by
  obtain ⟨-, hmisfit⟩ := partition_eq_error_iff.1 h
  cases hmisfit with
  | overflow _ => exact ⟨rfl, rfl⟩
  | mismatch _ _ => exact ⟨rfl, rfl⟩
  | tooLong _ _ _ => exact ⟨rfl, rfl⟩

theorem ColumnList.ofLayout_of_ofBatches {bs : List Batch} {lengths : List Nat} {e : Error}
    (h : ofBatches bs lengths = .error e) : e.OfLayout := by
  unfold ofBatches at h
  cases hsplit : bs.mapM fun b : Batch => b.partition lengths with
  | error e' =>
    rw [hsplit] at h
    cases h
    obtain ⟨before, b, after, -, -, hb⟩ := exists_of_mapM_error hsplit
    exact b.ofLayout_of_partition hb
  | ok columns =>
    rw [hsplit] at h
    cases h

namespace Chunk

variable {path : String} {indexes : List Index} {columns : ColumnList} {e : Error}

theorem ofLayout_of_make (h : make path indexes columns = .error e) : e.OfLayout := by
  cases make_eq_error_iff.1 h with
  | noPath _ => exact ⟨rfl, rfl⟩
  | index _ _ _ hi =>
    cases hi with
    | repeated _ => exact ⟨rfl, rfl⟩
    | length _ _ => exact ⟨rfl, rfl⟩

theorem ofLayout_of_table {c : Chunk} (h : c.table = .error e) : e.OfLayout := by
  unfold table Table.make at h
  split at h
  · cases h
    exact ⟨rfl, rfl⟩
  · cases h

end Chunk

/-- Errors of entries lie in the input of a field that was given, and errors of columns, chunks and
tables do not and name no field. Wrapping keeps the kind of an error, names the outermost field, and
puts what was wrapped each time before the causes. -/
theorem Error.kinds_separate :
    (∀ a fields e, Record.tryConstruct a fields = .error e → e.OfInput (fields.map Prod.fst)) ∧
    (∀ a clearUnset fields e, Record.tryFromFields a clearUnset fields = .error e →
      e.OfInput (fields.map Prod.fst)) ∧
    (∀ (r : Record) p e, r.tryPatch p = .error e → e.OfInput (p.entries.map Entry.field)) ∧
    (∀ r e, ColumnList.ofRecord r = .error e → e.OfLayout) ∧
    (∀ r lengths e, ColumnList.ofRecordBy r lengths = .error e → e.OfLayout) ∧
    (∀ (l : ColumnList) lengths e, l.repartition lengths = .error e → e.OfLayout) ∧
    (∀ path indexes columns e, Chunk.make path indexes columns = .error e → e.OfLayout) ∧
    (∀ (c : Chunk) e, c.table = .error e → e.OfLayout) ∧
    ∀ names e, (wrap names e).isConversion = e.isConversion ∧
      (wrap names e).fieldName? = (names.head?.map Prod.snd).or e.fieldName? ∧
      (wrap names e).chain =
        names.tails.tail.map (fun inner => (wrap inner e).message) ++ e.chain := by
  refine ⟨?_, ?_, ?_, ?_, ?_, ?_, ?_, ?_, ?_⟩
  · exact fun a fields e h => Record.ofInput_of_tryFromFields h
  · exact fun a clearUnset fields e h => Record.ofInput_of_tryFromFields h
  · exact fun r p e h => Record.ofInput_of_apply h
  · intro r e h
    rw [ColumnList.ofRecord, ColumnList.ofRecordBy_eq] at h
    exact ColumnList.ofLayout_of_ofBatches h
  · intro r lengths e h
    rw [ColumnList.ofRecordBy_eq] at h
    exact ColumnList.ofLayout_of_ofBatches h
  · intro l lengths e h
    rw [ColumnList.repartition_eq] at h
    exact ColumnList.ofLayout_of_ofBatches h
  · exact fun path indexes columns e h => Chunk.ofLayout_of_make h
  · exact fun c e h => Chunk.ofLayout_of_table h
  · exact fun names e => ⟨isConversion_wrap names e, fieldName?_wrap names e, chain_wrap names e⟩

/-- A scalar that is a text, wrapped as part of a view, and capsules in a row of seven. -/
theorem Error.kinds_separate_samples :
    ∃ e e', Record.tryConstruct .scalar [("scalar", .json (.string "three"))] = .error e ∧
      e.OfInput ["scalar"] ∧ ColumnList.ofRecordBy .capsules [7] = .error e' ∧ e'.OfLayout ∧
      (wrap [("View", "contents"), ("Plot", "value")] e).isConversion = true ∧
      (wrap [("View", "contents"), ("Plot", "value")] e).fieldName? = some "contents" ∧
      (wrap [("View", "contents"), ("Plot", "value")] e).chain =
        ["Plot.value: Scalar.scalar: cannot convert input to arche.datatypes.Float64: expected a "
          ++ "number or an array of numbers, got a string",
          "Scalar.scalar: cannot convert input to arche.datatypes.Float64: expected a number or an "
          ++ "array of numbers, got a string",
          "cannot convert input to arche.datatypes.Float64: expected a number or an array of "
          ++ "numbers, got a string"] := by
  obtain ⟨hconstruct, -, -, -, hrows, -, -, -, hwrap⟩ := kinds_separate
  have hinput := hconstruct .scalar [("scalar", .json (.string "three"))] _ rfl
  have hlayout := hrows .capsules [7] _ rfl
  obtain ⟨hkind, hfield, hchain⟩ := hwrap [("View", "contents"), ("Plot", "value")] _
  exact ⟨_, _, rfl, hinput, rfl, hlayout, hkind.trans hinput.isConversion, hfield, hchain⟩

end Columnar
