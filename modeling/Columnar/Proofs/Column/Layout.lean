import Columnar.Proofs.Column.Regrouping

/-!
# The layout of column lists

A list of columns that comes from a record begins with the column of the indicator. After it stands
one column for each field that is set, in the order of the archetype, and all columns have one row
for each of the lengths that were used last. This holds of all three ways to such a list.

## Main statements

- `Record.setFields`: the fields of a record that are set.
- `ColumnList.Laid`: the columns of a record, each one beside the field that it is of.
- `ColumnList.laid_of_formed`: every list that comes from a record is laid out in this way.
- `ColumnList.layout_of_formed`: what can be read from such a list.
-/

namespace Columnar

/-! ## Fields that are set -/

/-- The fields of a record that are set, with their states, in order. -/
def Record.setFields (r : Record) : List (FieldSpec × FieldState) :=
  (r.archetype.fields.zip r.states).filter fun p => !p.2.isUnset

/-- The state of a field has a batch, which is of the field. -/
def FieldSpec.Owns (a : Archetype) (p : FieldSpec × FieldState) (b : Batch) : Prop :=
  p.2.batch? = some b ∧ p.2.Suits (a.descriptor p.1)

theorem FieldState.descriptor_of_suits {s : FieldState} {d : Descriptor} {b : Batch}
    (hs : s.Suits d) (hb : s.batch? = some b) : b.descriptor = d := by
  cases s with
  | unset => cases hb
  | cleared b' =>
    cases hb
    exact hs.1
  | present b' =>
    cases hb
    exact hs.1

theorem forall₂_owns {a : Archetype} {fields : List FieldSpec} {states : List FieldState}
    (h : List.Forall₂ (fun f s => s.Suits (a.descriptor f)) fields states) :
    List.Forall₂ (FieldSpec.Owns a) ((fields.zip states).filter fun p => !p.2.isUnset)
      (states.filterMap FieldState.batch?) := by
  induction h with
  | nil => exact .nil
  | @cons f s fields states hs _ ih =>
    cases s with
    | unset => exact ih
    | cleared b => exact .cons ⟨rfl, hs⟩ ih
    | present b => exact .cons ⟨rfl, hs⟩ ih

namespace Record

variable {a : Archetype} {r : Record}

theorem forall₂_setFields (reach : Reachable a r) :
    List.Forall₂ (FieldSpec.Owns a) r.setFields r.setBatches := by
  obtain ⟨rfl, hstates⟩ := reach.suits
  exact forall₂_owns hstates

theorem mem_setFields {p : FieldSpec × FieldState} (hp : p ∈ r.setFields) :
    ∃ i : Nat, r.archetype.fields[i]? = some p.1 ∧ r.states[i]? = some p.2 ∧ p.2 ≠ .unset := by
  obtain ⟨hz, hu⟩ := List.mem_filter.1 hp
  obtain ⟨i, hi⟩ := List.mem_iff_getElem?.1 hz
  obtain ⟨hf, hs⟩ := List.getElem?_zip_eq_some.1 hi
  refine ⟨i, hf, hs, ?_⟩
  intro h
  rw [h] at hu
  cases hu

theorem fst_mem_of_mem_setFields (reach : Reachable a r) {p : FieldSpec × FieldState}
    (hp : p ∈ r.setFields) : p.1 ∈ a.fields := by
  obtain ⟨i, hi, -, -⟩ := mem_setFields hp
  rw [reach.suits.archetype] at hi
  exact List.mem_of_getElem? hi

/-- Different fields have different names, also those that are set. -/
theorem nodup_setFields (reach : Reachable a r) (names : (a.fields.map FieldSpec.name).Nodup) :
    (r.setFields.map fun p => p.1.name).Nodup := by
  obtain ⟨rfl, hstates⟩ := reach.suits
  have hset : (r.setFields.map Prod.fst).Sublist
      ((r.archetype.fields.zip r.states).map Prod.fst) := List.filter_sublist.map Prod.fst
  rw [List.map_fst_zip (Nat.le_of_eq hstates.length_eq)] at hset
  have hnames := (hset.map FieldSpec.name).nodup names
  rw [List.map_map] at hnames
  exact hnames

theorem isUnset_iff_setFields (reach : Reachable a r) : r.isUnset = true ↔ r.setFields = [] := by
  obtain ⟨rfl, hstates⟩ := reach.suits
  unfold isUnset setFields
  generalize r.archetype.fields = fields at hstates
  generalize r.states = states at hstates
  induction hstates with
  | nil => exact ⟨fun _ => rfl, fun _ => rfl⟩
  | @cons f s fields states _ _ ih =>
    cases s with
    | unset => exact ih
    | cleared b =>
      exact ⟨fun h => absurd h Bool.false_ne_true, fun h => absurd h (List.cons_ne_nil _ _)⟩
    | present b =>
      exact ⟨fun h => absurd h Bool.false_ne_true, fun h => absurd h (List.cons_ne_nil _ _)⟩

end Record

/-! ## Columns beside fields -/

/-- A column is that of a field that is set, with rows of given lengths. -/
def Column.IsOf (a : Archetype) (ns : List Nat) (p : FieldSpec × FieldState) (c : Column) : Prop :=
  ∃ b, FieldSpec.Owns a p b ∧ b.partition ns = .ok c

theorem Column.totalLength_indicator (d : Descriptor) (rows : Nat) :
    (Column.indicator d rows).totalLength = 0 :=
  Nat.le_zero.1 (Nat.le_trans (Nat.sub_le _ _) (Column.indicator d rows).within)

theorem Column.keeps_of_partition {b : Batch} {ns : List Nat} {c : Column}
    (h : b.partition ns = .ok c) : c.Keeps b (b.rowLengths ns) := by
  obtain ⟨hfits, rfl⟩ := Batch.partition_eq_ok_iff.1 h
  exact Batch.keeps_inRows hfits

namespace Column.IsOf

variable {a : Archetype} {ns : List Nat} {p : FieldSpec × FieldState} {c : Column}

theorem descriptor (h : c.IsOf a ns p) : c.descriptor = a.descriptor p.1 := by
  obtain ⟨b, ⟨hb, hs⟩, hc⟩ := h
  rw [(Column.keeps_of_partition hc).descriptor, FieldState.descriptor_of_suits hs hb]

theorem field (h : c.IsOf a ns p) : c.descriptor.field = some p.1.name := by
  rw [h.descriptor]
  rfl

theorem numRows (h : c.IsOf a ns p) : c.numRows = ns.length := by
  obtain ⟨b, -, hc⟩ := h
  rw [(Column.keeps_of_partition hc).numRows, Batch.length_rowLengths]

theorem totalLength {b : Batch} (h : c.IsOf a ns p) (hb : p.2.batch? = some b) :
    c.totalLength = b.length := by
  obtain ⟨b', ⟨hb', -⟩, hc⟩ := h
  obtain rfl := Option.some_inj.1 (hb.symm.trans hb')
  exact (Column.keeps_of_partition hc).totalLength

theorem totalLength_cleared {f : FieldSpec} {b : Batch} (h : c.IsOf a ns (f, .cleared b)) :
    c.totalLength = 0 := by
  obtain ⟨b', ⟨hb', hs⟩, -⟩ := id h
  rw [h.totalLength rfl]
  exact hs.2

end Column.IsOf

namespace ColumnList

/-- The columns of a record: none if all fields are unset, and otherwise that of the indicator and
one for each field that is set. -/
inductive Laid (a : Archetype) (r : Record) (ns : List Nat) : ColumnList → Prop
  | unset (h : r.setFields = []) : Laid a r ns ⟨[]⟩
  | set {columns : List Column} (h : r.setFields ≠ [])
      (fields : List.Forall₂ (fun p c => c.IsOf a ns p) r.setFields columns) :
      Laid a r ns ⟨.indicator a.indicatorDescriptor ns.length :: columns⟩

variable {a : Archetype} {r : Record} {ns : List Nat} {l : ColumnList}

/-- Each way to a list of columns gives what the record gives when it is split directly. -/
theorem ofRecordBy_of_formed (h : Formed r ns l) : ofRecordBy r ns = .ok l := by
  cases h with
  | ofRecord h => exact h
  | ofRecordBy _ h => exact h
  | repartition _ formed h =>
    rw [repartition_eq, batches_of_formed formed, ← ofRecordBy_eq] at h
    exact h

theorem forall₂_isOf {fields : List (FieldSpec × FieldState)} {bs : List Batch} {cs : List Column}
    (hb : List.Forall₂ (FieldSpec.Owns a) fields bs)
    (hc : List.Forall₂ (fun (b : Batch) c => b.partition ns = .ok c) bs cs) :
    List.Forall₂ (fun p c => c.IsOf a ns p) fields cs := by
  induction hb generalizing cs with
  | nil =>
    cases hc
    exact .nil
  | cons hp _ ih =>
    cases hc with
    | cons hbc hrest => exact .cons ⟨_, hp, hbc⟩ (ih hrest)

theorem laid_of_ofRecordBy (reach : Record.Reachable a r) (h : ofRecordBy r ns = .ok l) :
    Laid a r ns l := by
  have hset := Record.forall₂_setFields reach
  rw [ofRecordBy_eq, ofBatches_eq_ok_iff, Record.columnBatches] at h
  obtain ⟨columns⟩ := l
  by_cases hb : r.setBatches = []
  · rw [if_pos hb] at h
    rw [hb] at hset
    cases h
    exact .unset (List.forall₂_nil_right_iff.1 hset)
  · rw [if_neg hb, Record.rowForm] at h
    have hf : r.setFields ≠ [] := by
      intro hf
      rw [hf] at hset
      exact hb (List.forall₂_nil_left_iff.1 hset)
    cases h with
    | cons hind hrest =>
      rw [Archetype.indicatorBatch, Batch.partition_indicator, reach.suits.archetype] at hind
      cases hind
      exact .set hf (forall₂_isOf hset hrest)

theorem Laid.exists_columns (h : Laid a r ns l) (hne : r.setFields ≠ []) :
    ∃ columns, l = ⟨.indicator a.indicatorDescriptor ns.length :: columns⟩ ∧
      List.Forall₂ (fun p c => c.IsOf a ns p) r.setFields columns := by
  cases h with
  | unset h => exact absurd h hne
  | set _ fields => exact ⟨_, rfl, fields⟩

theorem laid_of_formed (reach : Record.Reachable a r) (h : Formed r ns l) : Laid a r ns l :=
  laid_of_ofRecordBy reach (ofRecordBy_of_formed h)

theorem map_descriptor_of_isOf {fields : List (FieldSpec × FieldState)} {cs : List Column}
    (hall : List.Forall₂ (fun p c => c.IsOf a ns p) fields cs) :
    cs.map Column.descriptor = fields.map fun p => a.descriptor p.1 := by
  induction hall with
  | nil => rfl
  | cons hp _ ih => rw [List.map_cons, List.map_cons, hp.descriptor, ih]

/-! ## Look-up by field -/

theorem find?_eq_some_of_isOf {fields : List (FieldSpec × FieldState)} {cs : List Column}
    (hall : List.Forall₂ (fun p c => c.IsOf a ns p) fields cs)
    (names : (fields.map fun p => p.1.name).Nodup) {k : Nat} {p : FieldSpec × FieldState}
    {c : Column} (hk : fields[k]? = some p) (hc : cs[k]? = some c) :
    cs.find? (fun c => c.descriptor.field == some p.1.name) = some c := by
  induction hall generalizing k with
  | nil => cases hk
  | @cons q d fields cs hq _ ih =>
    rw [List.map_cons, List.nodup_cons] at names
    cases k with
    | zero =>
      cases hk
      cases hc
      rw [List.find?_cons_of_pos (by rw [hq.field, beq_self_eq_true])]
    | succ k =>
      rw [List.getElem?_cons_succ] at hk hc
      have hne : q.1.name ≠ p.1.name := by
        intro he
        exact names.1 (List.mem_map.2 ⟨p, List.mem_of_getElem? hk, he.symm⟩)
      rw [List.find?_cons_of_neg (by simpa [hq.field] using hne)]
      exact ih names.2 hk hc

theorem find?_eq_none_of_ne {fields : List (FieldSpec × FieldState)} {cs : List Column}
    {name : String} (hall : List.Forall₂ (fun p c => c.IsOf a ns p) fields cs)
    (hne : ∀ p ∈ fields, p.1.name ≠ name) :
    cs.find? (fun c => c.descriptor.field == some name) = none := by
  induction hall with
  | nil => rfl
  | @cons q c fields cs hq _ ih =>
    have hqn : q.1.name ≠ name := hne q List.mem_cons_self
    rw [List.find?_cons_of_neg (by simpa [hq.field] using hqn)]
    exact ih fun p hp => hne p (List.mem_cons_of_mem q hp)

/-- The column of the indicator is of no field. -/
theorem field?_indicator (d : Archetype) (rows : Nat) (columns : List Column) (name : String) :
    field? ⟨.indicator d.indicatorDescriptor rows :: columns⟩ name =
      columns.find? (fun c => c.descriptor.field == some name) :=
  List.find?_cons_of_neg (by simp [Column.indicator, Archetype.indicatorDescriptor,
    Descriptor.forIndicator])

theorem Laid.field?_eq_none (h : Laid a r ns l) {name : String}
    (hne : ∀ p ∈ r.setFields, p.1.name ≠ name) : l.field? name = none := by
  cases h with
  | unset _ => rfl
  | set _ fields =>
    rw [field?_indicator]
    exact find?_eq_none_of_ne fields hne

theorem Laid.exists_column (h : Laid a r ns l) {k : Nat} {p : FieldSpec × FieldState}
    (hk : r.setFields[k]? = some p) : ∃ c, l.columns[k + 1]? = some c ∧ c.IsOf a ns p := by
  cases h with
  | unset hf =>
    rw [hf] at hk
    cases hk
  | set _ fields => exact exists_getElem?_of_forall₂ fields hk

theorem Laid.field?_eq_some (h : Laid a r ns l)
    (names : (r.setFields.map fun p => p.1.name).Nodup) {k : Nat} {p : FieldSpec × FieldState}
    {c : Column} (hk : r.setFields[k]? = some p) (hc : l.columns[k + 1]? = some c) :
    l.field? p.1.name = some c := by
  cases h with
  | unset _ => cases hc
  | set _ fields =>
    rw [field?_indicator]
    exact find?_eq_some_of_isOf fields names hk hc

theorem Laid.numRows_of_mem (h : Laid a r ns l) {c : Column} (hc : c ∈ l.columns) :
    c.numRows = ns.length := by
  cases h with
  | unset _ => exact absurd hc List.not_mem_nil
  | set _ fields =>
    cases List.mem_cons.1 hc with
    | inl hi =>
      rw [hi]
      exact List.length_replicate
    | inr hc =>
      obtain ⟨p, -, hp⟩ := exists_of_mem_right fields hc
      exact hp.numRows

theorem isEmpty_eq_false_of_mem {c : Column} (hc : c ∈ l.columns) : l.isEmpty = false := by
  rw [isEmpty, List.isEmpty_eq_false_iff]
  exact List.ne_nil_of_mem hc

theorem Laid.numRows_eq (h : Laid a r ns l) (he : l.isEmpty = false) : l.numRows = ns.length := by
  cases h with
  | unset _ => cases he
  | set _ _ => exact List.length_replicate

/-! ## The layout -/

/-- What can be read from the columns of a record. -/
structure Layout (a : Archetype) (r : Record) (ns : List Nat) (l : ColumnList) : Prop where
  isEmpty : l.isEmpty = true ↔ r.isUnset = true
  descriptors : l.isEmpty = false →
    l.descriptors = a.indicatorDescriptor :: r.setFields.map fun p => a.descriptor p.1
  numRows : l.isEmpty = false → l.numRows = ns.length
  /-- All columns have the same number of rows. -/
  aligned : ∀ c ∈ l.columns, c.numRows = l.numRows
  indicator : ∀ c, l.columns[0]? = some c → c.totalLength = 0
  /-- A field that is cleared has a column without values, which is found by its name. -/
  cleared : ∀ (k : Nat) f b, r.setFields[k]? = some (f, .cleared b) →
    ∃ c, l.columns[k + 1]? = some c ∧ c.descriptor = a.descriptor f ∧ c.totalLength = 0 ∧
      l.field? f.name = some c
  /-- A field with values has a column of so many values, which is found by its name. -/
  present : ∀ (k : Nat) f b, r.setFields[k]? = some (f, .present b) →
    ∃ c, l.columns[k + 1]? = some c ∧ c.descriptor = a.descriptor f ∧ c.totalLength = b.length ∧
      l.field? f.name = some c
  unset : ∀ (i : Nat) f, a.fields[i]? = some f → r.states[i]? = some .unset →
    l.field? f.name = none
  unknown : ∀ name, name ∉ a.fields.map FieldSpec.name → l.field? name = none

theorem ne_of_unset (reach : Record.Reachable a r)
    (names : (a.fields.map FieldSpec.name).Nodup) {i : Nat} {f : FieldSpec}
    (hf : a.fields[i]? = some f) (hs : r.states[i]? = some .unset) :
    ∀ p ∈ r.setFields, p.1.name ≠ f.name := by
  intro p hp he
  obtain ⟨j, hpf, hps, hset⟩ := Record.mem_setFields hp
  rw [reach.suits.archetype] at hpf
  have hi : (a.fields.map FieldSpec.name)[i]? = some f.name := by
    rw [List.getElem?_map, hf]
    rfl
  have hj : (a.fields.map FieldSpec.name)[j]? = some f.name := by
    rw [List.getElem?_map, hpf, ← he]
    rfl
  obtain ⟨hlt, -⟩ := List.getElem?_eq_some_iff.1 hi
  have hij : i = j := (List.getElem?_inj hlt names).1 (hi.trans hj.symm)
  rw [hij, hps] at hs
  exact hset (Option.some_inj.1 hs)

theorem ne_of_unknown (reach : Record.Reachable a r) {name : String}
    (h : name ∉ a.fields.map FieldSpec.name) : ∀ p ∈ r.setFields, p.1.name ≠ name := by
  intro p hp he
  have hf : p.1 ∈ a.fields := Record.fst_mem_of_mem_setFields reach hp
  exact h (List.mem_map.2 ⟨p.1, hf, he⟩)

/-- Whatever the way to a list of columns of a record, and however often its rows were regrouped,
the columns of the indicator and of the fields that are set stand in it in order, all of them with
the rows that were asked for last. -/
theorem layout_of_formed {a : Archetype} {r : Record} {ns : List Nat} {l : ColumnList}
    (names : (a.fields.map FieldSpec.name).Nodup) (reach : Record.Reachable a r)
    (formed : Formed r ns l) : Layout a r ns l := by
  have laid := laid_of_formed reach formed
  have hnodup := Record.nodup_setFields reach names
  have hunset := Record.isUnset_iff_setFields reach
  refine
    { isEmpty := ?_, descriptors := ?_, numRows := ?_, aligned := ?_, indicator := ?_,
      cleared := ?_, present := ?_, unset := ?_, unknown := ?_ }
  · rw [hunset]
    cases laid with
    | unset h => exact ⟨fun _ => h, fun _ => rfl⟩
    | set h _ => exact ⟨fun he => absurd he Bool.false_ne_true, fun he => absurd he h⟩
  · intro he
    cases laid with
    | unset _ => cases he
    | set _ fields => exact congrArg (_ :: ·) (map_descriptor_of_isOf fields)
  · exact laid.numRows_eq
  · intro c hc
    rw [laid.numRows_of_mem hc, laid.numRows_eq (isEmpty_eq_false_of_mem hc)]
  · intro c hc
    cases laid with
    | unset _ => cases hc
    | set _ _ =>
      cases hc
      exact Column.totalLength_indicator _ _
  · intro k f b hk
    obtain ⟨c, hc, hof⟩ := laid.exists_column hk
    exact ⟨c, hc, hof.descriptor, hof.totalLength_cleared, laid.field?_eq_some hnodup hk hc⟩
  · intro k f b hk
    obtain ⟨c, hc, hof⟩ := laid.exists_column hk
    exact ⟨c, hc, hof.descriptor, hof.totalLength rfl, laid.field?_eq_some hnodup hk hc⟩
  · intro i f hf hs
    exact laid.field?_eq_none (ne_of_unset reach names hf hs)
  · intro name h
    exact laid.field?_eq_none (ne_of_unknown reach h)

theorem layout_of_formed_capsules :
    ∃ l, (Archetype.capsules3D.fields.map FieldSpec.name).Nodup ∧
      Record.Reachable .capsules3D .capsules ∧ Formed .capsules [2, 0, 1] l ∧
      Layout .capsules3D .capsules [2, 0, 1] l := by
  have names : (Archetype.capsules3D.fields.map FieldSpec.name).Nodup := by decide
  have formed := Formed.repartition [2, 0, 1] (.ofRecordBy (r := .capsules) [1, 2] rfl) rfl
  exact ⟨_, names, Record.reachable_capsules, formed,
    layout_of_formed names Record.reachable_capsules formed⟩

end ColumnList

end Columnar
