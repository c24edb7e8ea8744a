import Columnar.Proofs.Column.Layout
import Columnar.Proofs.Record.Complete
import Columnar.Proofs.Record.Entries

/-!
# Records from their batches

The batches of a record say all that there is to it. When they are given to its fields as values,
the same record is constructed: fields that are unset have no batch, so they are given nothing and
stay unset, and a batch converts to itself, be it empty or not. The columns of a record hold the
same batches, so the record can be had from them as well.

## Main statements

- `Record.given`: the batches of fields, as values for them.
- `Record.mem_entriesOf_given`: which entries the batches of a record are.
- `Record.convert_batch`: the batch of a field converts to itself.
- `Record.eq_of_leaves`: what the batches leave of a field that was unset is its state.
- `Record.tryConstruct_given`: the record is constructed from its row form and from its columns.
-/

namespace Columnar

namespace Record

/-! ## Batches as values -/

/-- The batches of fields, as values for the fields that their descriptors name. -/
def given (bs : List Batch) : List (String × Input) :=
  (bs.filter fun b => !b.descriptor.isIndicator).filterMap fun b =>
    b.descriptor.field.map fun field => (field, .ofSeries b.values)

theorem mem_given {bs : List Batch} {p : String × Input} :
    p ∈ given bs ↔ ∃ b ∈ bs, b.descriptor.isIndicator = false ∧
      b.descriptor.field = some p.1 ∧ p.2 = .ofSeries b.values := by
  obtain ⟨field, input⟩ := p
  simp only [given, List.mem_filterMap, List.mem_filter, Option.map_eq_some_iff, Prod.mk.injEq,
    Bool.not_eq_true', and_assoc]
  constructor
  · rintro ⟨b, hb, hi, name, hname, rfl, rfl⟩
    exact ⟨b, hb, hi, hname, rfl⟩
  · rintro ⟨b, hb, hi, hname, rfl⟩
    exact ⟨b, hb, hi, field, hname, rfl, rfl⟩

variable {a : Archetype} {r : Record}

theorem given_columnBatches (r : Record) : given r.columnBatches = given r.rowForm := by
  unfold columnBatches
  by_cases hb : r.setBatches = []
  · rw [if_pos hb, rowForm, hb]
    rfl
  · rw [if_neg hb]

/-- A record has a batch in its row form for each state that is set, beside the indicator. -/
theorem mem_rowForm (reach : Reachable a r) {b : Batch} (hb : b.descriptor.isIndicator = false) :
    b ∈ r.rowForm ↔ ∃ (i : Fin a.fields.length) (s : FieldState), r.states[i.val]? = some s ∧
      s.batch? = some b := by
  have hindicator : b ∉ [r.archetype.indicatorBatch] := by
    intro h
    rw [List.mem_singleton.1 h] at hb
    cases hb
  have hlength := reach.suits.states.length_eq
  rw [rowForm, ← List.singleton_append, List.mem_append, or_iff_right hindicator, setBatches,
    List.mem_filterMap]
  constructor
  · rintro ⟨s, hs, hsb⟩
    obtain ⟨i, hi⟩ := List.mem_iff_getElem?.1 hs
    have hlt : i < a.fields.length := hlength ▸ (List.getElem?_eq_some_iff.1 hi).1
    exact ⟨⟨i, hlt⟩, s, hi, hsb⟩
  · rintro ⟨i, s, hs, hsb⟩
    exact ⟨s, List.mem_of_getElem? hs, hsb⟩

theorem Reachable.suits_of_getElem? (reach : Reachable a r) {i : Fin a.fields.length}
    {s : FieldState} (hs : r.states[i.val]? = some s) :
    s.Suits (a.descriptor (a.fields.get i)) :=
  reach.suits.of_getElem? (List.getElem?_eq_getElem i.isLt) hs

theorem mem_entriesOf_given (reach : Reachable a r) {e : Entry} :
    e ∈ entriesOf (given r.rowForm) ↔ ∃ (i : Fin a.fields.length) (s : FieldState) (b : Batch),
      r.states[i.val]? = some s ∧ s.batch? = some b ∧
        e = ⟨(a.fields.get i).name, some (.ofSeries b.values)⟩ := by
  rw [entriesOf, List.mem_map]
  constructor
  · rintro ⟨⟨name, input⟩, hp, rfl⟩
    obtain ⟨b, hb, hi, hname, rfl⟩ := mem_given.1 hp
    obtain ⟨i, s, hs, hsb⟩ := (mem_rowForm reach hi).1 hb
    have hd := FieldState.descriptor_of_suits (reach.suits_of_getElem? hs) hsb
    rw [hd] at hname
    obtain rfl : (a.fields.get i).name = name := Option.some_inj.1 hname
    exact ⟨i, s, b, hs, hsb, rfl⟩
  · rintro ⟨i, s, b, hs, hsb, rfl⟩
    have hd := FieldState.descriptor_of_suits (reach.suits_of_getElem? hs) hsb
    have hi : b.descriptor.isIndicator = false := by
      rw [hd]
      rfl
    have hb := (mem_rowForm reach hi).2 ⟨i, s, hs, hsb⟩
    refine ⟨((a.fields.get i).name, .ofSeries b.values), mem_given.2 ⟨b, hb, hi, ?_, rfl⟩, rfl⟩
    rw [hd]
    rfl

/-! ## Construction from batches -/

theorem eq_of_states {r r' : Record} (harchetype : r.archetype = r'.archetype)
    (hstates : r.states = r'.states) : r = r' := by
  cases r
  cases r'
  cases harchetype
  cases hstates
  rfl

variable (known : ∀ f ∈ a.fields, f.component ∈ Component.known)
include known

theorem convert_batch (reach : Reachable a r) {i : Fin a.fields.length} {s : FieldState} {b : Batch}
    (hs : r.states[i.val]? = some s) (hb : s.batch? = some b) :
    (a.fields.get i).component.convert (.ofSeries b.values) = .ok b.values := by
  have hsound := (reach.holds (settles_sound a)).of_getElem? (List.getElem?_eq_getElem i.isLt) hs
  obtain ⟨htype, hcomplete⟩ := hsound b hb
  exact Component.convert_ofSeries (known _ (List.get_mem _ _)) htype
    (Series.nullCount_eq_zero_iff.2 hcomplete.elements)

variable (names : (a.fields.map FieldSpec.name).Nodup)
include names

theorem takes_of_given (reach : Reachable a r) {e : Entry}
    (he : e ∈ entriesOf (given r.rowForm)) : a.Takes e := by
  obtain ⟨i, s, b, hs, hb, rfl⟩ := (mem_entriesOf_given reach).1 he
  exact Archetype.takes_of_convert (Archetype.fieldIndex?_get names i)
    (convert_batch known reach hs hb)

theorem eq_of_leaves (reach : Reachable a r) {i : Fin a.fields.length} {s t : FieldState}
    (hs : r.states[i.val]? = some s)
    (h : a.Leaves false (entriesOf (given r.rowForm)) i .unset t) : t = s := by
  cases h with
  | @decided e _ hlast hgives =>
    -- As names are different, the entry that decides is that of the state itself.
    obtain ⟨he, hi⟩ := Archetype.mem_of_lastEntry? hlast
    obtain ⟨j, s', b, hs', hb, rfl⟩ := (mem_entriesOf_given reach).1 he
    rw [Archetype.fieldIndex?_get names j] at hi
    obtain rfl : j = i := Option.some_inj.1 hi
    obtain rfl := Option.some_inj.1 (hs.symm.trans hs')
    have hsuits := reach.suits_of_getElem? hs
    have hd := FieldState.descriptor_of_suits hsuits hb
    obtain ⟨values, hvalues, rfl⟩ := Archetype.gives_some_iff.1 hgives
    rw [convert_batch known reach hs hb] at hvalues
    cases hvalues
    rw [← hd]
    exact FieldState.ofBatch_eq_of_suits hsuits hb
  | kept hlast =>
    -- A state that is set would have an entry, so the state is unset, as it was.
    cases hb : s.batch? with
    | some b =>
      have he := (mem_entriesOf_given reach).2 ⟨i, s, b, hs, hb, rfl⟩
      exact absurd (Archetype.fieldIndex?_get names i)
        (Archetype.lastEntry?_eq_none_iff.1 hlast _ he)
    | none =>
      cases s with
      | unset => rfl
      | cleared b => cases hb
      | present b => cases hb

theorem tryConstruct_rowForm (reach : Reachable a r) :
    tryConstruct a (given r.rowForm) = .ok r := by
  have htakes : ∀ e ∈ entriesOf (given r.rowForm), (unset a).archetype.Takes e :=
    fun _ he => takes_of_given known names reach he
  obtain ⟨r', hr'⟩ := (exists_apply_iff false).2 htakes
  have harchetype : r'.archetype = a := archetype_of_apply hr'
  have hlength : r'.states.length = a.fields.length := by
    rw [length_states_of_apply hr', unset, List.length_map]
  obtain ⟨hr, hsuits⟩ := reach.suits
  have hstates : r'.states = r.states := by
    refine List.ext_getElem (hlength.trans hsuits.length_eq) ?_
    intro i hi' hi
    have hlt : i < a.fields.length := hlength ▸ hi'
    obtain ⟨t, ht, hleaves⟩ := exists_state_of_tryFromFields hr' ⟨i, hlt⟩
    have hs : r.states[i]? = some r.states[i] := List.getElem?_eq_getElem hi
    rw [← eq_of_leaves known names reach (i := ⟨i, hlt⟩) hs hleaves]
    exact Option.some_inj.1 ((List.getElem?_eq_getElem hi').symm.trans ht)
  obtain rfl : r' = r := eq_of_states (harchetype.trans hr.symm) hstates
  exact hr'

omit known names

/-- A record is constructed from its row form, and from its columns whatever their rows, when every
batch of a field is given to the field as a value. What a component has converted, it leaves as it
is. -/
theorem tryConstruct_given {a : Archetype} {r : Record}
    (names : (a.fields.map FieldSpec.name).Nodup)
    (known : ∀ f ∈ a.fields, f.component ∈ Component.known) (reach : Reachable a r) :
    tryConstruct a (given r.rowForm) = .ok r ∧
      (∀ lengths l, ColumnList.ofRecordBy r lengths = .ok l →
        tryConstruct a (given l.batches) = .ok r) ∧
      ∀ f ∈ a.fields, ∀ input values, f.component.convert input = .ok values →
        f.component.convert (.ofSeries values) = .ok values := by
  refine ⟨tryConstruct_rowForm known names reach, ?_, ?_⟩
  · intro lengths l h
    rw [ColumnList.ofRecordBy_eq] at h
    rw [ColumnList.batches_of_ofBatches h, given_columnBatches]
    exact tryConstruct_rowForm known names reach
  · intro f _ input values h
    exact Component.convert_self h

theorem tryConstruct_given_capsules :
    (Archetype.capsules3D.fields.map FieldSpec.name).Nodup ∧
      (∀ f ∈ Archetype.capsules3D.fields, f.component ∈ Component.known) ∧
      Reachable .capsules3D capsules ∧
      tryConstruct .capsules3D (given capsules.rowForm) = .ok capsules ∧
      ∃ l, ColumnList.ofRecordBy capsules [2, 0, 1] = .ok l ∧
        tryConstruct .capsules3D (given l.batches) = .ok capsules := by
  have names : (Archetype.capsules3D.fields.map FieldSpec.name).Nodup := by decide
  have known : ∀ f ∈ Archetype.capsules3D.fields, f.component ∈ Component.known := by decide
  obtain ⟨hrow, hcolumns, -⟩ := tryConstruct_given names known reachable_capsules
  exact ⟨names, known, reachable_capsules, hrow, _, rfl, hcolumns [2, 0, 1] _ rfl⟩

end Record

end Columnar
