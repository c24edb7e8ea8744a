import Columnar.Proofs.Record.Entries

/-!
# The value shown with a diagnostic

A run of entries stops at the first one at fault, and the diagnostic of it tells of its field and of
what is wrong with it. The value that is shown is looked up by the field alone, so it is that of the
first entry for the field. That is the value at fault unless an entry before it, which could be
taken into account, is for the same field. Patches have one entry for each field, so they show the
value at fault.

## Main statements

- `Archetype.StopsAt`: entries up to the first one at fault.
- `Entry.shownAfter`: the value that is looked up for an entry.
- `Patch.Built`, `Patch.Built.nodup`: the patches that can be built name each field once.
- `Record.run_recover_of_error`: what is reported of entries of which one is at fault.
- `Record.diagnostic_shows`: the three calls that report.
- `Record.construct_shows_accepted_value`: a diagnostic with a value that is not at fault.
-/

namespace Columnar

/-! ## Entries at fault -/

/-- The first entry at fault with the entries before it, and what is wrong with it. -/
structure Archetype.StopsAt (a : Archetype) (entries before : List Entry) (e : Entry)
    (err : Error) : Prop where
  split : ∃ after, entries = before ++ e :: after
  takes : ∀ e' ∈ before, a.Takes e'
  refuses : a.Refuses e err

/-- The value of the first entry for the field of an entry, where others stand before it. -/
def Entry.shownAfter (before : List Entry) (e : Entry) : Option Input :=
  ((before.find? fun e' => e'.field == e.field).getD e).value

/-- The diagnostic of an entry at fault that shows a value. -/
def Diagnostics.rejection (d : Diagnostics) (a : Archetype) (e : Entry) (err : Error)
    (value : Option Input) : Diagnostic :=
  ⟨a.shortName, some e.field, value.map (Input.preview d.previewLength), err.message⟩

theorem Entry.shownAfter_of_ne {before : List Entry} {e : Entry}
    (h : ∀ e' ∈ before, e'.field ≠ e.field) : e.shownAfter before = e.value := by
  have hnone : before.find? (fun e' => e'.field == e.field) = none := by
    rw [List.find?_eq_none]
    intro e' he' heq
    exact h e' he' (eq_of_beq heq)
  rw [shownAfter, hnone]
  rfl

theorem Archetype.fieldName?_of_refuses {a : Archetype} {e : Entry} {err : Error}
    (h : a.Refuses e err) : err.fieldName? = some e.field := by
  cases h with
  | unknownField _ => rfl
  | conversion _ _ _ => rfl

namespace Archetype.StopsAt

variable {a : Archetype} {entries before : List Entry} {e : Entry} {err : Error}

theorem find?_eq (h : a.StopsAt entries before e err) :
    entries.find? (fun e' => e'.field == e.field) =
      some ((before.find? fun e' => e'.field == e.field).getD e) := by
  obtain ⟨after, rfl⟩ := h.split
  have hself : (e :: after).find? (fun e' => e'.field == e.field) = some e :=
    List.find?_cons_of_pos (beq_self_eq_true e.field)
  rw [List.find?_append, hself]
  cases before.find? fun e' => e'.field == e.field <;> rfl

/-- The look-up goes by the name of the field, so it stops at the first entry for it. -/
theorem valueAtFault_eq (h : a.StopsAt entries before e err) :
    Record.valueAtFault entries err = e.shownAfter before := by
  unfold Record.valueAtFault
  rw [fieldName?_of_refuses h.refuses]
  show (entries.find? (fun e' => e'.field == e.field)).bind Entry.value = _
  rw [h.find?_eq]
  rfl

theorem rejection_eq (h : a.StopsAt entries before e err) (d : Diagnostics) :
    d.rejection a e err (e.shownAfter before) =
      d.diagnose a.shortName err (Record.valueAtFault entries err) := by
  rw [h.valueAtFault_eq, Diagnostics.diagnose, fieldName?_of_refuses h.refuses]
  rfl

theorem ne_of_nodup (h : a.StopsAt entries before e err)
    (names : (entries.map Entry.field).Nodup) : ∀ e' ∈ before, e'.field ≠ e.field := by
  obtain ⟨after, rfl⟩ := h.split
  rw [List.map_append, List.map_cons, List.nodup_append] at names
  obtain ⟨-, -, hne⟩ := names
  intro e' he'
  exact hne e'.field (List.mem_map_of_mem he') e.field List.mem_cons_self

/-- An entry that can be taken into account names a field of the archetype. -/
theorem ne_of_unknown (h : a.StopsAt entries before e err)
    (unknown : e.field ∉ a.fields.map FieldSpec.name) : ∀ e' ∈ before, e'.field ≠ e.field := by
  intro e' he' heq
  obtain ⟨i, hi, -⟩ := h.takes e' he'
  rw [heq, fieldIndex?_eq_none_iff.2 unknown] at hi
  cases hi

end Archetype.StopsAt

/-! ## Patches that are built -/

/-- The patches that can be built, step by step from the blank one. -/
inductive Patch.Built : Patch → Prop
  | blank : Built blank
  | add {p : Patch} (field : String) (value : Option Input) (h : Built p) :
      Built (p.add field value)
  | set {p : Patch} (field : String) (value : Input) (h : Built p) : Built (p.set field value)
  | reset {p : Patch} (field : String) (h : Built p) : Built (p.reset field)
  | clearingUnset {p : Patch} (clearUnset : Bool) (h : Built p) :
      Built (p.clearingUnset clearUnset)

theorem Patch.nodup_add {p : Patch} (h : (p.entries.map Entry.field).Nodup) (field : String)
    (value : Option Input) : ((p.add field value).entries.map Entry.field).Nodup := by
  have hkept : ((p.entries.filter fun e => e.field != field).map Entry.field).Nodup :=
    (List.filter_sublist.map Entry.field).nodup h
  show ((p.entries.filter (fun e : Entry => e.field != field) ++
    [(⟨field, value⟩ : Entry)]).map Entry.field).Nodup
  rw [List.map_append, List.nodup_append]
  refine ⟨hkept, List.pairwise_singleton _ _, ?_⟩
  intro name hname name' hname'
  obtain ⟨e, he, rfl⟩ := List.mem_map.1 hname
  rw [List.mem_singleton.1 hname']
  exact bne_iff_ne.1 (List.mem_filter.1 he).2

theorem Patch.Built.nodup {p : Patch} (h : p.Built) : (p.entries.map Entry.field).Nodup := by
  induction h with
  | blank => exact List.nodup_nil
  | add field value _ ih => exact nodup_add ih field value
  | set field value _ ih => exact nodup_add ih field (some value)
  | reset field _ ih => exact nodup_add ih field none
  | clearingUnset _ _ ih => exact ih

namespace Record

variable {r : Record} {entries : List Entry} {clearUnset : Bool} {err : Error}

/-! ## Reports -/

theorem exists_stopsAt (h : r.apply entries clearUnset = .error err) :
    ∃ before e, r.archetype.StopsAt entries before e err := by
  obtain ⟨before, e, after, hsplit, htakes, hrefuses⟩ := exists_of_apply_error h
  exact ⟨before, e, ⟨after, hsplit⟩, htakes, hrefuses⟩

/-- What comes of entries of which one is at fault: the unset record, and one diagnostic. -/
structure Rejected (a : Archetype) (entries : List Entry) (d : Diagnostics) (j : Journal)
    (err : Error) (before : List Entry) (e : Entry) (outcome : Record × Journal) : Prop where
  stops : a.StopsAt entries before e err
  outcome : outcome = (unset a, d.sink.accept (d.rejection a e err (e.shownAfter before)) j)
  /-- The value shown is the one at fault if no entry before it is for the same field. -/
  own : (∀ e' ∈ before, e'.field ≠ e.field) → e.shownAfter before = e.value
  distinct : (entries.map Entry.field).Nodup → e.shownAfter before = e.value
  unknown : e.field ∉ a.fields.map FieldSpec.name → e.shownAfter before = e.value

theorem run_recover_of_error (h : r.apply entries clearUnset = .error err) (d : Diagnostics)
    (j : Journal) : ∃ before e, Rejected r.archetype entries d j err before e
      ((recover r.archetype entries d (.error err)).run j) := by
  obtain ⟨before, e, hstops⟩ := exists_stopsAt h
  refine ⟨before, e, ?_⟩
  refine
    { stops := hstops, outcome := ?_, own := Entry.shownAfter_of_ne, distinct := ?_,
      unknown := ?_ }
  · rw [hstops.rejection_eq]
    rfl
  · intro names
    exact Entry.shownAfter_of_ne (hstops.ne_of_nodup names)
  · intro unknown
    exact Entry.shownAfter_of_ne (hstops.ne_of_unknown unknown)

theorem exists_rejected_of_fromFields {a : Archetype} {fields : List (String × Input)}
    (h : tryFromFields a clearUnset fields = .error err) (d : Diagnostics) (j : Journal) :
    ∃ before e, Rejected a (entriesOf fields) d j err before e
      ((fromFields a clearUnset fields d).run j) := by
  have harchetype : (initial a clearUnset).archetype = a := by
    cases clearUnset <;> rfl
  have hreport := run_recover_of_error h d j
  rw [harchetype, ← h] at hreport
  exact hreport

/-- Where entries are refused, the diagnostic tells of the first one at fault and shows the value of
the first entry for the same field. That is the value at fault if no entry before it is for the
field: so it is where all fields are different, as in every patch that can be built, and where the
field is unknown. -/
theorem diagnostic_shows (d : Diagnostics) (j : Journal) :
    (∀ a clearUnset fields err, tryFromFields a clearUnset fields = .error err →
      ∃ before e, Rejected a (entriesOf fields) d j err before e
        ((fromFields a clearUnset fields d).run j)) ∧
    (∀ a fields err, tryConstruct a fields = .error err →
      ∃ before e, Rejected a (entriesOf fields) d j err before e
        ((construct a fields d).run j)) ∧
    ∀ (r : Record) p err, r.tryPatch p = .error err →
      ∃ before e, Rejected r.archetype p.entries d j err before e ((r.patch p d).run j) ∧
        (p.Built → (r.patch p d).run j =
          (unset r.archetype, d.sink.accept (d.rejection r.archetype e err e.value) j)) := by
  refine ⟨?_, ?_, ?_⟩
  · intro a clearUnset fields err h
    exact exists_rejected_of_fromFields h d j
  · intro a fields err h
    exact exists_rejected_of_fromFields h d j
  · intro r p err h
    obtain ⟨before, e, hrejected⟩ := run_recover_of_error h d j
    have hpatch : (r.patch p d).run j =
        (recover r.archetype p.entries d (.error err)).run j := by
      rw [patch, h]
    rw [hpatch]
    refine ⟨before, e, hrejected, ?_⟩
    intro built
    rw [hrejected.outcome, hrejected.distinct built.nodup]

/-- Lengths for capsules, and a text where radii should be. -/
def misshaping : Patch :=
  (Patch.blank.set "lengths" (.ofSingles [⟨3⟩])).set "radii" (.json (.string "wide"))

theorem diagnostic_shows_misshaping :
    ∃ err, capsules.tryPatch misshaping = .error err ∧ misshaping.Built ∧
      (capsules.patch misshaping ⟨.collect, 4⟩).run .blank =
        (unset .capsules3D,
          ⟨[⟨"Capsules3D", some "radii", some "\"wid...", err.message⟩], []⟩) := by
  have built : misshaping.Built := .set _ _ (.set _ _ .blank)
  obtain ⟨-, -, hpatch⟩ := diagnostic_shows ⟨.collect, 4⟩ .blank
  obtain ⟨before, e, hrejected, hshows⟩ := hpatch capsules misshaping _ rfl
  refine ⟨_, rfl, built, ?_⟩
  rw [hshows built, ← hrejected.distinct built.nodup, hrejected.stops.rejection_eq]
  rfl

/-- A scalar that is given twice, the second time as a text. -/
def scalarTwice : List (String × Input) :=
  [("scalar", .json (.number (.int 1))), ("scalar", .json (.string "three"))]

/-- The text is at fault, and the diagnostic tells of it, but the number is shown. -/
theorem construct_shows_accepted_value :
    ∃ before e err x, Archetype.scalar.StopsAt (entriesOf scalarTwice) before e err ∧
      e.value.map (Input.preview 64) = some "\"three\"" ∧
      (construct .scalar scalarTwice ⟨.collect, 64⟩).run .blank = (unset .scalar, ⟨[x], []⟩) ∧
      x.message = err.message ∧ x.value = some "1" := by
  have htakes : Archetype.scalar.Takes ⟨"scalar", some (.json (.number (.int 1)))⟩ := by
    refine ⟨⟨0, by decide⟩, rfl, ?_⟩
    intro input hinput
    cases hinput
    exact ⟨_, rfl⟩
  have hrefuses := Archetype.Refuses.conversion (a := .scalar)
    (e := ⟨"scalar", some (.json (.string "three"))⟩) (i := ⟨0, by decide⟩) rfl rfl rfl
  refine ⟨_, _, _, _, ⟨⟨[], rfl⟩, List.forall_mem_singleton.2 htakes, hrefuses⟩, rfl, rfl, rfl, rfl⟩

end Record

end Columnar
