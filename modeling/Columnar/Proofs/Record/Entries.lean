import Columnar.Proofs.Record.Reachable

/-!
# What entries do to a record

Entries are taken into account one after the other, and each of them overwrites what an earlier one
said of the same field. So the last entry for a field decides, and fields without an entry stay as
they were. The first entry that is at fault stops the run, whatever comes after it.

## Main statements

- `Archetype.Takes`, `Archetype.Refuses`: an entry that can be taken into account, and what is wrong
  with one that cannot.
- `Archetype.Gives`: the state that an entry gives its field.
- `Archetype.lastEntry?`, `Archetype.Leaves`: the last entry for a field, and the state that it
  leaves.
- `Record.exists_assign_iff`, `Record.assign_eq_error_iff`: one entry.
- `Record.exists_apply_iff`, `Record.apply_eq_error`, `Record.exists_state_of_apply`: a run.
- `Record.exists_state_of_tryFromFields`: a run that starts with a record without values.
- `Record.apply_characterized`: all that there is to a run.
-/

namespace Columnar

namespace Archetype

variable {a : Archetype} {name : String}

/-! ## Fields by name -/

theorem fieldIndex?_eq_none_iff :
    a.fieldIndex? name = none ↔ name ∉ a.fields.map FieldSpec.name := by
  unfold fieldIndex?
  rw [List.findFinIdx?_eq_none_iff, List.mem_map]
  constructor
  · rintro h ⟨f, hf, rfl⟩
    exact h f hf (beq_self_eq_true _)
  · intro h f hf he
    exact h ⟨f, hf, eq_of_beq he⟩

theorem name_of_fieldIndex? {i : Fin a.fields.length} (h : a.fieldIndex? name = some i) :
    (a.fields.get i).name = name :=
  eq_of_beq (List.findFinIdx?_eq_some_iff.1 h).1

/-- Where names are different, a field is found by its own. -/
theorem fieldIndex?_get (names : (a.fields.map FieldSpec.name).Nodup) (i : Fin a.fields.length) :
    a.fieldIndex? (a.fields.get i).name = some i := by
  unfold fieldIndex?
  rw [List.findFinIdx?_eq_some_iff]
  refine ⟨beq_self_eq_true _, ?_⟩
  intro j hji he
  have hname : (a.fields.get j).name = (a.fields.get i).name := eq_of_beq he
  have hj : (a.fields.map FieldSpec.name)[j.val]? = some (a.fields.get i).name := by
    rw [← hname, List.getElem?_map, List.getElem?_eq_getElem j.isLt]
    rfl
  have hi : (a.fields.map FieldSpec.name)[i.val]? = some (a.fields.get i).name := by
    rw [List.getElem?_map, List.getElem?_eq_getElem i.isLt]
    rfl
  have hlt : j.val < (a.fields.map FieldSpec.name).length := (List.getElem?_eq_some_iff.1 hj).1
  have hji' : j.val = i.val := (List.getElem?_inj hlt names).1 (hj.trans hi.symm)
  exact absurd (Fin.ext hji') (Fin.ne_of_lt hji)

/-! ## Single entries -/

/-- An entry that can be taken into account: it names a field, and if it has a value, the value
converts. -/
def Takes (a : Archetype) (e : Entry) : Prop :=
  ∃ i, a.fieldIndex? e.field = some i ∧ ∀ input, e.value = some input →
    ∃ values, (a.fields.get i).component.convert input = .ok values

theorem takes_of_convert {i : Fin a.fields.length} {input : Input} {values : Series}
    (hi : a.fieldIndex? name = some i)
    (h : (a.fields.get i).component.convert input = .ok values) : a.Takes ⟨name, some input⟩ := by
  refine ⟨i, hi, ?_⟩
  intro input' hinput
  cases hinput
  exact ⟨values, h⟩

/-- What is wrong with an entry. -/
inductive Refuses (a : Archetype) (e : Entry) : Error → Prop
  | unknownField (h : e.field ∉ a.fields.map FieldSpec.name) :
      Refuses a e (.unknownField a.shortName e.field)
  | conversion {i : Fin a.fields.length} {input : Input} {err : Error}
      (hi : a.fieldIndex? e.field = some i) (hv : e.value = some input)
      (h : (a.fields.get i).component.convert input = .error err) :
      Refuses a e (.inField a.shortName e.field err)

theorem exists_refuses {e : Entry} (h : ¬ a.Takes e) : ∃ err, a.Refuses e err := by
  cases hi : a.fieldIndex? e.field with
  | none => exact ⟨_, .unknownField (fieldIndex?_eq_none_iff.1 hi)⟩
  | some i =>
    cases hv : e.value with
    | none =>
      refine absurd ⟨i, hi, ?_⟩ h
      intro input hinput
      rw [hv] at hinput
      cases hinput
    | some input =>
      cases hc : (a.fields.get i).component.convert input with
      | error cause => exact ⟨_, .conversion hi hv hc⟩
      | ok values =>
        refine absurd ⟨i, hi, ?_⟩ h
        intro input' hinput
        rw [hv] at hinput
        cases hinput
        exact ⟨values, hc⟩

/-- The state that a value gives a field, or none. -/
inductive Gives (a : Archetype) (clearUnset : Bool) (f : FieldSpec) :
    Option Input → FieldState → Prop
  | empty {input : Input} {values : Series} (h : f.component.convert input = .ok values)
      (hlength : values.length = 0) :
      Gives a clearUnset f (some input) (.cleared ⟨a.descriptor f, values⟩)
  | values {input : Input} {values : Series} (h : f.component.convert input = .ok values)
      (hlength : values.length ≠ 0) :
      Gives a clearUnset f (some input) (.present ⟨a.descriptor f, values⟩)
  | clear (h : clearUnset = true) : Gives a clearUnset f none (.cleared (a.emptyBatch f))
  | unset (h : clearUnset = false) : Gives a clearUnset f none .unset

theorem gives_some_iff {clearUnset : Bool} {f : FieldSpec} {input : Input} {s : FieldState} :
    a.Gives clearUnset f (some input) s ↔
      ∃ values, f.component.convert input = .ok values ∧ s = .ofBatch ⟨a.descriptor f, values⟩ := by
  constructor
  · intro h
    cases h with
    | @empty _ values h hlength =>
      have hb : (⟨a.descriptor f, values⟩ : Batch).length = 0 := hlength
      exact ⟨values, h, (FieldState.ofBatch_of_length_eq_zero hb).symm⟩
    | @values _ values h hlength =>
      have hb : (⟨a.descriptor f, values⟩ : Batch).length ≠ 0 := hlength
      exact ⟨values, h, (FieldState.ofBatch_of_length_ne_zero hb).symm⟩
  · rintro ⟨values, h, rfl⟩
    by_cases hlength : (⟨a.descriptor f, values⟩ : Batch).length = 0
    · rw [FieldState.ofBatch_of_length_eq_zero hlength]
      exact .empty h hlength
    · rw [FieldState.ofBatch_of_length_ne_zero hlength]
      exact .values h hlength

/-! ## Several entries -/

/-- The last of the entries for the field in a place. -/
def lastEntry? (a : Archetype) (entries : List Entry) (i : Fin a.fields.length) : Option Entry :=
  (entries.filter fun e => a.fieldIndex? e.field == some i).getLast?

theorem lastEntry?_cons_of_eq {e : Entry} {entries : List Entry} {i : Fin a.fields.length}
    (h : a.fieldIndex? e.field = some i) :
    a.lastEntry? (e :: entries) i = some ((a.lastEntry? entries i).getD e) := by
  unfold lastEntry?
  rw [List.filter_cons_of_pos (by rw [h, beq_self_eq_true]), List.getLast?_cons]

theorem lastEntry?_cons_of_ne {e : Entry} {entries : List Entry} {i : Fin a.fields.length}
    (h : a.fieldIndex? e.field ≠ some i) :
    a.lastEntry? (e :: entries) i = a.lastEntry? entries i := by
  unfold lastEntry?
  rw [List.filter_cons_of_neg (by rwa [beq_iff_eq])]

theorem lastEntry?_eq_none_iff {entries : List Entry} {i : Fin a.fields.length} :
    a.lastEntry? entries i = none ↔ ∀ e ∈ entries, a.fieldIndex? e.field ≠ some i := by
  unfold lastEntry?
  rw [List.getLast?_eq_none_iff, List.filter_eq_nil_iff]
  simp only [beq_iff_eq, ne_eq]

theorem mem_of_lastEntry? {e : Entry} {entries : List Entry} {i : Fin a.fields.length}
    (h : a.lastEntry? entries i = some e) : e ∈ entries ∧ a.fieldIndex? e.field = some i := by
  obtain ⟨he, hi⟩ := List.mem_filter.1 (List.mem_of_getLast? h)
  exact ⟨he, eq_of_beq hi⟩

/-- What entries leave of the state in a place: the last entry for it decides, whatever the state
was, and without one it stays. -/
inductive Leaves (a : Archetype) (clearUnset : Bool) (entries : List Entry)
    (i : Fin a.fields.length) (prior : FieldState) : FieldState → Prop
  | decided {e : Entry} {s : FieldState} (h : a.lastEntry? entries i = some e)
      (hs : a.Gives clearUnset (a.fields.get i) e.value s) : Leaves a clearUnset entries i prior s
  | kept (h : a.lastEntry? entries i = none) : Leaves a clearUnset entries i prior prior

namespace Leaves

variable {clearUnset : Bool} {e : Entry} {entries : List Entry} {i : Fin a.fields.length}
  {prior s t : FieldState}

theorem cons_of_eq (hi : a.fieldIndex? e.field = some i)
    (ht : a.Gives clearUnset (a.fields.get i) e.value t)
    (h : a.Leaves clearUnset entries i t s) : a.Leaves clearUnset (e :: entries) i prior s := by
  cases h with
  | decided h hs => exact .decided (by rw [lastEntry?_cons_of_eq hi, h]; rfl) hs
  | kept h => exact .decided (by rw [lastEntry?_cons_of_eq hi, h]; rfl) ht

theorem cons_of_ne (hi : a.fieldIndex? e.field ≠ some i)
    (h : a.Leaves clearUnset entries i prior s) : a.Leaves clearUnset (e :: entries) i prior s := by
  cases h with
  | decided h hs => exact .decided (by rw [lastEntry?_cons_of_ne hi, h]) hs
  | kept h => exact .kept (by rw [lastEntry?_cons_of_ne hi, h])

end Leaves

end Archetype

namespace Record

/-! ## One entry -/

variable {a : Archetype} {f : FieldSpec} {clearUnset : Bool} {r r' : Record} {e : Entry}
  {s : FieldState} {err : Error}

theorem gives_of_stateOf {value : Option Input} (h : stateOf a f clearUnset value = .ok s) :
    a.Gives clearUnset f value s := by
  cases value with
  | some input => exact Archetype.gives_some_iff.2 (convertField_eq_ok_iff.1 h)
  | none =>
    obtain rfl : stateWithout a f clearUnset = s := Except.ok.inj h
    cases clearUnset with
    | false => exact .unset rfl
    | true => exact .clear rfl

theorem exists_stateOf_iff {value : Option Input} :
    (∃ s, stateOf a f clearUnset value = .ok s) ↔
      ∀ input, value = some input → ∃ values, f.component.convert input = .ok values := by
  cases value with
  | none =>
    constructor
    · intro _ input h
      cases h
    · intro _
      exact ⟨_, rfl⟩
  | some input =>
    constructor
    · rintro ⟨s, hs⟩ input' h
      cases h
      obtain ⟨values, hvalues, -⟩ := convertField_eq_ok_iff.1 hs
      exact ⟨values, hvalues⟩
    · intro h
      obtain ⟨values, hvalues⟩ := h input rfl
      exact ⟨_, convertField_eq_ok_iff.2 ⟨values, hvalues, rfl⟩⟩

theorem exists_assign_iff (clearUnset : Bool) :
    (∃ r', assign clearUnset r e = .ok r') ↔ r.archetype.Takes e := by
  constructor
  · rintro ⟨r', h⟩
    obtain ⟨i, s, hi, hs, -⟩ := assign_eq_ok_iff.1 h
    exact ⟨i, hi, exists_stateOf_iff.1 ⟨s, hs⟩⟩
  · rintro ⟨i, hi, hv⟩
    obtain ⟨s, hs⟩ := exists_stateOf_iff.2 hv
    exact ⟨_, assign_eq_ok_iff.2 ⟨i, s, hi, hs, rfl⟩⟩

theorem assign_eq_error (h : r.archetype.Refuses e err) : assign clearUnset r e = .error err := by
  unfold assign
  cases h with
  | unknownField h => rw [Archetype.fieldIndex?_eq_none_iff.2 h]
  | @conversion i input cause hi hv h =>
    have hs : stateOf r.archetype (r.archetype.fields.get i) clearUnset e.value =
        .error (.inField r.archetype.shortName e.field cause) := by
      rw [hv, stateOf, convertField, h, Archetype.name_of_fieldIndex? hi]
    rw [hi]
    show (stateOf r.archetype (r.archetype.fields.get i) clearUnset e.value >>= _) = _
    rw [hs]
    rfl

theorem assign_eq_error_iff :
    assign clearUnset r e = .error err ↔ r.archetype.Refuses e err := by
  constructor
  · intro h
    have hnot : ¬ r.archetype.Takes e := by
      intro htakes
      obtain ⟨r', hr'⟩ := (exists_assign_iff clearUnset).2 htakes
      rw [h] at hr'
      cases hr'
    obtain ⟨err', herr'⟩ := Archetype.exists_refuses hnot
    rw [assign_eq_error herr'] at h
    exact Except.error.inj h ▸ herr'
  · exact assign_eq_error

/-! ## Runs -/

theorem apply_cons {entries : List Entry} :
    r.apply (e :: entries) clearUnset =
      (assign clearUnset r e >>= fun next => next.apply entries clearUnset) :=
  List.foldlM_cons

theorem apply_append {before after : List Entry} :
    r.apply (before ++ after) clearUnset =
      (r.apply before clearUnset >>= fun next => next.apply after clearUnset) :=
  List.foldlM_append

theorem archetype_of_assign (h : assign clearUnset r e = .ok r') :
    r'.archetype = r.archetype := by
  obtain ⟨i, s, -, -, rfl⟩ := assign_eq_ok_iff.1 h
  rfl

theorem exists_apply_iff (clearUnset : Bool) {entries : List Entry} :
    (∃ r', r.apply entries clearUnset = .ok r') ↔ ∀ e ∈ entries, r.archetype.Takes e := by
  induction entries generalizing r with
  | nil => exact ⟨fun _ e he => absurd he List.not_mem_nil, fun _ => ⟨r, rfl⟩⟩
  | cons e entries ih =>
    rw [List.forall_mem_cons, ← exists_assign_iff clearUnset]
    constructor
    · rintro ⟨r', h⟩
      rw [apply_cons] at h
      obtain ⟨next, hnext, hrest⟩ := bind_eq_ok_iff.1 h
      rw [← archetype_of_assign hnext]
      exact ⟨⟨next, hnext⟩, ih.1 ⟨r', hrest⟩⟩
    · rintro ⟨⟨next, hnext⟩, hrest⟩
      rw [← archetype_of_assign hnext] at hrest
      obtain ⟨r', hr'⟩ := ih.2 hrest
      refine ⟨r', ?_⟩
      rw [apply_cons]
      exact bind_eq_ok_iff.2 ⟨next, hnext, hr'⟩

theorem archetype_of_apply {entries : List Entry} (h : r.apply entries clearUnset = .ok r') :
    r'.archetype = r.archetype := by
  induction entries generalizing r with
  | nil =>
    cases h
    rfl
  | cons e entries ih =>
    rw [apply_cons] at h
    obtain ⟨next, hnext, hrest⟩ := bind_eq_ok_iff.1 h
    rw [ih hrest, archetype_of_assign hnext]

/-- An entry at fault stops a run that has come to it. -/
theorem apply_eq_error {before after : List Entry} (hbefore : ∀ e' ∈ before, r.archetype.Takes e')
    (h : r.archetype.Refuses e err) :
    r.apply (before ++ e :: after) clearUnset = .error err := by
  obtain ⟨next, hnext⟩ := (exists_apply_iff clearUnset).2 hbefore
  have hstep : assign clearUnset next e = .error err := by
    rw [← archetype_of_apply hnext] at h
    exact assign_eq_error h
  rw [apply_append, hnext]
  show next.apply (e :: after) clearUnset = _
  rw [apply_cons, hstep]
  rfl

/-- A run that fails has come to an entry at fault. -/
theorem exists_of_apply_error {entries : List Entry}
    (h : r.apply entries clearUnset = .error err) : ∃ before e after,
      entries = before ++ e :: after ∧ (∀ e' ∈ before, r.archetype.Takes e') ∧
        r.archetype.Refuses e err := by
  induction entries generalizing r with
  | nil => cases h
  | cons e entries ih =>
    rw [apply_cons] at h
    cases he : assign clearUnset r e with
    | error err' =>
      rw [he] at h
      cases h
      refine ⟨[], e, entries, rfl, ?_, assign_eq_error_iff.1 he⟩
      exact fun _ h => absurd h List.not_mem_nil
    | ok next =>
      rw [he] at h
      obtain ⟨before, e', after, rfl, hbefore, hrefuses⟩ := ih h
      rw [archetype_of_assign he] at hbefore hrefuses
      refine ⟨e :: before, e', after, rfl, ?_, hrefuses⟩
      exact List.forall_mem_cons.2 ⟨(exists_assign_iff clearUnset).1 ⟨next, he⟩, hbefore⟩

/-! ## States after a run -/

theorem exists_gives_of_assign (h : assign clearUnset r e = .ok r') :
    ∃ k s, r.archetype.fieldIndex? e.field = some k ∧
      r.archetype.Gives clearUnset (r.archetype.fields.get k) e.value s ∧
      r' = { r with states := r.states.set k.val s } := by
  obtain ⟨k, s, hk, hs, rfl⟩ := assign_eq_ok_iff.1 h
  exact ⟨k, s, hk, gives_of_stateOf hs, rfl⟩

theorem length_states_of_apply {entries : List Entry} (h : r.apply entries clearUnset = .ok r') :
    r'.states.length = r.states.length := by
  induction entries generalizing r with
  | nil =>
    cases h
    rfl
  | cons e entries ih =>
    rw [apply_cons] at h
    obtain ⟨next, hnext, hrest⟩ := bind_eq_ok_iff.1 h
    obtain ⟨k, t, -, -, rfl⟩ := assign_eq_ok_iff.1 hnext
    rw [ih hrest, List.length_set]

theorem exists_state_of_apply {entries : List Entry} (h : r.apply entries clearUnset = .ok r')
    (i : Fin r.archetype.fields.length) {prior : FieldState}
    (hi : r.states[i.val]? = some prior) :
    ∃ s, r'.states[i.val]? = some s ∧ r.archetype.Leaves clearUnset entries i prior s := by
  -- from the front, so the state that the rest of the entries finds may be one that the first left
  induction entries generalizing r prior with
  | nil =>
    cases h
    exact ⟨prior, hi, .kept rfl⟩
  | cons e entries ih =>
    rw [apply_cons] at h
    obtain ⟨next, hnext, hrest⟩ := bind_eq_ok_iff.1 h
    obtain ⟨k, t, hk, ht, rfl⟩ := exists_gives_of_assign hnext
    by_cases hik : k = i
    · subst hik
      have hlt : k.val < r.states.length := (List.getElem?_eq_some_iff.1 hi).1
      obtain ⟨s, hs, hleaves⟩ := ih hrest k (List.getElem?_set_self hlt)
      exact ⟨s, hs, hleaves.cons_of_eq hk ht⟩
    · have hne : k.val ≠ i.val := fun he => hik (Fin.ext he)
      have hprior : (r.states.set k.val t)[i.val]? = some prior := by
        rw [List.getElem?_set_ne hne, hi]
      obtain ⟨s, hs, hleaves⟩ := ih hrest i hprior
      have hfield : r.archetype.fieldIndex? e.field ≠ some i := by
        rw [hk]
        exact fun he => hik (Option.some_inj.1 he)
      exact ⟨s, hs, hleaves.cons_of_ne hfield⟩

theorem initial_eq (a : Archetype) (clearUnset : Bool) :
    initial a clearUnset = ⟨a, a.fields.map fun f => stateWithout a f clearUnset⟩ := by
  cases clearUnset with
  | false => rfl
  | true => rfl

theorem getElem?_initial (a : Archetype) (clearUnset : Bool) (i : Fin a.fields.length) :
    (initial a clearUnset).states[i.val]? = some (stateWithout a (a.fields.get i) clearUnset) := by
  rw [initial_eq, List.getElem?_map, List.getElem?_eq_getElem i.isLt]
  rfl

/-- Values for fields find all fields in the state of those that get none. -/
theorem exists_state_of_tryFromFields {fields : List (String × Input)}
    (h : tryFromFields a clearUnset fields = .ok r) (i : Fin a.fields.length) :
    ∃ s, r.states[i.val]? = some s ∧ a.Leaves clearUnset (entriesOf fields) i
      (stateWithout a (a.fields.get i) clearUnset) s := by
  have hinitial := getElem?_initial a clearUnset i
  rw [tryFromFields, initial_eq] at h
  rw [initial_eq] at hinitial
  exact exists_state_of_apply h i hinitial

/-- A run succeeds if every entry can be taken into account, and then the last entry for a field
decides its state, while a field without an entry keeps its state. Otherwise the first entry at
fault decides the error. -/
theorem apply_characterized (r : Record) (clearUnset : Bool) (entries : List Entry) :
    ((∃ r', r.apply entries clearUnset = .ok r') ↔ ∀ e ∈ entries, r.archetype.Takes e) ∧
    (∀ r', r.apply entries clearUnset = .ok r' →
      r'.archetype = r.archetype ∧ r'.states.length = r.states.length ∧
      ∀ (i : Fin r.archetype.fields.length) prior, r.states[i.val]? = some prior →
        ∃ s, r'.states[i.val]? = some s ∧ r.archetype.Leaves clearUnset entries i prior s) ∧
    ∀ err, r.apply entries clearUnset = .error err ↔ ∃ before e after,
      entries = before ++ e :: after ∧ (∀ e' ∈ before, r.archetype.Takes e') ∧
        r.archetype.Refuses e err := by
  refine ⟨exists_apply_iff clearUnset, ?_, ?_⟩
  · intro r' h
    refine ⟨archetype_of_apply h, length_states_of_apply h, ?_⟩
    intro i prior hi
    exact exists_state_of_apply h i hi
  · intro err
    constructor
    · exact exists_of_apply_error
    · rintro ⟨before, e, after, rfl, hbefore, hrefuses⟩
      exact apply_eq_error hbefore hrefuses

end Record

end Columnar
