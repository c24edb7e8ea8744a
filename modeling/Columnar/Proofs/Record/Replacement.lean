import Columnar.Proofs.Record.Patching

/-!
# Patches of all fields

What a field was before does not matter once an entry names it. A patch that names every field of a
record therefore gives the same record, or the same error, whatever the record was before. So to
construct a record from values for some fields is to patch any record of the archetype with these
values and to reset all other fields.

## Main statements

- `Patch.setAll`, `Patch.resetAll`: values for several fields, and fields without a value.
- `Patch.entries_addAll`: entries with different names stand in a patch as they were added.
- `Record.AgreeBut`, `Record.apply_eq_of_agreeBut`: entries do not depend on what they overwrite.
- `Record.apply_resets`: resetting fields that have no value changes nothing.
- `Record.tryPatch_replaces`: a patch of all fields.
-/

namespace Columnar

/-- The names of the fields for which no value is given, in order. -/
def Archetype.others (a : Archetype) (fields : List (String × Input)) : List String :=
  (a.fields.map FieldSpec.name).filter fun name => name ∉ fields.map Prod.fst

namespace Patch

def setAll (p : Patch) (fields : List (String × Input)) : Patch :=
  fields.foldl (fun p f => p.set f.1 f.2) p

def resetAll (p : Patch) (names : List String) : Patch := names.foldl reset p

/-- Entries that name fields without giving them a value. -/
def resets (names : List String) : List Entry := names.map fun name => ⟨name, none⟩

/-! ## Entries of a patch -/

theorem setAll_eq (p : Patch) (fields : List (String × Input)) :
    p.setAll fields = p.addAll (Record.entriesOf fields) := by
  rw [addAll, Record.entriesOf, List.foldl_map]
  rfl

theorem resetAll_eq (p : Patch) (names : List String) :
    p.resetAll names = p.addAll (resets names) := by
  rw [addAll, resets, List.foldl_map]
  rfl

theorem addAll_append (p : Patch) (before after : List Entry) :
    p.addAll (before ++ after) = (p.addAll before).addAll after :=
  List.foldl_append

theorem clearUnset_addAll (p : Patch) (entries : List Entry) :
    (p.addAll entries).clearUnset = p.clearUnset := by
  induction entries generalizing p with
  | nil => rfl
  | cons e entries ih =>
    rw [addAll_cons, ih]
    rfl

theorem entries_add {p : Patch} {e : Entry} (h : e.field ∉ p.entries.map Entry.field) :
    (p.add e.field e.value).entries = p.entries ++ [e] := by
  have hkeep : p.entries.filter (fun e' => e'.field != e.field) = p.entries := by
    rw [List.filter_eq_self]
    intro e' he'
    rw [bne_iff_ne]
    intro heq
    exact h (heq ▸ List.mem_map_of_mem he')
  show p.entries.filter (fun e' => e'.field != e.field) ++ [e] = _
  rw [hkeep]

/-- Entries with different names stand in a patch in the order in which they were added. -/
theorem entries_addAll {p : Patch} {entries : List Entry}
    (h : ((p.entries ++ entries).map Entry.field).Nodup) :
    (p.addAll entries).entries = p.entries ++ entries := by
  induction entries generalizing p with
  | nil => rw [List.append_nil]; rfl
  | cons e entries ih =>
    have hnew : e.field ∉ p.entries.map Entry.field := by
      rw [List.map_append, List.map_cons, List.nodup_append] at h
      intro he
      exact h.2.2 _ he _ List.mem_cons_self rfl
    have hadd := entries_add hnew
    have hcons : p.entries ++ e :: entries = (p.add e.field e.value).entries ++ entries := by
      rw [hadd, List.append_assoc, List.singleton_append]
    rw [hcons] at h ⊢
    exact ih h

end Patch

namespace Record

variable {a : Archetype} {clearUnset : Bool} {r r' : Record} {entries : List Entry}

/-! ## What entries overwrite -/

/-- Two records that differ at most in the states of fields that are named. -/
structure AgreeBut (entries : List Entry) (r r' : Record) : Prop where
  archetype : r.archetype = r'.archetype
  length : r.states.length = r'.states.length
  state : ∀ i : Nat, (∀ e ∈ entries, ∀ k, r.archetype.fieldIndex? e.field = some k → k.val ≠ i) →
    r.states[i]? = r'.states[i]?

/-- After an entry, its field has the same state in both records. -/
theorem AgreeBut.set {e : Entry} {i : Fin a.fields.length} {states states' : List FieldState}
    (h : AgreeBut (e :: entries) ⟨a, states⟩ ⟨a, states'⟩) (hi : a.fieldIndex? e.field = some i)
    (s : FieldState) :
    AgreeBut entries ⟨a, states.set i.val s⟩ ⟨a, states'.set i.val s⟩ where
  archetype := rfl
  length := by
    rw [List.length_set, List.length_set]
    exact h.length
  state j hj := by
    have hlength : states.length = states'.length := h.length
    show (states.set i.val s)[j]? = (states'.set i.val s)[j]?
    rw [List.getElem?_set, List.getElem?_set, hlength]
    by_cases hij : i.val = j
    · rw [if_pos hij, if_pos hij]
    · rw [if_neg hij, if_neg hij]
      refine h.state j (List.forall_mem_cons.2 ⟨?_, hj⟩)
      intro k hk
      obtain rfl : i = k := Option.some_inj.1 (hi.symm.trans hk)
      exact hij

/-- Entries give the same whatever the states are that they overwrite. -/
theorem apply_eq_of_agreeBut (h : AgreeBut entries r r') :
    r.apply entries clearUnset = r'.apply entries clearUnset := by
  obtain ⟨a, states⟩ := r
  obtain ⟨a', states'⟩ := r'
  obtain rfl : a = a' := h.archetype
  induction entries generalizing states states' with
  | nil =>
    have hstates : states = states' := List.ext_getElem? fun i => h.state i (by simp)
    rw [hstates]
  | cons e entries ih =>
    rw [apply_cons, apply_cons]
    unfold assign
    dsimp only
    cases hi : a.fieldIndex? e.field with
    | none => rfl
    | some i =>
      dsimp only
      cases stateOf a a.fields[i] clearUnset e.value with
      | error err => rfl
      | ok s => exact ih _ _ (h.set hi s)

/-- Fields that no entry names keep their states. -/
theorem getElem?_of_apply (h : r.apply entries clearUnset = .ok r')
    {i : Fin r.archetype.fields.length} {s : FieldState} (hs : r.states[i.val]? = some s)
    (hnone : ∀ e ∈ entries, r.archetype.fieldIndex? e.field ≠ some i) :
    r'.states[i.val]? = some s := by
  obtain ⟨t, ht, hleaves⟩ := exists_state_of_apply h i hs
  cases hleaves with
  | decided hlast _ =>
    rw [Archetype.lastEntry?_eq_none_iff.2 hnone] at hlast
    cases hlast
  | kept _ => exact ht

/-! ## Fields that are reset -/

/-- Among the states of an archetype, a field has that of one that is named without a value. -/
def IsReset (a : Archetype) (clearUnset : Bool) (states : List FieldState) (name : String) : Prop :=
  ∃ i, a.fieldIndex? name = some i ∧
    states[i.val]? = some (stateWithout a (a.fields.get i) clearUnset)

theorem assign_of_isReset {name : String} (h : IsReset r.archetype clearUnset r.states name) :
    assign clearUnset r ⟨name, none⟩ = .ok r := by
  obtain ⟨i, hi, hs⟩ := h
  refine assign_eq_ok_iff.2 ⟨i, _, hi, rfl, ?_⟩
  obtain ⟨hlt, hget⟩ := List.getElem?_eq_some_iff.1 hs
  rw [← hget, List.set_getElem_self hlt]

theorem apply_resets {names : List String}
    (h : ∀ name ∈ names, IsReset r.archetype clearUnset r.states name) :
    r.apply (Patch.resets names) clearUnset = .ok r := by
  induction names with
  | nil => rfl
  | cons name names ih =>
    rw [List.forall_mem_cons] at h
    exact apply_cons_eq_ok_iff.2 ⟨r, assign_of_isReset h.1, ih h.2⟩

/-! ## Patches of all fields -/

variable {fields : List (String × Input)} {others : List String}

theorem field_entriesOf (fields : List (String × Input)) :
    (entriesOf fields).map Entry.field = fields.map Prod.fst := by
  rw [entriesOf, List.map_map]
  rfl

theorem field_resets (names : List String) : (Patch.resets names).map Entry.field = names := by
  rw [Patch.resets, List.map_map]
  exact List.map_id names

theorem mem_others {name : String} :
    name ∈ a.others fields ↔ name ∈ a.fields.map FieldSpec.name ∧ name ∉ fields.map Prod.fst := by
  rw [Archetype.others, List.mem_filter, decide_eq_true_eq]

/-- The values in order and then the resets are the entries of the patch. -/
theorem entries_resetAll_setAll (names : (a.fields.map FieldSpec.name).Nodup)
    (distinct : (fields.map Prod.fst).Nodup) (hothers : others.Perm (a.others fields)) :
    (((Patch.blank.clearingUnset clearUnset).setAll fields).resetAll others).entries =
      entriesOf fields ++ Patch.resets others := by
  have hnodup : ((entriesOf fields ++ Patch.resets others).map Entry.field).Nodup := by
    rw [List.map_append, field_entriesOf, field_resets, List.nodup_append]
    refine ⟨distinct, hothers.nodup_iff.2 (names.filter _), ?_⟩
    intro name hname name' hname' heq
    exact (mem_others.1 (hothers.mem_iff.1 hname')).2 (heq ▸ hname)
  rw [Patch.setAll_eq, Patch.resetAll_eq, ← Patch.addAll_append]
  exact Patch.entries_addAll hnodup

/-- Where every field is named, nothing is left of what was there before. -/
theorem agreeBut_of_named {states states' : List FieldState}
    (hlength : states.length = a.fields.length) (hlength' : states'.length = a.fields.length)
    (h : ∀ i, ∃ e ∈ entries, a.fieldIndex? e.field = some i) :
    AgreeBut entries ⟨a, states⟩ ⟨a, states'⟩ where
  archetype := rfl
  length := hlength.trans hlength'.symm
  state i hi := by
    by_cases hlt : i < a.fields.length
    · obtain ⟨e, he, hk⟩ := h ⟨i, hlt⟩
      exact absurd rfl (hi e he ⟨i, hlt⟩ hk)
    · have hge : a.fields.length ≤ i := Nat.not_lt.1 hlt
      have hnone : states[i]? = none := List.getElem?_eq_none (hlength ▸ hge)
      have hnone' : states'[i]? = none := List.getElem?_eq_none (hlength' ▸ hge)
      exact hnone.trans hnone'.symm

theorem exists_entry_of_field (names : (a.fields.map FieldSpec.name).Nodup)
    (hothers : others.Perm (a.others fields)) (i : Fin a.fields.length) :
    ∃ e ∈ entriesOf fields ++ Patch.resets others, a.fieldIndex? e.field = some i := by
  have hindex := Archetype.fieldIndex?_get names i
  have hmem : (a.fields.get i).name ∈
      (entriesOf fields ++ Patch.resets others).map Entry.field := by
    rw [List.map_append, field_entriesOf, field_resets, List.mem_append, hothers.mem_iff,
      mem_others]
    by_cases hgiven : (a.fields.get i).name ∈ fields.map Prod.fst
    · exact Or.inl hgiven
    · exact Or.inr ⟨List.mem_map_of_mem (List.get_mem _ _), hgiven⟩
  obtain ⟨e, he, hfield⟩ := List.mem_map.1 hmem
  exact ⟨e, he, hfield ▸ hindex⟩

/-- A field for which no value is given is still reset after the values. -/
theorem isReset_of_apply (names : (a.fields.map FieldSpec.name).Nodup)
    (h : (initial a clearUnset).apply (entriesOf fields) clearUnset = .ok r') {name : String}
    (hname : name ∈ a.others fields) : IsReset a clearUnset r'.states name := by
  obtain ⟨hdeclared, hnot⟩ := mem_others.1 hname
  obtain ⟨f, hf, rfl⟩ := List.mem_map.1 hdeclared
  obtain ⟨i, rfl⟩ := List.get_of_mem hf
  refine ⟨i, Archetype.fieldIndex?_get names i, ?_⟩
  have hinitial := getElem?_initial a clearUnset i
  rw [initial_eq] at h hinitial
  refine getElem?_of_apply h hinitial ?_
  intro e he hi
  have hfield : e.field ∈ fields.map Prod.fst := by
    rw [← field_entriesOf]
    exact List.mem_map_of_mem he
  rw [← Archetype.name_of_fieldIndex? hi] at hfield
  exact hnot hfield

theorem clearUnset_resetAll_setAll (p : Patch) (fields : List (String × Input))
    (others : List String) : ((p.setAll fields).resetAll others).clearUnset = p.clearUnset := by
  rw [Patch.resetAll_eq, Patch.setAll_eq, Patch.clearUnset_addAll, Patch.clearUnset_addAll]

theorem tryPatch_resetAll_setAll (names : (a.fields.map FieldSpec.name).Nodup)
    (distinct : (fields.map Prod.fst).Nodup) (hothers : others.Perm (a.others fields))
    (harchetype : r.archetype = a) (hlength : r.states.length = a.fields.length) :
    r.tryPatch (((Patch.blank.clearingUnset clearUnset).setAll fields).resetAll others) =
      tryFromFields a clearUnset fields := by
  obtain ⟨b, states⟩ := r
  obtain rfl : a = b := harchetype.symm
  have hinitial : (initial a clearUnset).states.length = a.fields.length := by
    rw [initial_eq]
    exact List.length_map _
  have hagree : AgreeBut (entriesOf fields ++ Patch.resets others) ⟨a, states⟩
      (initial a clearUnset) := by
    rw [initial_eq] at hinitial ⊢
    exact agreeBut_of_named hlength hinitial (exists_entry_of_field names hothers)
  rw [tryPatch, entries_resetAll_setAll names distinct hothers, clearUnset_resetAll_setAll]
  show Record.apply ⟨a, states⟩ _ clearUnset = _
  rw [apply_eq_of_agreeBut hagree, apply_append, tryFromFields]
  cases h : (initial a clearUnset).apply (entriesOf fields) clearUnset with
  | error err => rfl
  | ok r' =>
    refine apply_resets fun name hname => ?_
    have harchetype : r'.archetype = a := by
      rw [archetype_of_apply h, initial_eq]
    rw [harchetype]
    exact isReset_of_apply names h (hothers.mem_iff.1 hname)

/-- To construct a record from values for some fields is to patch any record of the archetype with
these values and to reset all other fields, in whatever order: the record is the same, and so is the
error. If all fields are reset, nothing is left of the record: all of them are cleared or unset. -/
theorem tryPatch_replaces {a : Archetype} {fields : List (String × Input)} {others : List String}
    {r : Record} (clearUnset : Bool) (names : (a.fields.map FieldSpec.name).Nodup)
    (distinct : (fields.map Prod.fst).Nodup) (hothers : others.Perm (a.others fields))
    (harchetype : r.archetype = a) (hlength : r.states.length = a.fields.length) :
    r.tryPatch (((Patch.blank.clearingUnset clearUnset).setAll fields).resetAll others) =
      tryFromFields a clearUnset fields ∧
    ∀ all : List String, all.Perm (a.fields.map FieldSpec.name) →
      r.tryPatch ((Patch.blank.clearingUnset clearUnset).resetAll all) =
        .ok (if clearUnset then cleared a else unset a) := by
  refine ⟨tryPatch_resetAll_setAll names distinct hothers harchetype hlength, ?_⟩
  intro all hall
  have hnone : a.others [] = a.fields.map FieldSpec.name :=
    List.filter_eq_self.2 fun name _ => decide_eq_true List.not_mem_nil
  have hdistinct : (([] : List (String × Input)).map Prod.fst).Nodup := List.nodup_nil
  exact tryPatch_resetAll_setAll names hdistinct (hnone ▸ hall) harchetype hlength

theorem tryPatch_replaces_capsules :
    (Archetype.capsules3D.fields.map FieldSpec.name).Nodup ∧
      ([("radii", Input.ofSingles [⟨1⟩, ⟨2⟩])].map Prod.fst).Nodup ∧
      ["translations", "lengths"].Perm
        (Archetype.capsules3D.others [("radii", .ofSingles [⟨1⟩, ⟨2⟩])]) ∧
      capsules.archetype = .capsules3D ∧
      capsules.states.length = Archetype.capsules3D.fields.length ∧
      capsules.tryPatch (((Patch.blank.clearingUnset true).setAll
        [("radii", .ofSingles [⟨1⟩, ⟨2⟩])]).resetAll ["translations", "lengths"]) =
        tryFromFields .capsules3D true [("radii", .ofSingles [⟨1⟩, ⟨2⟩])] ∧
      capsules.tryPatch ((Patch.blank.clearingUnset true).resetAll
        ["translations", "lengths", "radii"]) = .ok (cleared .capsules3D) := by
  have names : (Archetype.capsules3D.fields.map FieldSpec.name).Nodup := by decide
  have distinct : ([("radii", Input.ofSingles [⟨1⟩, ⟨2⟩])].map Prod.fst).Nodup := by decide
  have hothers : ["translations", "lengths"].Perm
      (Archetype.capsules3D.others [("radii", .ofSingles [⟨1⟩, ⟨2⟩])]) := by decide
  obtain ⟨hsome, hall⟩ :=
    tryPatch_replaces (r := capsules) true names distinct hothers rfl rfl
  exact ⟨names, distinct, hothers, rfl, rfl, hsome, hall _ (by decide)⟩

end Record

end Columnar
