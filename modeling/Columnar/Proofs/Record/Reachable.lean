import Columnar.Catalog.Archetypes
import Columnar.Proofs.Traversal
import Columnar.Record.Construct

/-!
# Records that can come about

Whatever the operations on records do, the record of an archetype has one state for each field, and
every state was given to its field by being unset, by being cleared or by a conversion. So what
these three give holds of all states of all records that can come about.

## Main statements

- `Record.Reachable`: the records of an archetype that its operations give.
- `Record.assign_eq_ok_iff`, `Record.stateOf_cases`, `Record.convertField_eq_ok_iff`: what an entry
  can do.
- `Record.Reachable.holds`: what the three ways to a state have in common holds of all states.
- `Record.Reachable.suits`: a state is of its field, and it is cleared if its batch has no values.
-/

namespace Columnar

/-! ## States of a field -/

/-- The batch of a state has a descriptor, and the state says whether the batch has values. -/
def FieldState.Suits (d : Descriptor) : FieldState → Prop
  | .unset => True
  | .cleared b => b.descriptor = d ∧ b.length = 0
  | .present b => b.descriptor = d ∧ b.length ≠ 0

namespace FieldState

theorem ofBatch_of_length_eq_zero {b : Batch} (h : b.length = 0) : ofBatch b = .cleared b :=
  if_pos (decide_eq_true h)

theorem ofBatch_of_length_ne_zero {b : Batch} (h : b.length ≠ 0) : ofBatch b = .present b :=
  if_neg fun he => h (of_decide_eq_true he)

theorem suits_ofBatch (b : Batch) : (ofBatch b).Suits b.descriptor := by
  by_cases h : b.length = 0
  · rw [ofBatch_of_length_eq_zero h]
    exact ⟨rfl, h⟩
  · rw [ofBatch_of_length_ne_zero h]
    exact ⟨rfl, h⟩

/-- A state that is set is the one that its batch gives. -/
theorem ofBatch_eq_of_suits {s : FieldState} {d : Descriptor} {b : Batch} (hs : s.Suits d)
    (hb : s.batch? = some b) : ofBatch b = s := by
  cases s with
  | unset => cases hb
  | cleared b' =>
    cases hb
    exact ofBatch_of_length_eq_zero hs.2
  | present b' =>
    cases hb
    exact ofBatch_of_length_ne_zero hs.2

end FieldState

theorem Archetype.length_emptyBatch (a : Archetype) (f : FieldSpec) :
    (a.emptyBatch f).length = 0 := by
  have h : (a.emptyBatch f).values.cells = [] := Series.cells_empty _
  rw [Batch.length, ← Series.length_cells, h, List.length_nil]

theorem forall₂_set {α β : Type} {R : α → β → Prop} {xs : List α} {ys : List β} {y : β}
    (h : List.Forall₂ R xs ys) (i : Fin xs.length) (hy : R (xs.get i) y) :
    List.Forall₂ R xs (ys.set i y) := by
  obtain ⟨i, hi⟩ := i
  induction h generalizing i with
  | nil => exact .nil
  | cons hxy hrest ih =>
    cases i with
    | zero => exact .cons hy hrest
    | succ i => exact .cons hxy (ih i (Nat.lt_of_succ_lt_succ hi) hy)

namespace Record

variable {a : Archetype}

/-! ## What an entry can do -/

theorem assign_eq_ok_iff {clearUnset : Bool} {r r' : Record} {e : Entry} :
    assign clearUnset r e = .ok r' ↔ ∃ i s, r.archetype.fieldIndex? e.field = some i ∧
      stateOf r.archetype (r.archetype.fields.get i) clearUnset e.value = .ok s ∧
      r' = { r with states := r.states.set i.val s } := by
  unfold assign
  cases hi : r.archetype.fieldIndex? e.field with
  | none =>
    constructor
    · intro h
      cases h
    · rintro ⟨i, s, h, -⟩
      cases h
  | some i =>
    constructor
    · intro h
      obtain ⟨s, hs, hr⟩ := bind_eq_ok_iff.1 h
      exact ⟨i, s, rfl, hs, (Except.ok.inj hr).symm⟩
    · rintro ⟨i', s, h, hs, rfl⟩
      cases h
      exact bind_eq_ok_iff.2 ⟨s, hs, rfl⟩

theorem stateOf_cases {f : FieldSpec} {clearUnset : Bool} {value : Option Input} {s : FieldState}
    (h : stateOf a f clearUnset value = .ok s) :
    s = .unset ∨ s = .cleared (a.emptyBatch f) ∨ ∃ input, convertField a f input = .ok s := by
  cases value with
  | some input => exact Or.inr (Or.inr ⟨input, h⟩)
  | none =>
    have hs : stateWithout a f clearUnset = s := Except.ok.inj h
    cases clearUnset with
    | false => exact Or.inl hs.symm
    | true => exact Or.inr (Or.inl hs.symm)

theorem convertField_eq_ok_iff {f : FieldSpec} {input : Input} {s : FieldState} :
    convertField a f input = .ok s ↔
      ∃ values, f.component.convert input = .ok values ∧ s = .ofBatch ⟨a.descriptor f, values⟩ := by
  unfold convertField
  cases f.component.convert input with
  | error e =>
    constructor
    · intro h
      cases h
    · rintro ⟨values, h, -⟩
      cases h
  | ok values =>
    constructor
    · intro h
      exact ⟨values, rfl, (Except.ok.inj h).symm⟩
    · rintro ⟨values', h, rfl⟩
      cases h
      rfl

/-! ## Runs -/

/-- The records of an archetype that its operations give, in any order and with any values. -/
inductive Reachable (a : Archetype) : Record → Prop
  | unset : Reachable a (unset a)
  | cleared : Reachable a (cleared a)
  | tryFromFields {r : Record} (clearUnset : Bool) (fields : List (String × Input))
      (h : tryFromFields a clearUnset fields = .ok r) : Reachable a r
  | tryConstruct {r : Record} (fields : List (String × Input))
      (h : tryConstruct a fields = .ok r) : Reachable a r
  | fromFields (clearUnset : Bool) (fields : List (String × Input)) (d : Diagnostics)
      (j : Journal) : Reachable a ((fromFields a clearUnset fields d).run j).1
  | construct (fields : List (String × Input)) (d : Diagnostics) (j : Journal) :
      Reachable a ((construct a fields d).run j).1
  | tryPatch {r r' : Record} (p : Patch) (reach : Reachable a r) (h : r.tryPatch p = .ok r') :
      Reachable a r'
  | patch {r : Record} (p : Patch) (d : Diagnostics) (j : Journal) (reach : Reachable a r) :
      Reachable a ((r.patch p d).run j).1

/-- Three capsules with lengths, whose radii are cleared. -/
def capsules : Record where
  archetype := .capsules3D
  states :=
    [.present ⟨.forField "arche.archetypes.Capsules3D" "lengths" "arche.components.Length",
        .singles [⟨0⟩, ⟨1⟩, ⟨2⟩]⟩,
      .cleared ⟨.forField "arche.archetypes.Capsules3D" "radii" "arche.components.Radius",
        .singles []⟩,
      .unset]

theorem reachable_capsules : Reachable .capsules3D capsules :=
  .tryConstruct [("lengths", .ofSingles [⟨0⟩, ⟨1⟩, ⟨2⟩]), ("radii", .ofSingles [])] rfl

/-! ## What all states have in common -/

/-- What the three ways to a state of a field give. -/
structure Settles (a : Archetype) (P : FieldSpec → FieldState → Prop) : Prop where
  unset : ∀ f, P f .unset
  cleared : ∀ f, P f (.cleared (a.emptyBatch f))
  convert : ∀ f input s, convertField a f input = .ok s → P f s

/-- A record of an archetype with one state for each field, all of which have a property. -/
structure Holds (a : Archetype) (P : FieldSpec → FieldState → Prop) (r : Record) : Prop where
  archetype : r.archetype = a
  states : List.Forall₂ P a.fields r.states

theorem Holds.of_getElem? {P : FieldSpec → FieldState → Prop} {r : Record} (h : Holds a P r)
    {i : Nat} {f : FieldSpec} {s : FieldState} (hf : a.fields[i]? = some f)
    (hs : r.states[i]? = some s) : P f s := by
  obtain ⟨t, ht, hP⟩ := exists_getElem?_of_forall₂ h.states hf
  rw [Option.some_inj.1 (hs.symm.trans ht)]
  exact hP

variable {P : FieldSpec → FieldState → Prop} (hP : Settles a P)
include hP

theorem holds_unset : Holds a P (unset a) where
  archetype := rfl
  states := by
    rw [unset, List.forall₂_map_right_iff, List.forall₂_same]
    exact fun f _ => hP.unset f

theorem holds_cleared : Holds a P (cleared a) where
  archetype := rfl
  states := by
    rw [cleared, List.forall₂_map_right_iff, List.forall₂_same]
    exact fun f _ => hP.cleared f

theorem holds_assign {clearUnset : Bool} {r r' : Record} {e : Entry} (hr : Holds a P r)
    (h : assign clearUnset r e = .ok r') : Holds a P r' := by
  obtain ⟨rfl, hstates⟩ := hr
  obtain ⟨i, s, -, hs, rfl⟩ := assign_eq_ok_iff.1 h
  refine ⟨rfl, forall₂_set hstates i ?_⟩
  obtain rfl | rfl | ⟨input, hc⟩ := stateOf_cases hs
  · exact hP.unset _
  · exact hP.cleared _
  · exact hP.convert _ input s hc

theorem holds_apply {clearUnset : Bool} {r r' : Record} {entries : List Entry} (hr : Holds a P r)
    (h : r.apply entries clearUnset = .ok r') : Holds a P r' := by
  unfold apply at h
  induction entries generalizing r with
  | nil => exact Except.ok.inj h ▸ hr
  | cons e entries ih =>
    rw [List.foldlM_cons] at h
    obtain ⟨next, he, hrest⟩ := bind_eq_ok_iff.1 h
    exact ih (holds_assign hP hr he) hrest

theorem holds_tryFromFields {clearUnset : Bool} {fields : List (String × Input)} {r : Record}
    (h : tryFromFields a clearUnset fields = .ok r) : Holds a P r := by
  have hi : Holds a P (initial a clearUnset) := by
    cases clearUnset with
    | false => exact holds_unset hP
    | true => exact holds_cleared hP
  exact holds_apply hP hi h

/-- An attempt that is recovered gives what it gives, or the unset record. -/
theorem holds_recover {entries : List Entry} {d : Diagnostics} {j : Journal}
    {answer : Except Error Record} (h : ∀ r, answer = .ok r → Holds a P r) :
    Holds a P ((recover a entries d answer).run j).1 := by
  cases answer with
  | error e => exact holds_unset hP
  | ok r => exact h r rfl

theorem Reachable.holds {r : Record} (reach : Reachable a r) : Holds a P r := by
  induction reach with
  | unset => exact holds_unset hP
  | cleared => exact holds_cleared hP
  | tryFromFields clearUnset fields h => exact holds_tryFromFields hP h
  | tryConstruct fields h => exact holds_tryFromFields hP h
  | fromFields clearUnset fields d j =>
    exact holds_recover hP fun _ h => holds_tryFromFields hP h
  | construct fields d j => exact holds_recover hP fun _ h => holds_tryFromFields hP h
  | tryPatch p _ h ih => exact holds_apply hP ih h
  | patch p d j _ ih =>
    obtain ⟨rfl, hstates⟩ := ih
    exact holds_recover hP fun _ h => holds_apply hP ⟨rfl, hstates⟩ h

omit hP

theorem settles_suits (a : Archetype) : Settles a fun f s => s.Suits (a.descriptor f) where
  unset _ := trivial
  cleared f := ⟨rfl, a.length_emptyBatch f⟩
  convert f input s h := by
    obtain ⟨values, -, rfl⟩ := convertField_eq_ok_iff.1 h
    exact FieldState.suits_ofBatch ⟨a.descriptor f, values⟩

/-- A state is of its field, and it is cleared if its batch has no values. -/
theorem Reachable.suits {r : Record} (reach : Reachable a r) :
    Holds a (fun f s => s.Suits (a.descriptor f)) r :=
  reach.holds (settles_suits a)

end Record

end Columnar
