import Columnar.Proofs.Record.Entries

/-!
# Patches one after the other

What an entry gives its field depends on the archetype and on the entry alone, never on a state of
the record. So entries for different fields may change places, and an entry takes away what an
earlier one for the same field has done. Hence two patches of different fields may change places,
whatever becomes of fields without a value in either of them. Two patches that agree on this are one
patch, the first one with the entries of the second one added.

## Main statements

- `Record.assign_comm`, `Record.assign_overwrites`: two entries.
- `Record.apply_comm`: two runs of entries for different fields.
- `Patch.addAll`, `Patch.Disjoint`: the entries of a patch added to another one, and patches that
  name no common field.
- `Record.tryPatch_addAll`: a run of entries after a patch is part of the patch.
- `Record.tryPatch_tryPatch`: two patches.
-/

namespace Columnar

theorem Archetype.fieldIndex?_ne {a : Archetype} {name name' : String} {i j : Fin a.fields.length}
    (h : name ≠ name') (hi : a.fieldIndex? name = some i) (hj : a.fieldIndex? name' = some j) :
    i.val ≠ j.val := by
  intro hij
  obtain rfl : i = j := Fin.ext hij
  exact h ((name_of_fieldIndex? hi).symm.trans (name_of_fieldIndex? hj))

namespace Patch

/-- A patch with more entries, added one after the other. -/
def addAll (p : Patch) (entries : List Entry) : Patch :=
  entries.foldl (fun p e => p.add e.field e.value) p

/-- Patches that name no common field. -/
def Disjoint (p q : Patch) : Prop := ∀ e ∈ p.entries, ∀ e' ∈ q.entries, e.field ≠ e'.field

instance (p q : Patch) : Decidable (p.Disjoint q) :=
  inferInstanceAs (Decidable (∀ e ∈ p.entries, ∀ e' ∈ q.entries, e.field ≠ e'.field))

theorem Disjoint.symm {p q : Patch} (h : p.Disjoint q) : q.Disjoint p := by
  intro e he e' he'
  exact (h e' he' e he).symm

theorem addAll_cons (p : Patch) (e : Entry) (entries : List Entry) :
    p.addAll (e :: entries) = (p.add e.field e.value).addAll entries := rfl

end Patch

namespace Record

variable {clearUnset clearUnset' : Bool} {r m r' : Record} {e e' : Entry}
  {entries entries' : List Entry}

/-! ## Two entries -/

/-- Entries for different fields may change places. -/
theorem assign_comm (h : e.field ≠ e'.field) (he : assign clearUnset r e = .ok m)
    (he' : assign clearUnset' m e' = .ok r') :
    ∃ m', assign clearUnset' r e' = .ok m' ∧ assign clearUnset m' e = .ok r' := by
  obtain ⟨i, s, hi, hs, rfl⟩ := assign_eq_ok_iff.1 he
  obtain ⟨j, t, hj, ht, rfl⟩ := assign_eq_ok_iff.1 he'
  have hij : i.val ≠ j.val := Archetype.fieldIndex?_ne h hi hj
  have hstates : (r.states.set i.val s).set j.val t = (r.states.set j.val t).set i.val s :=
    List.set_comm s t hij
  refine ⟨_, assign_eq_ok_iff.2 ⟨j, t, hj, ht, rfl⟩, assign_eq_ok_iff.2 ⟨i, s, hi, hs, ?_⟩⟩
  rw [← hstates]

/-- Of two entries for one field it is the second that counts. -/
theorem assign_overwrites (h : e.field = e'.field) (he : assign clearUnset r e = .ok m)
    (he' : assign clearUnset' m e' = .ok r') : assign clearUnset' r e' = .ok r' := by
  obtain ⟨i, s, hi, -, rfl⟩ := assign_eq_ok_iff.1 he
  obtain ⟨j, t, hj, ht, rfl⟩ := assign_eq_ok_iff.1 he'
  have hij : i = j := by
    rw [h] at hi
    exact Option.some_inj.1 (hi.symm.trans hj)
  subst hij
  refine assign_eq_ok_iff.2 ⟨i, t, hj, ht, ?_⟩
  rw [List.set_set]

/-! ## Runs -/

theorem apply_cons_eq_ok_iff :
    r.apply (e :: entries) clearUnset = .ok r' ↔
      ∃ m, assign clearUnset r e = .ok m ∧ m.apply entries clearUnset = .ok r' := by
  rw [apply_cons, bind_eq_ok_iff]

/-- An entry may come after entries for other fields. -/
theorem apply_assign_comm (h : ∀ e' ∈ entries, e.field ≠ e'.field)
    (he : assign clearUnset r e = .ok m) (hrest : m.apply entries clearUnset' = .ok r') :
    ∃ m', r.apply entries clearUnset' = .ok m' ∧ assign clearUnset m' e = .ok r' := by
  induction entries generalizing r m with
  | nil =>
    cases hrest
    exact ⟨r, rfl, he⟩
  | cons e' entries ih =>
    rw [List.forall_mem_cons] at h
    obtain ⟨n, hn, hrest⟩ := apply_cons_eq_ok_iff.1 hrest
    obtain ⟨k, hk, hkn⟩ := assign_comm h.1 he hn
    obtain ⟨m', hm', hr'⟩ := ih h.2 hkn hrest
    exact ⟨m', apply_cons_eq_ok_iff.2 ⟨k, hk, hm'⟩, hr'⟩

/-- Runs of entries for different fields may change places. -/
theorem apply_comm (h : ∀ e ∈ entries, ∀ e' ∈ entries', e.field ≠ e'.field)
    (hm : r.apply entries clearUnset = .ok m) (hr' : m.apply entries' clearUnset' = .ok r') :
    ∃ m', r.apply entries' clearUnset' = .ok m' ∧ m'.apply entries clearUnset = .ok r' := by
  induction entries generalizing r with
  | nil =>
    cases hm
    exact ⟨r', hr', rfl⟩
  | cons e entries ih =>
    rw [List.forall_mem_cons] at h
    obtain ⟨n, hn, hm⟩ := apply_cons_eq_ok_iff.1 hm
    obtain ⟨k, hk, hkr⟩ := ih h.2 hm
    obtain ⟨m', hm', hmk⟩ := apply_assign_comm h.1 hn hk
    exact ⟨m', hm', apply_cons_eq_ok_iff.2 ⟨k, hmk, hkr⟩⟩

/-- Entries that a later one overwrites may be left out. -/
theorem apply_filter_assign (hm : r.apply entries clearUnset = .ok m)
    (he : assign clearUnset m e = .ok r') :
    ∃ m', r.apply (entries.filter fun e' => e'.field != e.field) clearUnset = .ok m' ∧
      assign clearUnset m' e = .ok r' := by
  induction entries generalizing r with
  | nil =>
    cases hm
    exact ⟨_, rfl, he⟩
  | cons d entries ih =>
    obtain ⟨n, hn, hm⟩ := apply_cons_eq_ok_iff.1 hm
    obtain ⟨k, hk, hkr⟩ := ih hm
    by_cases hd : d.field = e.field
    · -- The entry is put behind the ones that stay, where the later one overwrites it.
      have hothers : ∀ d' ∈ entries.filter (fun e' => e'.field != e.field), d.field ≠ d'.field := by
        intro d' hd' heq
        have hne := (List.mem_filter.1 hd').2
        rw [← heq, hd, bne_self_eq_false] at hne
        cases hne
      obtain ⟨m', hm', hmk⟩ := apply_assign_comm hothers hn hk
      rw [List.filter_cons_of_neg (by rw [hd, bne_self_eq_false]; exact Bool.false_ne_true)]
      exact ⟨m', hm', assign_overwrites hd hmk hkr⟩
    · rw [List.filter_cons_of_pos (by exact bne_iff_ne.2 hd)]
      exact ⟨k, apply_cons_eq_ok_iff.2 ⟨n, hn, hk⟩, hkr⟩

/-! ## Patches -/

variable {p q : Patch}

/-- An entry after a patch is part of the patch. -/
theorem tryPatch_add (hm : r.tryPatch p = .ok m) (he : assign p.clearUnset m e = .ok r') :
    r.tryPatch (p.add e.field e.value) = .ok r' := by
  obtain ⟨m', hm', he'⟩ := apply_filter_assign hm he
  show r.apply (p.entries.filter (fun e' => e'.field != e.field) ++ [e]) p.clearUnset = .ok r'
  rw [apply_append, hm']
  exact apply_cons_eq_ok_iff.2 ⟨r', he', rfl⟩

/-- A run of entries after a patch is part of the patch. -/
theorem tryPatch_addAll (hm : r.tryPatch p = .ok m)
    (hrest : m.apply entries p.clearUnset = .ok r') : r.tryPatch (p.addAll entries) = .ok r' := by
  induction entries generalizing p m with
  | nil =>
    cases hrest
    exact hm
  | cons e entries ih =>
    obtain ⟨n, hn, hrest⟩ := apply_cons_eq_ok_iff.1 hrest
    rw [Patch.addAll_cons]
    exact ih (tryPatch_add hm hn) hrest

/-- Two patches that treat fields without a value in the same way are one patch: the first one with
the entries of the second one added. Two patches that name no common field may change places. -/
theorem tryPatch_tryPatch (r : Record) (p q : Patch) :
    (p.clearUnset = q.clearUnset → ∀ m r', r.tryPatch p = .ok m → m.tryPatch q = .ok r' →
      r.tryPatch (p.addAll q.entries) = .ok r') ∧
    (p.Disjoint q → ∀ r', (∃ m, r.tryPatch p = .ok m ∧ m.tryPatch q = .ok r') ↔
      ∃ m, r.tryPatch q = .ok m ∧ m.tryPatch p = .ok r') := by
  constructor
  · intro hclear m r' hm hr'
    rw [tryPatch, ← hclear] at hr'
    exact tryPatch_addAll hm hr'
  · intro h r'
    constructor
    · rintro ⟨m, hm, hr'⟩
      exact apply_comm h hm hr'
    · rintro ⟨m, hm, hr'⟩
      exact apply_comm h.symm hm hr'

/-- Radii for capsules, whose lengths are taken away. -/
def thickening : Patch := (Patch.blank.set "radii" (.ofSingles [⟨1⟩, ⟨2⟩])).reset "lengths"

/-- Lengths for capsules, whose radii are taken away. -/
def stretching : Patch := (Patch.blank.reset "radii").set "lengths" (.ofSingles [⟨3⟩])

/-- Nothing but cleared translations. -/
def recentring : Patch := (Patch.blank.clearingUnset true).reset "translations"

theorem tryPatch_tryPatch_capsules :
    (∃ m r', thickening.clearUnset = stretching.clearUnset ∧
      capsules.tryPatch thickening = .ok m ∧ m.tryPatch stretching = .ok r' ∧
      capsules.tryPatch (thickening.addAll stretching.entries) = .ok r') ∧
    ∃ m m' r', stretching.Disjoint recentring ∧
      capsules.tryPatch stretching = .ok m ∧ m.tryPatch recentring = .ok r' ∧
      capsules.tryPatch recentring = .ok m' ∧ m'.tryPatch stretching = .ok r' := by
  constructor
  · obtain ⟨hcompose, -⟩ := tryPatch_tryPatch capsules thickening stretching
    exact ⟨_, _, rfl, rfl, rfl, hcompose rfl _ _ rfl rfl⟩
  · obtain ⟨-, hcomm⟩ := tryPatch_tryPatch capsules stretching recentring
    have hdisjoint : stretching.Disjoint recentring := by decide
    obtain ⟨m', hm', hr'⟩ := (hcomm hdisjoint _).1 ⟨_, rfl, rfl⟩
    exact ⟨_, m', _, hdisjoint, rfl, rfl, hm', hr'⟩

end Record

end Columnar
