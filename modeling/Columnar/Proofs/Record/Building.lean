import Columnar.Proofs.Record.Patching
import Columnar.Proofs.Record.Rejection
import Mathlib.Data.List.Induction
import Mathlib.Data.List.Nodup

/-!
# Patches built step by step

Each step that names a field takes away what an earlier step said of it and adds what it says itself
at the end. So what is left is the last step for each field, in the order of these steps, and of the
steps that say what becomes of fields without a value the last one counts, wherever it stands. A
step that a later one overrides has no part in the patch: it might as well not have been taken, and
so it can neither be at fault nor decide a state.

## Main statements

- `Entry.lasting`, `Entry.last?`: the entries that no later one overrides, and that for a field.
- `Entry.lasting_append`, `Entry.mem_lasting_iff`: what they are.
- `Patch.Step`, `Patch.build`: the steps, and the patch that they build.
- `Patch.build_eq`: the entries and the flag of the patch.
- `Patch.build_append_of_overridden`: a step that is overridden may be left out.
- `Record.apply_perm`: entries for different fields may stand in any order.
- `Patch.build_keeps_last`: all that there is to a patch that is built.
-/

namespace Columnar

/-! ## Entries that last -/

namespace Entry

variable {e : Entry} {entries : List Entry} {name : String}

/-- The entries that no later one for the same field follows, in order. -/
def lasting : List Entry → List Entry
  | [] => []
  | e :: entries =>
    if e.field ∈ entries.map field then lasting entries else e :: lasting entries

/-- The last entry for a field. -/
def last? (entries : List Entry) (name : String) : Option Entry :=
  (entries.filter fun e => e.field == name).getLast?

theorem last?_cons_of_eq (h : e.field = name) :
    last? (e :: entries) name = some ((last? entries name).getD e) := by
  unfold last?
  rw [List.filter_cons_of_pos (by rw [h, beq_self_eq_true]), List.getLast?_cons]

theorem last?_cons_of_ne (h : e.field ≠ name) :
    last? (e :: entries) name = last? entries name := by
  unfold last?
  rw [List.filter_cons_of_neg (by rwa [beq_iff_eq])]

theorem last?_eq_none_iff : last? entries name = none ↔ name ∉ entries.map field := by
  unfold last?
  rw [List.getLast?_eq_none_iff, List.filter_eq_nil_iff, List.mem_map]
  simp only [beq_iff_eq, not_exists, not_and]

theorem field_of_last? (h : last? entries name = some e) : e.field = name :=
  eq_of_beq (List.mem_filter.1 (List.mem_of_getLast? h)).2

/-- The last entries for their fields are those that last. -/
theorem mem_lasting_iff : e ∈ lasting entries ↔ last? entries e.field = some e := by
  induction entries with
  | nil => simp [lasting, last?]
  | cons d entries ih =>
    by_cases hd : d.field ∈ entries.map field
    · rw [lasting, if_pos hd, ih]
      by_cases he : d.field = e.field
      · rw [last?_cons_of_eq he]
        rw [he] at hd
        cases hlast : last? entries e.field with
        | none => exact absurd hd (last?_eq_none_iff.1 hlast)
        | some e' => rfl
      · rw [last?_cons_of_ne he]
    · rw [lasting, if_neg hd, List.mem_cons, ih]
      by_cases he : d.field = e.field
      · rw [last?_cons_of_eq he]
        rw [he] at hd
        rw [last?_eq_none_iff.2 hd]
        simp only [reduceCtorEq, or_false, Option.getD_none, Option.some.injEq, eq_comm]
      · rw [last?_cons_of_ne he, or_iff_right]
        rintro rfl
        exact he rfl

/-- Of two runs of entries the second one stands behind, and it overrides the first one. -/
theorem lasting_append (before after : List Entry) :
    lasting (before ++ after) =
      (lasting before).filter (fun e => e.field ∉ after.map field) ++ lasting after := by
  induction before with
  | nil => rfl
  | cons e before ih =>
    rw [List.cons_append, lasting, lasting, List.map_append, ih]
    by_cases hbefore : e.field ∈ before.map field
    · rw [if_pos hbefore, if_pos (List.mem_append_left _ hbefore)]
    · rw [if_neg hbefore]
      by_cases hafter : e.field ∈ after.map field
      · rw [if_pos (List.mem_append_right _ hafter),
          List.filter_cons_of_neg (by simpa using hafter)]
      · have hnot : e.field ∉ before.map field ++ after.map field := by
          rw [List.mem_append]
          exact not_or.2 ⟨hbefore, hafter⟩
        rw [if_neg hnot, List.filter_cons_of_pos (by simpa using hafter), List.cons_append]

theorem lasting_concat (entries : List Entry) (e : Entry) :
    lasting (entries ++ [e]) = (lasting entries).filter (fun e' => e'.field != e.field) ++ [e] := by
  have hone : lasting [e] = [e] := if_neg List.not_mem_nil
  have hother : (fun e' : Entry => decide (e'.field ∉ [e].map field)) =
      fun e' => e'.field != e.field := by
    funext e'
    rw [List.map_singleton, Bool.eq_iff_iff, decide_eq_true_eq, List.mem_singleton, bne_iff_ne]
  rw [lasting_append, hone, hother]

/-- An entry that a later one overrides may be left out. -/
theorem lasting_append_cons {before after : List Entry} (h : e.field ∈ after.map field) :
    lasting (before ++ e :: after) = lasting (before ++ after) := by
  have hcons : lasting (e :: after) = lasting after := if_pos h
  rw [lasting_append, lasting_append, hcons]
  congr 1
  refine List.filter_congr fun e' _ => ?_
  rw [List.map_cons, decide_eq_decide, List.mem_cons, not_or, and_iff_right_iff_imp]
  intro hnot heq
  exact hnot (heq ▸ h)

end Entry

/-! ## Steps -/

namespace Patch

/-- A step in which a patch is built. -/
inductive Step where
  | add (field : String) (value : Option Input)
  | set (field : String) (value : Input)
  | reset (field : String)
  | clearingUnset (clearUnset : Bool)

namespace Step

def perform (p : Patch) : Step → Patch
  | .add field value => p.add field value
  | .set field value => p.set field value
  | .reset field => p.reset field
  | .clearingUnset clearUnset => p.clearingUnset clearUnset

/-- What a step says of a field. -/
def entry? : Step → Option Entry
  | .add field value => some ⟨field, value⟩
  | .set field value => some ⟨field, some value⟩
  | .reset field => some ⟨field, none⟩
  | .clearingUnset _ => none

/-- What a step says of fields without a value. -/
def flag? : Step → Option Bool
  | .clearingUnset clearUnset => some clearUnset
  | _ => none

/-- The field that a step names; one that names none is about all fields without a value. -/
def field? (s : Step) : Option String := s.entry?.map Entry.field

end Step

/-- The patch that is built by steps from the blank one. -/
def build (steps : List Step) : Patch := steps.foldl Step.perform blank

/-- What steps say of fields, one after the other. -/
def namings (steps : List Step) : List Entry := steps.filterMap Step.entry?

/-- The last that steps say of fields without a value. They become unset if nothing is said. -/
def lastFlag (steps : List Step) : Bool := ((steps.filterMap Step.flag?).getLast?).getD false

theorem build_concat (steps : List Step) (s : Step) :
    build (steps ++ [s]) = s.perform (build steps) := by
  rw [build, List.foldl_append]
  rfl

theorem built_build (steps : List Step) : (build steps).Built := by
  induction steps using List.reverseRecOn with
  | nil => exact .blank
  | append_singleton steps s ih =>
    rw [build_concat]
    cases s with
    | add field value => exact .add field value ih
    | set field value => exact .set field value ih
    | reset field => exact .reset field ih
    | clearingUnset clearUnset => exact .clearingUnset clearUnset ih

/-! ## What a step adds -/

variable {s : Step} {e : Entry} {steps : List Step}

theorem namings_concat_of_entry (h : s.entry? = some e) :
    namings (steps ++ [s]) = namings steps ++ [e] := by
  rw [namings, List.filterMap_append, List.filterMap_cons_some h]
  rfl

theorem perform_of_entry (h : s.entry? = some e) (p : Patch) :
    s.perform p = p.add e.field e.value := by
  cases s with
  | clearingUnset clearUnset => cases h
  | _ =>
    cases h
    rfl

theorem lastFlag_concat_of_entry (h : s.entry? = some e) :
    lastFlag (steps ++ [s]) = lastFlag steps := by
  have hflag : s.flag? = none := by
    cases s with
    | clearingUnset clearUnset => cases h
    | _ => rfl
  rw [lastFlag, List.filterMap_append, List.filterMap_cons_none hflag, List.filterMap_nil,
    List.append_nil]
  rfl

/-- One step leaves what has been said last, and then what it says itself. -/
theorem perform_lasting (steps : List Step) (s : Step) :
    s.perform ⟨Entry.lasting (namings steps), lastFlag steps⟩ =
      ⟨Entry.lasting (namings (steps ++ [s])), lastFlag (steps ++ [s])⟩ := by
  cases h : s.entry? with
  | some e =>
    rw [perform_of_entry h, namings_concat_of_entry h, lastFlag_concat_of_entry h,
      Entry.lasting_concat]
    rfl
  | none =>
    cases s with
    | clearingUnset clearUnset =>
      simp only [namings, lastFlag, List.filterMap_append, List.filterMap_cons, List.filterMap_nil,
        Step.entry?, Step.flag?, List.append_nil, List.getLast?_concat, Option.getD_some]
      rfl
    | _ => cases h

/-- A patch that is built has the last that is said of each field, in the order in which it is
said. -/
theorem build_eq (steps : List Step) :
    build steps = ⟨Entry.lasting (namings steps), lastFlag steps⟩ := by
  induction steps using List.reverseRecOn with
  | nil => rfl
  | append_singleton steps s ih => rw [build_concat, ih, perform_lasting]

/-! ## Steps that are overridden -/

theorem mem_field_namings_iff {name : String} :
    name ∈ (namings steps).map Entry.field ↔ ∃ s ∈ steps, s.field? = some name := by
  simp only [namings, List.mem_map, List.mem_filterMap, Step.field?, Option.map_eq_some_iff]
  constructor
  · rintro ⟨e, ⟨s, hs, he⟩, rfl⟩
    exact ⟨s, hs, e, he, rfl⟩
  · rintro ⟨s, hs, e, he, rfl⟩
    exact ⟨e, ⟨s, hs, he⟩, rfl⟩

theorem lasting_namings_of_overridden {before after : List Step}
    (h : ∃ s' ∈ after, s'.field? = s.field?) :
    Entry.lasting (namings (before ++ s :: after)) = Entry.lasting (namings (before ++ after)) := by
  cases hs : s.entry? with
  | none =>
    rw [namings, namings, List.filterMap_append, List.filterMap_append, List.filterMap_cons_none hs]
  | some e =>
    have hfield : s.field? = some e.field := by
      rw [Step.field?, hs]
      rfl
    have hafter : e.field ∈ (namings after).map Entry.field := by
      rw [hfield] at h
      exact mem_field_namings_iff.2 h
    rw [namings, namings, List.filterMap_append, List.filterMap_append, List.filterMap_cons_some hs]
    exact Entry.lasting_append_cons hafter

theorem lastFlag_of_overridden {before after : List Step}
    (h : ∃ s' ∈ after, s'.field? = s.field?) :
    lastFlag (before ++ s :: after) = lastFlag (before ++ after) := by
  obtain ⟨s', hs', hfield⟩ := h
  unfold lastFlag
  rw [List.filterMap_append, List.filterMap_append]
  cases hflag : s.flag? with
  | none => rw [List.filterMap_cons_none hflag]
  | some b =>
    -- A step that sets the flag names no field, so the later one sets it too.
    have hlater : after.filterMap Step.flag? ≠ [] := by
      cases s with
      | clearingUnset clearUnset =>
        cases s' with
        | clearingUnset clearUnset' =>
          exact List.ne_nil_of_mem (List.mem_filterMap.2 ⟨_, hs', rfl⟩)
        | _ => cases hfield
      | _ => cases hflag
    obtain ⟨b', hb'⟩ := Option.isSome_iff_exists.1 (List.getLast?_isSome.2 hlater)
    rw [List.filterMap_cons_some hflag, List.getLast?_append, List.getLast?_append,
      List.getLast?_cons, hb']
    rfl

/-- A step that a later one overrides may be left out. -/
theorem build_append_of_overridden {before after : List Step}
    (h : ∃ s' ∈ after, s'.field? = s.field?) :
    build (before ++ s :: after) = build (before ++ after) := by
  rw [build_eq, build_eq, lasting_namings_of_overridden h, lastFlag_of_overridden h]

end Patch

/-! ## Runs of entries that last -/

theorem Archetype.lastEntry?_lasting {a : Archetype} (entries : List Entry)
    (i : Fin a.fields.length) :
    a.lastEntry? (Entry.lasting entries) i = a.lastEntry? entries i := by
  induction entries with
  | nil => rfl
  | cons e entries ih =>
    by_cases hlater : e.field ∈ entries.map Entry.field
    · rw [Entry.lasting, if_pos hlater, ih]
      by_cases hi : a.fieldIndex? e.field = some i
      · obtain ⟨e', he', hfield⟩ := List.mem_map.1 hlater
        rw [lastEntry?_cons_of_eq hi]
        cases hlast : a.lastEntry? entries i with
        | none => exact absurd (hfield ▸ hi) (lastEntry?_eq_none_iff.1 hlast e' he')
        | some e'' => rfl
      · rw [lastEntry?_cons_of_ne hi]
    · rw [Entry.lasting, if_neg hlater]
      by_cases hi : a.fieldIndex? e.field = some i
      · rw [lastEntry?_cons_of_eq hi, lastEntry?_cons_of_eq hi, ih]
      · rw [lastEntry?_cons_of_ne hi, lastEntry?_cons_of_ne hi, ih]

theorem Archetype.leaves_lasting_iff {a : Archetype} {clearUnset : Bool} {entries : List Entry}
    {i : Fin a.fields.length} {prior s : FieldState} :
    a.Leaves clearUnset (Entry.lasting entries) i prior s ↔
      a.Leaves clearUnset entries i prior s := by
  have hlast := lastEntry?_lasting entries i
  constructor
  · intro h
    cases h with
    | decided h hs => exact .decided (hlast ▸ h) hs
    | kept h => exact .kept (hlast ▸ h)
  · intro h
    cases h with
    | decided h hs => exact .decided (hlast.trans h) hs
    | kept h => exact .kept (hlast.trans h)

namespace Record

variable {r r' : Record} {clearUnset : Bool} {entries entries' : List Entry}

/-- Entries for different fields may stand in any order. -/
theorem apply_perm (h : entries.Perm entries') (names : (entries.map Entry.field).Nodup)
    (hr : r.apply entries clearUnset = .ok r') : r.apply entries' clearUnset = .ok r' := by
  induction h generalizing r with
  | nil => exact hr
  | cons e _ ih =>
    obtain ⟨m, hm, hrest⟩ := apply_cons_eq_ok_iff.1 hr
    exact apply_cons_eq_ok_iff.2 ⟨m, hm, ih (List.nodup_cons.1 names).2 hrest⟩
  | swap e e' entries =>
    have hne : e'.field ≠ e.field := by
      intro heq
      refine (List.nodup_cons.1 names).1 ?_
      rw [heq]
      exact List.mem_cons_self
    obtain ⟨m, hm, hrest⟩ := apply_cons_eq_ok_iff.1 hr
    obtain ⟨n, hn, hrest⟩ := apply_cons_eq_ok_iff.1 hrest
    obtain ⟨k, hk, hkn⟩ := assign_comm hne hm hn
    exact apply_cons_eq_ok_iff.2 ⟨k, hk, apply_cons_eq_ok_iff.2 ⟨n, hkn, hrest⟩⟩
  | trans h _ ih ih' => exact ih' ((h.map Entry.field).nodup_iff.1 names) (ih names hr)

/-- What comes of steps: the last one for each field is all that can be at fault, and it decides the
state of the field. -/
structure AnswersLast (r : Record) (steps : List Patch.Step) (answer : Except Error Record) :
    Prop where
  succeeds_iff : (∃ r', answer = .ok r') ↔
    ∀ name e, Entry.last? (Patch.namings steps) name = some e → r.archetype.Takes e
  states : ∀ r', answer = .ok r' →
    r'.archetype = r.archetype ∧ r'.states.length = r.states.length ∧
    ∀ (i : Fin r.archetype.fields.length) prior, r.states[i.val]? = some prior →
      ∃ s, r'.states[i.val]? = some s ∧
        r.archetype.Leaves (Patch.lastFlag steps) (Patch.namings steps) i prior s
  fails_iff : ∀ err, answer = .error err ↔ ∃ before e after,
    Entry.lasting (Patch.namings steps) = before ++ e :: after ∧
      (∀ e' ∈ before, r.archetype.Takes e') ∧ r.archetype.Refuses e err

theorem answersLast_tryPatch (r : Record) (steps : List Patch.Step) :
    r.AnswersLast steps (r.tryPatch (Patch.build steps)) := by
  have happly : r.tryPatch (Patch.build steps) =
      r.apply (Entry.lasting (Patch.namings steps)) (Patch.lastFlag steps) := by
    rw [Patch.build_eq]
    rfl
  rw [happly]
  refine ⟨?_, ?_, ?_⟩
  · rw [exists_apply_iff]
    constructor
    · intro h name e hlast
      have hfield := Entry.field_of_last? hlast
      exact h e (Entry.mem_lasting_iff.2 (hfield ▸ hlast))
    · intro h e he
      exact h e.field e (Entry.mem_lasting_iff.1 he)
  · intro r' h
    refine ⟨archetype_of_apply h, length_states_of_apply h, ?_⟩
    intro i prior hprior
    obtain ⟨s, hs, hleaves⟩ := exists_state_of_apply h i hprior
    exact ⟨s, hs, Archetype.leaves_lasting_iff.1 hleaves⟩
  · intro err
    constructor
    · exact exists_of_apply_error
    · rintro ⟨before, e, after, hsplit, hbefore, hrefuses⟩
      rw [hsplit]
      exact apply_eq_error hbefore hrefuses

/-- The same last steps give the same record, in whatever order they are taken. -/
theorem tryPatch_build_of_last {steps steps' : List Patch.Step}
    (hlast : ∀ name, Entry.last? (Patch.namings steps) name =
      Entry.last? (Patch.namings steps') name)
    (hflag : Patch.lastFlag steps = Patch.lastFlag steps')
    (h : r.tryPatch (Patch.build steps) = .ok r') : r.tryPatch (Patch.build steps') = .ok r' := by
  have names := (Patch.built_build steps).nodup
  have names' := (Patch.built_build steps').nodup
  rw [Patch.build_eq] at names names' h
  have hperm : (Entry.lasting (Patch.namings steps)).Perm
      (Entry.lasting (Patch.namings steps')) := by
    have nodup := List.Nodup.of_map Entry.field names
    have nodup' := List.Nodup.of_map Entry.field names'
    refine (List.perm_ext_iff_of_nodup nodup nodup').2 fun e => ?_
    rw [Entry.mem_lasting_iff, Entry.mem_lasting_iff, hlast]
  rw [Patch.build_eq]
  show r.apply _ (Patch.lastFlag steps') = _
  rw [← hflag]
  exact apply_perm hperm names h

end Record

namespace Patch

/-- A patch that is built has one entry for each field that is named, which is what was said of it
last, in the order of these last steps, and what was said last of fields without a value, if
anything. A step that a later one overrides may be left out, so only the last ones can be at fault
or decide a state, and where the record exists it does not depend on their order. -/
theorem build_keeps_last (steps : List Step) :
    ((build steps).entries.map Entry.field).Nodup ∧
    (∀ e, e ∈ (build steps).entries ↔ Entry.last? (namings steps) e.field = some e) ∧
    (build steps).entries = Entry.lasting (namings steps) ∧
    (build steps).clearUnset = ((steps.filterMap Step.flag?).getLast?).getD false ∧
    (∀ before s after, steps = before ++ s :: after → (∃ s' ∈ after, s'.field? = s.field?) →
      build steps = build (before ++ after)) ∧
    (∀ r : Record, r.AnswersLast steps (r.tryPatch (build steps))) ∧
    ∀ steps', (∀ name, Entry.last? (namings steps) name = Entry.last? (namings steps') name) →
      lastFlag steps = lastFlag steps' → ∀ r r' : Record,
        r.tryPatch (build steps) = .ok r' ↔ r.tryPatch (build steps') = .ok r' := by
  have hbuild := build_eq steps
  refine ⟨(built_build steps).nodup, ?_, congrArg entries hbuild, congrArg clearUnset hbuild, ?_,
    fun r => r.answersLast_tryPatch steps, ?_⟩
  · intro e
    rw [hbuild]
    exact Entry.mem_lasting_iff
  · rintro before s after rfl h
    exact build_append_of_overridden h
  · intro steps' hlast hflag r r'
    constructor
    · exact Record.tryPatch_build_of_last hlast hflag
    · exact Record.tryPatch_build_of_last (fun name => (hlast name).symm) hflag.symm

/-- Radii that are a text at first, and lengths that are given and then taken away. -/
def wavering : List Step :=
  [.set "radii" (.json (.string "wide")), .clearingUnset false,
    .set "lengths" (.ofSingles [⟨3⟩]), .clearingUnset true, .set "radii" (.ofSingles [⟨1⟩, ⟨2⟩]),
    .reset "lengths"]

/-- The text is not at fault, since radii are given after it. The lengths are cleared, although the
step that says so came before the lengths were taken away. -/
theorem build_keeps_last_wavering :
    (build wavering).entries.map Entry.field = ["radii", "lengths"] ∧
      build wavering = build wavering.tail ∧
      ∃ r, Record.capsules.tryPatch (build wavering) = .ok r ∧
        r.state? "lengths" = some (.cleared ⟨.forField "arche.archetypes.Capsules3D" "lengths"
          "arche.components.Length", .singles []⟩) := by
  obtain ⟨-, -, hentries, -, hoverridden, -, -⟩ := build_keeps_last wavering
  have hlater : Step.set "radii" (.ofSingles [⟨1⟩, ⟨2⟩]) ∈ wavering.tail := by
    simp only [wavering, List.tail_cons, List.mem_cons, true_or, or_true]
  refine ⟨?_, hoverridden [] _ wavering.tail rfl ⟨_, hlater, rfl⟩, _, rfl, rfl⟩
  rw [hentries]
  rfl

end Patch

end Columnar
