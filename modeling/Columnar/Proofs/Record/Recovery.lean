import Columnar.Catalog.Records
import Mathlib.Data.List.Forall2

/-!
# Runs of calls that always succeed

Calls that construct or patch records where nothing may fail share one collection of diagnostics. A
call whose attempt succeeds gives what the attempt gives and adds nothing to the collection. A call
whose attempt fails gives the unset record and adds one diagnostic, which tells of the error. So a
run leaves one diagnostic for each call that failed, in the order of the calls.

## Main statements

- `Call`: the calls, with the attempt that each of them makes.
- `Call.Tells`, `Call.Answers`: a diagnostic of a failed call, and what a call gives and adds.
- `Call.exists_answers_of_perform`: one call.
- `Call.performAll_answers`: a run of calls.
-/

namespace Columnar

/-- So many diagnostics more. -/
def Journal.collectAll (j : Journal) (ds : List Diagnostic) : Journal :=
  { j with collected := j.collected ++ ds }

theorem Journal.collectAll_nil (j : Journal) : j.collectAll [] = j := by
  rw [collectAll, List.append_nil]

theorem Journal.collectAll_collectAll (j : Journal) (ds es : List Diagnostic) :
    (j.collectAll ds).collectAll es = j.collectAll (ds ++ es) := by
  simp only [collectAll, List.append_assoc]

/-- A call with all that it is given. The record that is patched may be any, also one that an
earlier call of the same run has given. -/
inductive Call where
  | construct (a : Archetype) (fields : List (String × Input))
  | fromFields (a : Archetype) (clearUnset : Bool) (fields : List (String × Input))
  | patch (r : Record) (p : Patch)
  | classIds (width height : UInt32) (ids : List UInt16)

namespace Call

def archetype : Call → Archetype
  | construct a _ => a
  | fromFields a _ _ => a
  | patch r _ => r.archetype
  | classIds _ _ _ => .segmentationImage

/-- The attempt of a call, which may fail. -/
def attempt : Call → Except Error Record
  | construct a fields => Record.tryConstruct a fields
  | fromFields a clearUnset fields => Record.tryFromFields a clearUnset fields
  | patch r p => r.tryPatch p
  | classIds width height ids =>
    (SegmentationImage.tryFromClassIds width height ids).map Typed.record

def perform (d : Diagnostics) : Call → Reporting Record
  | construct a fields => Record.construct a fields d
  | fromFields a clearUnset fields => Record.fromFields a clearUnset fields d
  | patch r p => r.patch p d
  | classIds width height ids =>
    Typed.record <$> SegmentationImage.fromClassIds width height ids d

/-- Calls one after the other, all with the same collection. How much of a rejected value is shown
may differ from call to call. -/
def performAll (calls : List (Call × Nat)) : Reporting (List Record) :=
  calls.mapM fun c => c.1.perform ⟨.collect, c.2⟩

def Tells (c : Call) (d : Diagnostic) : Prop :=
  ∃ e, c.attempt = .error e ∧ d.archetype = c.archetype.shortName ∧ d.field = e.fieldName? ∧
    d.message = e.message

/-- What a call gives, and the diagnostics that it adds. -/
inductive Answers (c : Call) : Record → List Diagnostic → Prop
  | success {r : Record} (h : c.attempt = .ok r) : Answers c r []
  | failure {d : Diagnostic} (h : c.Tells d) : Answers c (.unset c.archetype) [d]

def fails (c : Call) : Bool :=
  match c.attempt with
  | .ok _ => false
  | .error _ => true

/-! ## One call -/

theorem tells_diagnose {c : Call} {e : Error} (h : c.attempt = .error e) (d : Diagnostics)
    (value : Option Input) : c.Tells (d.diagnose c.archetype.shortName e value) :=
  ⟨e, h, rfl, rfl, rfl⟩

theorem exists_answers_of_recover (c : Call) (n : Nat) (entries : List Entry) :
    ∃ r ds, c.Answers r ds ∧ ∀ j,
      (Record.recover c.archetype entries ⟨.collect, n⟩ c.attempt).run j =
        (r, j.collectAll ds) := by
  cases h : c.attempt with
  | ok r =>
    refine ⟨r, [], .success h, ?_⟩
    intro j
    rw [j.collectAll_nil]
    rfl
  | error e =>
    -- The value that is shown with the error is no part of what the diagnostic has to tell.
    have htells := tells_diagnose h ⟨.collect, n⟩ (Record.valueAtFault entries e)
    exact ⟨_, _, .failure htells, fun j => rfl⟩

theorem exists_answers_of_fromClassIds (width height : UInt32) (ids : List UInt16) (n : Nat) :
    ∃ r ds, (classIds width height ids).Answers r ds ∧ ∀ j,
      ((classIds width height ids).perform ⟨.collect, n⟩).run j = (r, j.collectAll ds) := by
  cases h : SegmentationImage.tryFromClassIds width height ids with
  | ok image =>
    have hattempt : (classIds width height ids).attempt = .ok image.record := by
      rw [attempt, h]
      rfl
    refine ⟨image.record, [], .success hattempt, ?_⟩
    intro j
    rw [j.collectAll_nil, perform, SegmentationImage.fromClassIds, h]
    rfl
  | error e =>
    have hattempt : (classIds width height ids).attempt = .error e := by
      rw [attempt, h]
      rfl
    refine ⟨_, _, .failure (tells_diagnose hattempt ⟨.collect, n⟩ none), ?_⟩
    intro j
    rw [perform, SegmentationImage.fromClassIds, h]
    rfl

theorem exists_answers_of_perform (c : Call) (n : Nat) :
    ∃ r ds, c.Answers r ds ∧ ∀ j, (c.perform ⟨.collect, n⟩).run j = (r, j.collectAll ds) := by
  cases c with
  | construct a fields =>
    exact exists_answers_of_recover (construct a fields) n (Record.entriesOf fields)
  | fromFields a clearUnset fields =>
    exact exists_answers_of_recover (fromFields a clearUnset fields) n (Record.entriesOf fields)
  | patch r p => exact exists_answers_of_recover (patch r p) n p.entries
  | classIds width height ids => exact exists_answers_of_fromClassIds width height ids n

/-! ## Runs -/

/-- A call in a run with what it gives and adds, whatever was collected before. -/
structure Answered (c : Call × Nat) (p : Record × List Diagnostic) : Prop where
  answers : c.1.Answers p.1 p.2
  run : ∀ j, (c.1.perform ⟨.collect, c.2⟩).run j = (p.1, j.collectAll p.2)

theorem exists_answered (calls : List (Call × Nat)) :
    ∃ answers, List.Forall₂ Answered calls answers := by
  induction calls with
  | nil => exact ⟨[], .nil⟩
  | cons c calls ih =>
    obtain ⟨r, ds, hanswers, hrun⟩ := exists_answers_of_perform c.1 c.2
    obtain ⟨answers, hall⟩ := ih
    exact ⟨(r, ds) :: answers, .cons ⟨hanswers, hrun⟩ hall⟩

theorem run_performAll {calls : List (Call × Nat)} {answers : List (Record × List Diagnostic)}
    (h : List.Forall₂ Answered calls answers) (j : Journal) :
    (performAll calls).run j =
      (answers.map Prod.fst, j.collectAll (answers.flatMap Prod.snd)) := by
  -- The journal is general, as the rest of a run goes on with what the first call has left.
  induction h generalizing j with
  | nil =>
    rw [List.flatMap_nil, j.collectAll_nil]
    rfl
  | @cons c p calls answers hc _ ih =>
    rw [performAll, List.mapM_cons, StateT.run_bind, hc.run]
    show (performAll calls >>= fun rs => pure (p.1 :: rs)).run (j.collectAll p.2) = _
    rw [StateT.run_bind, ih]
    show _ = (p.1 :: answers.map Prod.fst, j.collectAll (p.2 ++ answers.flatMap Prod.snd))
    rw [← Journal.collectAll_collectAll]
    rfl

theorem fails_of_tells {c : Call} {d : Diagnostic} (h : c.Tells d) : c.fails = true := by
  obtain ⟨e, he, -⟩ := h
  rw [fails, he]

theorem tells_of_answered {calls : List (Call × Nat)} {answers : List (Record × List Diagnostic)}
    (h : List.Forall₂ Answered calls answers) :
    List.Forall₂ (fun c d => c.1.Tells d) (calls.filter fun c => c.1.fails)
      (answers.flatMap Prod.snd) := by
  induction h with
  | nil => exact .nil
  | @cons c p calls answers hc _ ih =>
    obtain ⟨r, ds⟩ := p
    obtain ⟨hanswers, -⟩ := hc
    cases hanswers with
    | success h =>
      have hfails : ¬ c.1.fails = true := by
        rw [fails, h]
        exact Bool.false_ne_true
      rw [List.filter_cons_of_neg (p := fun c : Call × Nat => c.1.fails) hfails]
      exact ih
    | failure h =>
      rw [List.filter_cons_of_pos (p := fun c : Call × Nat => c.1.fails) (fails_of_tells h)]
      exact .cons h ih

/-- Each call of a run gives what its attempt gives and adds nothing to the collection, or it gives
the unset record and adds one diagnostic of the error. So the run adds one diagnostic for each call
that failed, in the order of the calls, and nothing else. -/
theorem performAll_answers (calls : List (Call × Nat)) (j : Journal) :
    ∃ answers, List.Forall₂ Answered calls answers ∧
      (performAll calls).run j =
        (answers.map Prod.fst, j.collectAll (answers.flatMap Prod.snd)) ∧
      List.Forall₂ (fun c d => c.1.Tells d) (calls.filter fun c => c.1.fails)
        (answers.flatMap Prod.snd) := by
  obtain ⟨answers, hall⟩ := exists_answered calls
  exact ⟨answers, hall, run_performAll hall j, tells_of_answered hall⟩

end Call

end Columnar
