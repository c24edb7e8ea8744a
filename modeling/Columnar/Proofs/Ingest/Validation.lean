import Columnar.Ingest.Chunk
import Columnar.Proofs.Traversal
import Mathlib.Data.List.Nodup

/-!
# Chunks that are made

Indexes are looked at one after the other, each beside the ones that stand before it: its timeline
must be a new one, and it must have a value for each row. So a chunk is made if the timelines differ
from each other and all indexes have the right length, and otherwise the first index at fault is to
blame. Of one that is at fault in both ways it is the timeline that is told.

## Main statements

- `Index.Placed`: indexes of which none is at fault.
- `Index.Misplaced`: what is wrong with an index behind others.
- `Chunk.checkIndex_eq_ok_iff`, `Chunk.checkIndex_eq_error_iff`: one index.
- `Chunk.checkIndexes_eq_ok_iff`, `Chunk.checkIndexes_eq_error_iff`: all of them.
- `Chunk.Refused`: why no chunk is made.
- `Chunk.make_validates`: which chunks are made.
-/

namespace Columnar

/-! ## Indexes beside each other -/

namespace Index

/-- Indexes on different timelines, with so many values each. -/
structure Placed (rows : Nat) (indexes : List Index) : Prop where
  timelines : (indexes.map Index.timeline).Nodup
  lengths : ∀ i ∈ indexes, i.length = rows

/-- What is wrong with an index behind others. -/
inductive Misplaced (rows : Nat) (before : List Index) (i : Index) : Error → Prop
  | repeated (h : i.timeline ∈ before.map Index.timeline) :
      Misplaced rows before i
        (.invalidArgument "indexes" ("duplicate timeline '" ++ i.timeline ++ "'"))
  | length (h : i.timeline ∉ before.map Index.timeline) (hlength : i.length ≠ rows) :
      Misplaced rows before i (.lengthMismatch ("index '" ++ i.timeline ++ "'") rows i.length)

variable {rows : Nat} {before after indexes : List Index} {i : Index}

theorem placed_nil (rows : Nat) : Placed rows [] :=
  ⟨List.nodup_nil, fun _ hi => absurd hi List.not_mem_nil⟩

theorem placed_concat_iff :
    Placed rows (before ++ [i]) ↔
      Placed rows before ∧ i.timeline ∉ before.map Index.timeline ∧ i.length = rows := by
  constructor
  · rintro ⟨htimelines, hlengths⟩
    rw [List.map_append, List.map_singleton, List.nodup_append_comm, List.singleton_append,
      List.nodup_cons] at htimelines
    rw [List.forall_mem_append, List.forall_mem_singleton] at hlengths
    exact ⟨⟨htimelines.2, hlengths.1⟩, htimelines.1, hlengths.2⟩
  · rintro ⟨⟨htimelines, hlengths⟩, hnew, hlength⟩
    constructor
    · rw [List.map_append, List.map_singleton, List.nodup_append_comm, List.singleton_append,
        List.nodup_cons]
      exact ⟨hnew, htimelines⟩
    · rw [List.forall_mem_append, List.forall_mem_singleton]
      exact ⟨hlengths, hlength⟩

theorem placed_singleton_iff : Placed rows [i] ↔ i.length = rows := by
  rw [← List.nil_append [i], placed_concat_iff, and_iff_right (placed_nil rows), List.map_nil,
    and_iff_right List.not_mem_nil]

theorem Placed.of_append (h : Placed rows (before ++ after)) : Placed rows before := by
  have htimelines := h.timelines
  rw [List.map_append] at htimelines
  exact ⟨List.Nodup.of_append_left htimelines, fun i hi => h.lengths i (List.mem_append_left _ hi)⟩

end Index

namespace Chunk

variable {rows : Nat} {before indexes : List Index} {i : Index} {e : Error} {path : String}
  {columns : ColumnList} {c : Chunk}

/-! ## One index -/

theorem any_timeline_iff :
    (before.any fun other => other.timeline == i.timeline) = true ↔
      i.timeline ∈ before.map Index.timeline := by
  simp only [List.any_eq_true, List.mem_map, beq_iff_eq]

theorem checkIndex_eq_ok_iff {u : Unit} :
    checkIndex rows before i = .ok u ↔
      i.timeline ∉ before.map Index.timeline ∧ i.length = rows := by
  unfold checkIndex
  rw [← any_timeline_iff]
  split
  · next h => simp only [h, reduceCtorEq, not_true_eq_false, false_and]
  · next h =>
    split
    · next hlength => simp only [hlength, reduceCtorEq, and_false]
    · next hlength => exact ⟨fun _ => ⟨h, not_not.1 hlength⟩, fun _ => rfl⟩

theorem checkIndex_eq_error_iff :
    checkIndex rows before i = .error e ↔ i.Misplaced rows before e := by
  unfold checkIndex
  constructor
  · intro h
    split at h
    · next hrepeated =>
      cases h
      exact .repeated (any_timeline_iff.1 hrepeated)
    · next hnew =>
      rw [any_timeline_iff] at hnew
      split at h
      · next hlength =>
        cases h
        exact .length hnew hlength
      · cases h
  · intro h
    cases h with
    | repeated h => rw [if_pos (any_timeline_iff.2 h)]
    | length h hlength => rw [if_neg (mt any_timeline_iff.1 h), if_pos hlength]

/-! ## All indexes -/

theorem checkIndexes_cons :
    checkIndexes rows before (i :: indexes) =
      (checkIndex rows before i >>= fun _ => checkIndexes rows (before ++ [i]) indexes) := rfl

/-- What has been looked at stays placed, and with all that follows it is placed at the end. -/
theorem checkIndexes_eq_ok_iff {u : Unit} (h : Index.Placed rows before) :
    checkIndexes rows before indexes = .ok u ↔ Index.Placed rows (before ++ indexes) := by
  induction indexes generalizing before with
  | nil =>
    rw [List.append_nil]
    exact ⟨fun _ => h, fun _ => rfl⟩
  | cons i indexes ih =>
    have hsplit : before ++ i :: indexes = before ++ [i] ++ indexes := by
      rw [List.append_assoc, List.singleton_append]
    rw [checkIndexes_cons, bind_eq_ok_iff, hsplit]
    constructor
    · rintro ⟨u', hi, hrest⟩
      exact (ih (Index.placed_concat_iff.2 ⟨h, checkIndex_eq_ok_iff.1 hi⟩)).1 hrest
    · intro hall
      have hplaced := hall.of_append
      exact ⟨(), checkIndex_eq_ok_iff.2 (Index.placed_concat_iff.1 hplaced).2, (ih hplaced).2 hall⟩

theorem checkIndexes_append {after : List Index} :
    checkIndexes rows before (indexes ++ after) =
      (checkIndexes rows before indexes >>= fun _ =>
        checkIndexes rows (before ++ indexes) after) := by
  induction indexes generalizing before with
  | nil =>
    rw [List.append_nil]
    rfl
  | cons i indexes ih =>
    rw [List.cons_append, checkIndexes_cons, checkIndexes_cons, bind_assoc]
    congr 1
    funext u
    rw [ih, List.append_assoc, List.singleton_append]

/-- The first index at fault decides, and it stands behind indexes that are placed. -/
theorem checkIndexes_eq_error_iff (h : Index.Placed rows before) :
    checkIndexes rows before indexes = .error e ↔ ∃ good i after,
      indexes = good ++ i :: after ∧ Index.Placed rows (before ++ good) ∧
        i.Misplaced rows (before ++ good) e := by
  constructor
  · intro herror
    induction indexes generalizing before with
    | nil => cases herror
    | cons i indexes ih =>
      rw [checkIndexes_cons] at herror
      cases hi : checkIndex rows before i with
      | error e' =>
        rw [hi] at herror
        cases herror
        refine ⟨[], i, indexes, rfl, ?_, ?_⟩
        · rwa [List.append_nil]
        · rw [List.append_nil]
          exact checkIndex_eq_error_iff.1 hi
      | ok u =>
        rw [hi] at herror
        have hplaced := Index.placed_concat_iff.2 ⟨h, checkIndex_eq_ok_iff.1 hi⟩
        obtain ⟨good, j, after, rfl, hgood, hj⟩ := ih hplaced herror
        rw [List.append_assoc, List.singleton_append] at hgood hj
        exact ⟨i :: good, j, after, rfl, hgood, hj⟩
  · rintro ⟨good, i, after, rfl, hgood, hi⟩
    have hok : checkIndexes rows before good = .ok () := (checkIndexes_eq_ok_iff h).2 hgood
    rw [checkIndexes_append, hok]
    show (checkIndex rows (before ++ good) i >>= _) = _
    rw [checkIndex_eq_error_iff.2 hi]
    rfl

/-! ## Making -/

theorem verifyPath_eq_ok_iff {u : Unit} :
    Error.verifyArgument (!path.isEmpty) "entity_path" "!entity_path.is_empty()" = .ok u ↔
      path ≠ "" := by
  unfold Error.verifyArgument
  rw [ne_eq, ← String.isEmpty_iff]
  cases path.isEmpty <;> simp

theorem make_eq_ok_iff :
    make path indexes columns = .ok c ↔
      (path ≠ "" ∧ Index.Placed columns.numRows indexes) ∧ c = ⟨path, indexes, columns⟩ := by
  have hnone := Index.placed_nil columns.numRows
  constructor
  · intro h
    obtain ⟨u, hpath, h⟩ := bind_eq_ok_iff.1 h
    obtain ⟨u', hindexes, h⟩ := bind_eq_ok_iff.1 h
    exact ⟨⟨verifyPath_eq_ok_iff.1 hpath, (checkIndexes_eq_ok_iff hnone).1 hindexes⟩,
      (Except.ok.inj h).symm⟩
  · rintro ⟨⟨hpath, hindexes⟩, rfl⟩
    refine bind_eq_ok_iff.2 ⟨(), verifyPath_eq_ok_iff.2 hpath, ?_⟩
    exact bind_eq_ok_iff.2 ⟨(), (checkIndexes_eq_ok_iff hnone).2 hindexes, rfl⟩

/-- Why no chunk is made: there is no entity path, or else the first index at fault. -/
inductive Refused (path : String) (indexes : List Index) (rows : Nat) : Error → Prop
  | noPath (h : path = "") :
      Refused path indexes rows (.invalidArgument "entity_path" "!entity_path.is_empty()")
  | index {before after : List Index} {i : Index} {e : Error} (hpath : path ≠ "")
      (h : indexes = before ++ i :: after) (hbefore : Index.Placed rows before)
      (hi : i.Misplaced rows before e) : Refused path indexes rows e

theorem make_eq_error_iff :
    make path indexes columns = .error e ↔ Refused path indexes columns.numRows e := by
  have hnone := Index.placed_nil columns.numRows
  by_cases hpath : path = ""
  · subst hpath
    constructor
    · intro h
      cases h
      exact .noPath rfl
    · intro h
      cases h with
      | noPath _ => rfl
      | index hpath _ _ _ => exact absurd rfl hpath
  · have hmake : make path indexes columns =
        (checkIndexes columns.numRows [] indexes >>= fun _ => .ok ⟨path, indexes, columns⟩) := by
      have hverify : Error.verifyArgument (!path.isEmpty) "entity_path" "!entity_path.is_empty()" =
          .ok () := verifyPath_eq_ok_iff.2 hpath
      rw [make, hverify]
      rfl
    have herror : make path indexes columns = .error e ↔
        checkIndexes columns.numRows [] indexes = .error e := by
      rw [hmake]
      cases checkIndexes columns.numRows [] indexes <;> simp [bind, Except.bind]
    rw [herror, checkIndexes_eq_error_iff hnone]
    constructor
    · rintro ⟨before, i, after, h, hbefore, hi⟩
      exact .index hpath h hbefore hi
    · intro h
      cases h with
      | noPath h => exact absurd h hpath
      | index _ h hbefore hi => exact ⟨_, _, _, h, hbefore, hi⟩

/-- A chunk is made if there is an entity path, the timelines of the indexes differ from each other
and every index has a value for each row of the columns. It has the path, the indexes and the
columns as they are. Otherwise the path is refused, or else the first index whose timeline is that
of an earlier one, whatever its length, or whose length is wrong. -/
theorem make_validates (path : String) (indexes : List Index) (columns : ColumnList) :
    ((∃ c, make path indexes columns = .ok c) ↔ path ≠ "" ∧
      (indexes.map Index.timeline).Nodup ∧ ∀ i ∈ indexes, i.length = columns.numRows) ∧
    (∀ c, make path indexes columns = .ok c →
      c.entityPath = path ∧ c.indexes = indexes ∧ c.columns = columns) ∧
    ∀ e, make path indexes columns = .error e ↔ Refused path indexes columns.numRows e := by
  refine ⟨?_, ?_, fun e => make_eq_error_iff⟩
  · simp only [make_eq_ok_iff, exists_and_left, exists_eq, and_true]
    constructor
    · rintro ⟨hpath, hindexes⟩
      exact ⟨hpath, hindexes.timelines, hindexes.lengths⟩
    · rintro ⟨hpath, htimelines, hlengths⟩
      exact ⟨hpath, htimelines, hlengths⟩
  · intro c h
    obtain ⟨-, rfl⟩ := make_eq_ok_iff.1 h
    exact ⟨rfl, rfl, rfl⟩

-- The second index is at fault in both ways.
example : make "data" [.sequence "step" [], .sequence "step" [some 7]] ⟨[]⟩ =
    .error (.invalidArgument "indexes" "duplicate timeline 'step'") := rfl

end Chunk

end Columnar
