import Columnar.Column.Basic

/-!
# Splitting keeps the values

The rows of a column are slices of what it stores, from one offset to the next. Put one after the
other they are the values of the column, whatever the offsets. A batch that is split by lengths
gets the running sums of the lengths as offsets, so its rows are its own values, cut where the
earlier lengths add up to.

## Main statements

- `Column.flatMap_cells_rows`: the rows of any column make up its values.
- `Column.checkedTotal_eq`: the checked sum of lengths is their sum, if it has sixty-four bits.
- `Batch.partition_conserves`: when a batch can be split, what the column is and which error is
  raised otherwise.
-/

namespace Columnar

/-! ## Sums of leading lengths -/

theorem total_take_le (ns : List Nat) (i : Nat) : total (ns.take i) ≤ total ns := by
  have h := total_append (ns.take i) (ns.drop i)
  rw [List.take_append_drop] at h
  omega

theorem total_take_add_one {ns : List Nat} {i n : Nat} (h : ns[i]? = some n) :
    total (ns.take (i + 1)) = total (ns.take i) + n := by
  rw [List.take_add_one, h, total_append]
  rfl

/-! ## Places -/

namespace Offsets

theorem length_places (o : Offsets) : o.places.length = o.numRows + 1 := rfl

theorem getElem?_places_zero (o : Offsets) : o.places[0]? = some o.start := rfl

theorem getElem?_places_numRows (o : Offsets) : o.places[o.numRows]? = some o.finish := by
  have h : o.places.getLast? = some (o.ends.getLastD o.start) := by
    rw [places, List.getLast?_cons, List.getLastD_eq_getLast?]
  rw [List.getLast?_eq_getElem?] at h
  exact h

theorem places_mono {o : Offsets} {i j p q : Nat} (hij : i ≤ j) (hp : o.places[i]? = some p)
    (hq : o.places[j]? = some q) : p ≤ q := by
  obtain ⟨hi, rfl⟩ := List.getElem?_eq_some_iff.1 hp
  obtain ⟨hj, rfl⟩ := List.getElem?_eq_some_iff.1 hq
  by_cases h : i = j
  · subst h
    exact Nat.le_refl _
  · exact List.pairwise_iff_getElem.1 o.ascending i j hi hj (by omega)

theorem getElem?_cons_runningSums {start i : Nat} {ns : List Nat} (h : i ≤ ns.length) :
    (start :: runningSums start ns)[i]? = some (start + total (ns.take i)) := by
  induction ns generalizing start i with
  | nil =>
    have hi : i = 0 := Nat.le_zero.1 h
    subst hi
    rfl
  | cons n ns ih =>
    cases i with
    | zero => rfl
    | succ i =>
      rw [List.getElem?_cons_succ, runningSums, ih (Nat.le_of_succ_le_succ h), List.take_succ_cons,
        total, Nat.add_assoc]

/-- The place before a row is what the lengths of the rows before it add up to. -/
theorem getElem?_places_ofLengths {ns : List Nat} {i : Nat} (h : i ≤ ns.length) :
    (ofLengths ns).places[i]? = some (total (ns.take i)) := by
  have hs : (0 :: runningSums 0 ns)[i]? = some (0 + total (ns.take i)) :=
    getElem?_cons_runningSums h
  rw [Nat.zero_add] at hs
  exact hs

theorem le_total_of_mem_places {ns : List Nat} {p : Nat} (h : p ∈ (ofLengths ns).places) :
    p ≤ total ns := by
  obtain ⟨i, hi⟩ := List.mem_iff_getElem?.1 h
  obtain ⟨hlt, -⟩ := List.getElem?_eq_some_iff.1 hi
  rw [length_places, numRows_ofLengths] at hlt
  rw [getElem?_places_ofLengths (Nat.le_of_lt_succ hlt), Option.some_inj] at hi
  rw [← hi]
  exact total_take_le ns i

end Offsets

/-! ## Slices -/

namespace Series

@[simp] theorem length_slice (s : Series) (start count : Nat) :
    (s.slice start count).length = min count (s.length - start) := by
  rw [← length_cells, cells_slice, List.length_take, List.length_drop, length_cells]

/-- All elements from the first one on are the series itself. -/
theorem slice_zero_length (s : Series) : s.slice 0 s.length = s := by
  obtain ⟨type, elements, fit⟩ := s
  cases elements with
  | nulls n => simp [slice, length]
  | cells list => simp [slice, length]

/-- Two slices that follow one another are one slice. -/
theorem cells_slice_append (s : Series) {a b c : Nat} (hab : a ≤ b) (hbc : b ≤ c) :
    (s.slice a (b - a)).cells ++ (s.slice b (c - b)).cells = (s.slice a (c - a)).cells := by
  have hc : c - a = (b - a) + (c - b) := by omega
  have hb : a + (b - a) = b := by omega
  rw [cells_slice, cells_slice, cells_slice, hc, List.take_add, List.drop_drop, hb]

end Series

/-! ## Rows of any column -/

namespace Column

theorem row?_eq_some_iff {c : Column} {i : Nat} {s : Series} :
    c.row? i = some s ↔ ∃ first next, c.offsets[i]? = some first ∧
      c.offsets[i + 1]? = some next ∧ s = c.stored.slice first (next - first) := by
  unfold row?
  constructor
  · intro h
    split at h
    next first next hf hn => exact ⟨first, next, hf, hn, (Option.some_inj.1 h).symm⟩
    next => exact absurd h (Option.some_ne_none s).symm
  · rintro ⟨first, next, hf, hn, rfl⟩
    rw [hf, hn]

theorem row?_eq_none {c : Column} {i : Nat} (h : c.numRows ≤ i) : c.row? i = none := by
  rw [Option.eq_none_iff_forall_ne_some]
  intro s hs
  obtain ⟨_, _, _, hn, _⟩ := row?_eq_some_iff.1 hs
  obtain ⟨hlt, _⟩ := List.getElem?_eq_some_iff.1 hn
  have hl : c.offsets.length = c.numRows + 1 := rfl
  omega

/-- The rows that come first hold what is stored up to the place where the next one begins. -/
theorem flatMap_cells_range (c : Column) {k p : Nat} (hp : c.offsets[k]? = some p) :
    ((List.range k).filterMap c.row?).flatMap Series.cells =
      (c.stored.slice c.bounds.start (p - c.bounds.start)).cells := by
  induction k generalizing p with
  | zero =>
    have h0 : some c.bounds.start = some p := hp
    rw [Option.some_inj.1 h0, Nat.sub_self, Series.cells_slice, List.take_zero]
    rfl
  | succ k ih =>
    obtain ⟨hlt, -⟩ := List.getElem?_eq_some_iff.1 hp
    have hq : c.offsets[k]? = some c.offsets[k] :=
      List.getElem?_eq_getElem (Nat.lt_of_succ_lt hlt)
    have hrow : c.row? k = some (c.stored.slice c.offsets[k] (p - c.offsets[k])) :=
      row?_eq_some_iff.2 ⟨_, _, hq, hp, rfl⟩
    have hstart : c.bounds.start ≤ c.offsets[k] :=
      Offsets.places_mono (Nat.zero_le k) c.bounds.getElem?_places_zero hq
    have hstep : c.offsets[k] ≤ p := Offsets.places_mono (Nat.le_succ k) hq hp
    rw [List.range_succ, List.filterMap_append, List.flatMap_append, ih hq]
    rw [List.filterMap_cons_some hrow, List.filterMap_nil, List.flatMap_singleton]
    exact c.stored.cells_slice_append hstart hstep

/-- The rows one after the other are the values. -/
theorem flatMap_cells_rows (c : Column) : c.rows.flatMap Series.cells = c.values.cells :=
  c.flatMap_cells_range c.bounds.getElem?_places_numRows

theorem type_of_mem_rows {c : Column} {s : Series} (h : s ∈ c.rows) : s.type = c.valueType := by
  obtain ⟨i, _, hi⟩ := List.mem_filterMap.1 h
  obtain ⟨_, _, _, _, rfl⟩ := row?_eq_some_iff.1 hi
  rfl

end Column

/-! ## Checked sums -/

namespace Column

theorem foldlM_addUnsigned? (ns : List Nat) {acc : Nat} (h : acc ≤ Text.maxUnsigned) :
    ns.foldlM addUnsigned? acc =
      if acc + total ns ≤ Text.maxUnsigned then some (acc + total ns) else none := by
  induction ns generalizing acc with
  | nil => rw [List.foldlM_nil, total, Nat.add_zero, if_pos h]; rfl
  | cons n ns ih =>
    rw [List.foldlM_cons, addUnsigned?]
    by_cases hn : acc + n ≤ Text.maxUnsigned
    · rw [if_pos hn, Option.bind_eq_bind, Option.bind_some, ih hn, total, Nat.add_assoc]
    · have hsum : ¬ acc + total (n :: ns) ≤ Text.maxUnsigned := by
        rw [total]
        omega
      rw [if_neg hn, if_neg hsum]
      rfl

/-- Sums on the way only grow, so it is the whole sum that decides. -/
theorem checkedTotal_eq (lengths : List Nat) :
    checkedTotal lengths =
      if total lengths ≤ Text.maxUnsigned then .ok (total lengths)
      else .error (.invalidArgument "lengths" "partition lengths overflow usize") := by
  rw [checkedTotal, foldlM_addUnsigned? lengths (Nat.zero_le _), Nat.zero_add]
  by_cases h : total lengths ≤ Text.maxUnsigned
  · rw [if_pos h, if_pos h]
  · rw [if_neg h, if_neg h]

theorem maxValues_le_maxUnsigned : maxValues ≤ Text.maxUnsigned := by decide

/-! ## Rows of given lengths -/

theorem finish_le_of_eq {lengths : List Nat} {n : Nat} (h : total lengths = n) :
    (Offsets.ofLengths lengths).finish ≤ n := by
  rw [Offsets.finish_ofLengths]
  exact Nat.le_of_eq h

theorem ofLengths_eq_ok (d : Descriptor) {values : Series} {lengths : List Nat}
    (h : total lengths = values.length) (hmax : total lengths ≤ maxValues) :
    ofLengths d values lengths = .ok ⟨d, .ofLengths lengths, values, finish_le_of_eq h⟩ := by
  have hu : total lengths ≤ Text.maxUnsigned := Nat.le_trans hmax maxValues_le_maxUnsigned
  rw [ofLengths, checkedTotal_eq, if_pos hu]
  simp only [bind, Except.bind, Error.verifyArgument, decide_eq_true hmax, if_true]
  rw [ofOffsets, dif_pos (finish_le_of_eq h)]

theorem ofLengths_eq_error (d : Descriptor) (values : Series) {lengths : List Nat}
    (hu : total lengths ≤ Text.maxUnsigned) (hmax : maxValues < total lengths) :
    ofLengths d values lengths =
      .error (.invalidArgument "lengths" "total <= i32::MAX as usize") := by
  have hn : ¬ total lengths ≤ maxValues := Nat.not_le.2 hmax
  rw [ofLengths, checkedTotal_eq, if_pos hu]
  simp only [bind, Except.bind, Error.verifyArgument, decide_eq_false hn, Bool.false_eq_true,
    if_false]

end Column

/-! ## Splitting a batch -/

namespace Batch

/-- The lengths that rows get: a batch without values has none to give. -/
def rowLengths (b : Batch) (lengths : List Nat) : List Nat :=
  if b.length = 0 then List.replicate lengths.length 0 else lengths

/-- Lengths that a batch can be split by. -/
def Fits (b : Batch) (lengths : List Nat) : Prop :=
  b.length = 0 ∨ total lengths = b.length ∧ total lengths ≤ Column.maxValues

theorem isEmpty_eq (b : Batch) : b.isEmpty = decide (b.length = 0) := rfl

@[simp] theorem length_rowLengths (b : Batch) (lengths : List Nat) :
    (b.rowLengths lengths).length = lengths.length := by
  unfold rowLengths
  split
  · rw [List.length_replicate]
  · rfl

theorem total_rowLengths {b : Batch} {lengths : List Nat} (h : b.Fits lengths) :
    total (b.rowLengths lengths) = b.length ∧ b.length ≤ Column.maxValues := by
  unfold rowLengths
  by_cases hb : b.length = 0
  · rw [if_pos hb, total_replicate, hb]
    exact ⟨Nat.mul_zero _, Nat.zero_le _⟩
  · obtain ⟨ht, hmax⟩ := h.resolve_left hb
    rw [if_neg hb]
    exact ⟨ht, ht ▸ hmax⟩

/-- The batch in rows of lengths that it can be split by. -/
def inRows (b : Batch) (lengths : List Nat) (h : b.Fits lengths) : Column where
  descriptor := b.descriptor
  bounds := .ofLengths (b.rowLengths lengths)
  stored := b.values
  within := Column.finish_le_of_eq (total_rowLengths h).1

theorem partition_eq_ok {b : Batch} {lengths : List Nat} (h : b.Fits lengths) :
    b.partition lengths = .ok (b.inRows lengths h) := by
  obtain ⟨ht, hmax⟩ := total_rowLengths h
  have hok : Column.ofLengths b.descriptor b.values (b.rowLengths lengths) =
      .ok (b.inRows lengths h) := Column.ofLengths_eq_ok b.descriptor ht (ht ▸ hmax)
  rw [← hok]
  unfold partition
  by_cases hb : b.length = 0
  · have hr : b.rowLengths lengths = List.replicate lengths.length 0 := if_pos hb
    rw [isEmpty_eq, decide_eq_true hb, if_pos rfl, hr]
  · have hr : b.rowLengths lengths = lengths := if_neg hb
    rw [hr] at ht ⊢
    have hu : total lengths ≤ Text.maxUnsigned :=
      ht ▸ Nat.le_trans hmax Column.maxValues_le_maxUnsigned
    rw [isEmpty_eq, decide_eq_false hb, if_neg Bool.false_ne_true, Column.checkedTotal_eq,
      if_pos hu]
    simp only [bind, Except.bind, ht, ne_eq, not_true_eq_false, if_false]

/-- What is wrong with lengths that a batch with values cannot be split by. -/
inductive Misfit (b : Batch) (lengths : List Nat) : Error → Prop
  | overflow (h : Text.maxUnsigned < total lengths) :
      Misfit b lengths (.invalidArgument "lengths" "partition lengths overflow usize")
  | mismatch (hu : total lengths ≤ Text.maxUnsigned) (h : total lengths ≠ b.length) :
      Misfit b lengths (.lengthMismatch b.descriptor.text (total lengths) b.length)
  | tooLong (hu : total lengths ≤ Text.maxUnsigned) (h : total lengths = b.length)
      (hmax : Column.maxValues < total lengths) :
      Misfit b lengths (.invalidArgument "lengths" "total <= i32::MAX as usize")

theorem partition_eq_error {b : Batch} {lengths : List Nat} {e : Error} (hb : b.length ≠ 0)
    (h : b.Misfit lengths e) : b.partition lengths = .error e := by
  unfold partition
  rw [isEmpty_eq, decide_eq_false hb, if_neg Bool.false_ne_true, Column.checkedTotal_eq]
  cases h with
  | overflow h =>
    rw [if_neg (Nat.not_le.2 h)]
    rfl
  | mismatch hu h =>
    rw [if_pos hu]
    simp only [bind, Except.bind, ne_eq, h, not_false_eq_true, if_true]
  | tooLong hu h hmax =>
    rw [if_pos hu]
    simp only [bind, Except.bind, ne_eq, h, not_true_eq_false, if_false]
    exact Column.ofLengths_eq_error b.descriptor b.values hu hmax

theorem exists_misfit {b : Batch} {lengths : List Nat} (h : ¬ b.Fits lengths) :
    b.length ≠ 0 ∧ ∃ e, b.Misfit lengths e := by
  rw [Fits, not_or] at h
  obtain ⟨hb, hmax⟩ := h
  refine ⟨hb, ?_⟩
  by_cases hu : total lengths ≤ Text.maxUnsigned
  · by_cases ht : total lengths = b.length
    · exact ⟨_, .tooLong hu ht (Nat.not_le.1 fun hle => hmax ⟨ht, hle⟩)⟩
    · exact ⟨_, .mismatch hu ht⟩
  · exact ⟨_, .overflow (Nat.not_le.1 hu)⟩

theorem partition_eq_ok_iff {b : Batch} {lengths : List Nat} {c : Column} :
    b.partition lengths = .ok c ↔ ∃ h : b.Fits lengths, c = b.inRows lengths h := by
  constructor
  · intro hc
    by_cases h : b.Fits lengths
    · rw [partition_eq_ok h] at hc
      exact ⟨h, (Except.ok.inj hc).symm⟩
    · obtain ⟨hb, e, he⟩ := exists_misfit h
      rw [partition_eq_error hb he] at hc
      exact absurd hc (by simp)
  · rintro ⟨h, rfl⟩
    exact partition_eq_ok h

theorem exists_partition_iff {b : Batch} {lengths : List Nat} :
    (∃ c, b.partition lengths = .ok c) ↔ b.Fits lengths := by
  constructor
  · rintro ⟨c, hc⟩
    obtain ⟨h, -⟩ := partition_eq_ok_iff.1 hc
    exact h
  · intro h
    exact ⟨_, partition_eq_ok h⟩

theorem partition_eq_error_iff {b : Batch} {lengths : List Nat} {e : Error} :
    b.partition lengths = .error e ↔ b.length ≠ 0 ∧ b.Misfit lengths e := by
  constructor
  · intro he
    by_cases h : b.Fits lengths
    · rw [partition_eq_ok h] at he
      exact absurd he (by simp)
    · obtain ⟨hb, e', he'⟩ := exists_misfit h
      rw [partition_eq_error hb he'] at he
      exact ⟨hb, Except.error.inj he ▸ he'⟩
  · rintro ⟨hb, h⟩
    exact partition_eq_error hb h

end Batch

/-! ## Conservation -/

/-- A column has the values of a batch, cut into rows of given lengths. -/
structure Column.Keeps (c : Column) (b : Batch) (ns : List Nat) : Prop where
  descriptor : c.descriptor = b.descriptor
  valueType : c.valueType = b.values.type
  numRows : c.numRows = ns.length
  lengths : c.lengths = ns
  totalLength : c.totalLength = b.length
  /-- A row begins where the rows before it end. -/
  row : ∀ i, c.row? i = ns[i]?.map fun n => b.values.slice (total (ns.take i)) n
  length_row : ∀ i s, c.row? i = some s → ns[i]? = some s.length
  /-- The rows one after the other are the values of the batch. -/
  rows : c.rows.flatMap Series.cells = b.values.cells
  type_rows : ∀ s ∈ c.rows, s.type = b.values.type
  values : c.values = b.values
  /-- The offsets have thirty-two bits with a sign. -/
  offsets : ∀ p ∈ c.offsets, p ≤ Column.maxValues

namespace Batch

variable {b : Batch} {lengths : List Nat} (h : b.Fits lengths)

theorem totalLength_inRows : (b.inRows lengths h).totalLength = b.length := by
  have hf : (b.inRows lengths h).bounds.finish = b.length := by
    rw [inRows, Offsets.finish_ofLengths, (total_rowLengths h).1]
  rw [Column.totalLength, hf]
  exact Nat.sub_zero _

theorem values_inRows : (b.inRows lengths h).values = b.values := by
  rw [Column.values, totalLength_inRows]
  exact b.values.slice_zero_length

theorem row?_inRows (i : Nat) :
    (b.inRows lengths h).row? i =
      (b.rowLengths lengths)[i]?.map fun n =>
        b.values.slice (total ((b.rowLengths lengths).take i)) n := by
  cases hn : (b.rowLengths lengths)[i]? with
  | none =>
    have hi : (b.inRows lengths h).numRows ≤ i := by
      rw [Column.numRows, inRows, Offsets.numRows_ofLengths]
      exact List.getElem?_eq_none_iff.1 hn
    rw [Column.row?_eq_none hi]
    rfl
  | some n =>
    obtain ⟨hi, -⟩ := List.getElem?_eq_some_iff.1 hn
    have hfirst := Offsets.getElem?_places_ofLengths (Nat.le_of_lt hi)
    have hnext := Offsets.getElem?_places_ofLengths (Nat.succ_le_of_lt hi)
    rw [total_take_add_one hn] at hnext
    rw [Column.row?_eq_some_iff.2 ⟨_, _, hfirst, hnext, rfl⟩, Nat.add_sub_cancel_left]
    rfl

theorem length_of_row?_inRows {i : Nat} {s : Series} (hs : (b.inRows lengths h).row? i = some s) :
    (b.rowLengths lengths)[i]? = some s.length := by
  rw [row?_inRows] at hs
  obtain ⟨n, hn, rfl⟩ := Option.map_eq_some_iff.1 hs
  have hle : total ((b.rowLengths lengths).take (i + 1)) ≤ b.values.length :=
    Nat.le_trans (total_take_le _ _) (Nat.le_of_eq (total_rowLengths h).1)
  rw [total_take_add_one hn] at hle
  rw [hn, Series.length_slice, Nat.min_eq_left (by omega)]

theorem offset_inRows_le {p : Nat} (hp : p ∈ (b.inRows lengths h).offsets) :
    p ≤ Column.maxValues := by
  obtain ⟨ht, hmax⟩ := total_rowLengths h
  exact Nat.le_trans (Offsets.le_total_of_mem_places hp) (ht ▸ hmax)

theorem keeps_inRows : (b.inRows lengths h).Keeps b (b.rowLengths lengths) where
  descriptor := rfl
  valueType := rfl
  numRows := Offsets.numRows_ofLengths _
  lengths := Offsets.lengths_ofLengths _
  totalLength := totalLength_inRows h
  row := row?_inRows h
  length_row _ _ := length_of_row?_inRows h
  rows := by rw [Column.flatMap_cells_rows, values_inRows]
  type_rows _ hs := Column.type_of_mem_rows hs
  values := values_inRows h
  offsets _ := offset_inRows_le h

/-- A batch is split without loss if its lengths add up, or if it has no values to lose; otherwise
the error says which condition on the lengths fails. -/
theorem partition_conserves (b : Batch) (lengths : List Nat) :
    ((∃ c, b.partition lengths = .ok c) ↔
      b.length = 0 ∨ total lengths = b.length ∧ total lengths ≤ Column.maxValues) ∧
    (∀ c, b.partition lengths = .ok c →
      c.Keeps b (if b.length = 0 then List.replicate lengths.length 0 else lengths)) ∧
    ∀ e, b.partition lengths = .error e ↔ b.length ≠ 0 ∧ b.Misfit lengths e := by
  refine ⟨exists_partition_iff, ?_, fun e => partition_eq_error_iff⟩
  intro c hc
  obtain ⟨h, rfl⟩ := partition_eq_ok_iff.1 hc
  exact keeps_inRows h

end Batch

end Columnar
