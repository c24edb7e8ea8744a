/-!
# Offsets

Rows that follow one another in a sequence of values are kept as the place where the first one
begins and the places where they end.

## Main definitions

- `total`: what lengths add up to.
- `Offsets`: where the rows begin and end.
- `Offsets.ofLengths`: the offsets of rows of given lengths, from the first value on.
- `Offsets.places`, `Offsets.lengths`, `Offsets.finish`: reading offsets.
-/

namespace Columnar

def total : List Nat → Nat
  | [] => 0
  | n :: ns => n + total ns

theorem total_append (a b : List Nat) : total (a ++ b) = total a + total b := by
  induction a with
  | nil => simp [total]
  | cons n a ih =>
    rw [List.cons_append, total, total, ih]
    omega

@[simp] theorem total_replicate (rows n : Nat) : total (List.replicate rows n) = rows * n := by
  induction rows with
  | zero => simp [total]
  | succ rows ih =>
    rw [List.replicate_succ, total, ih, Nat.succ_mul]
    omega

structure Offsets where
  start : Nat
  /-- Where each row ends and the next one begins. -/
  ends : List Nat
  ascending : (start :: ends).Pairwise (· ≤ ·)
deriving DecidableEq

namespace Offsets

/-! ## Reading -/

def places (o : Offsets) : List Nat := o.start :: o.ends

def numRows (o : Offsets) : Nat := o.ends.length

def finish (o : Offsets) : Nat := o.ends.getLastD o.start

/-- How far it is from a place to the first of a list, from there to the second and so on. -/
def distances (start : Nat) : List Nat → List Nat
  | [] => []
  | e :: ends => (e - start) :: distances e ends

def lengths (o : Offsets) : List Nat := distances o.start o.ends

@[simp] theorem length_distances (start : Nat) (ends : List Nat) :
    (distances start ends).length = ends.length := by
  induction ends generalizing start with
  | nil => rfl
  | cons e ends ih => simp [distances, ih]

@[simp] theorem length_lengths (o : Offsets) : o.lengths.length = o.numRows :=
  length_distances o.start o.ends

/-! ## Building -/

/-- What a place becomes with the first, the first two and so on of some lengths added. -/
def runningSums (start : Nat) : List Nat → List Nat
  | [] => []
  | n :: ns => (start + n) :: runningSums (start + n) ns

theorem le_of_mem_runningSums {start e : Nat} {ns : List Nat} (h : e ∈ runningSums start ns) :
    start ≤ e := by
  induction ns generalizing start with
  | nil => exact absurd h List.not_mem_nil
  | cons n ns ih =>
    rw [runningSums, List.mem_cons] at h
    cases h with
    | inl h => omega
    | inr h =>
      have := ih h
      omega

theorem pairwise_runningSums (start : Nat) (ns : List Nat) :
    (start :: runningSums start ns).Pairwise (· ≤ ·) := by
  induction ns generalizing start with
  | nil => exact List.pairwise_singleton _ _
  | cons n ns ih =>
    have hle : ∀ e ∈ runningSums start (n :: ns), start ≤ e :=
      fun _ h => le_of_mem_runningSums h
    exact List.pairwise_cons.2 ⟨hle, ih (start + n)⟩

def ofLengths (ns : List Nat) : Offsets := ⟨0, runningSums 0 ns, pairwise_runningSums 0 ns⟩

def zeros (rows : Nat) : Offsets where
  start := 0
  ends := List.replicate rows 0
  ascending := List.pairwise_replicate (n := rows + 1).2 (Or.inr (Nat.le_refl 0))

@[simp] theorem length_runningSums (start : Nat) (ns : List Nat) :
    (runningSums start ns).length = ns.length := by
  induction ns generalizing start with
  | nil => rfl
  | cons n ns ih => simp [runningSums, ih]

@[simp] theorem numRows_ofLengths (ns : List Nat) : (ofLengths ns).numRows = ns.length :=
  length_runningSums 0 ns

theorem distances_runningSums (start : Nat) (ns : List Nat) :
    distances start (runningSums start ns) = ns := by
  induction ns generalizing start with
  | nil => rfl
  | cons n ns ih => rw [runningSums, distances, ih, Nat.add_sub_cancel_left]

@[simp] theorem lengths_ofLengths (ns : List Nat) : (ofLengths ns).lengths = ns :=
  distances_runningSums 0 ns

theorem getLastD_runningSums (start : Nat) (ns : List Nat) :
    (runningSums start ns).getLastD start = start + total ns := by
  induction ns generalizing start with
  | nil => rfl
  | cons n ns ih =>
    rw [runningSums, List.getLastD_cons, ih, total]
    omega

@[simp] theorem finish_ofLengths (ns : List Nat) : (ofLengths ns).finish = total ns := by
  rw [finish, ofLengths, getLastD_runningSums, Nat.zero_add]

theorem runningSums_replicate_zero (start rows : Nat) :
    runningSums start (List.replicate rows 0) = List.replicate rows start := by
  induction rows with
  | zero => rfl
  | succ rows ih => rw [List.replicate_succ, runningSums, Nat.add_zero, ih, List.replicate_succ]

theorem ofLengths_replicate_zero (rows : Nat) : ofLengths (List.replicate rows 0) = zeros rows := by
  simp only [ofLengths, zeros, runningSums_replicate_zero]

end Offsets

end Columnar
