import Mathlib.Data.List.Forall2
import Mathlib.Data.Set.List

/-!
# Steps and traversals that may fail

Steps in sequence succeed if each of them does. A traversal of a list answers for each element in
order and stops at the first error. It succeeds with one value for each element or fails with the
error of the first element at fault.
-/

namespace Columnar

variable {α β ε : Type}

/-! ## Lists side by side -/

theorem exists_getElem?_of_forall₂ {R : α → β → Prop} {xs : List α} {ys : List β}
    (h : List.Forall₂ R xs ys) {i : Nat} {x : α} (hx : xs[i]? = some x) :
    ∃ y, ys[i]? = some y ∧ R x y := by
  obtain ⟨hi, rfl⟩ := List.getElem?_eq_some_iff.1 hx
  have hi' : i < ys.length := by
    rw [← h.length_eq]
    exact hi
  exact ⟨ys[i], List.getElem?_eq_getElem hi', h.get hi hi'⟩

theorem exists_of_mem_left {R : α → β → Prop} {xs : List α} {ys : List β}
    (h : List.Forall₂ R xs ys) {x : α} (hx : x ∈ xs) : ∃ y, y ∈ ys ∧ R x y := by
  obtain ⟨i, hi⟩ := List.mem_iff_getElem?.1 hx
  obtain ⟨y, hy, hxy⟩ := exists_getElem?_of_forall₂ h hi
  exact ⟨y, List.mem_of_getElem? hy, hxy⟩

theorem exists_of_mem_right {R : α → β → Prop} {xs : List α} {ys : List β}
    (h : List.Forall₂ R xs ys) {y : β} (hy : y ∈ ys) : ∃ x, x ∈ xs ∧ R x y :=
  exists_of_mem_left h.flip hy

/-- A list is made from another one if each of its elements is made. -/
theorem exists_eq_map_iff {g : β → α} {xs : List α} :
    (∃ ys : List β, xs = ys.map g) ↔ ∀ x ∈ xs, ∃ y, x = g y := by
  constructor
  · rintro ⟨ys, rfl⟩
    exact List.forall_mem_map.2 fun y _ => ⟨y, rfl⟩
  · intro h
    have hrange : xs ∈ Set.range (List.map g) := by
      rw [Set.range_list_map]
      exact fun x hx => (h x hx).imp fun _ => Eq.symm
    obtain ⟨ys, rfl⟩ := hrange
    exact ⟨ys, rfl⟩

/-- The same for elements on which there is a condition. -/
theorem forall_exists_eq_iff {g : β → α} {P : β → Prop} {xs : List α} :
    (∀ x ∈ xs, ∃ y, x = g y ∧ P y) ↔ ∃ ys : List β, xs = ys.map g ∧ ∀ y ∈ ys, P y := by
  constructor
  · intro h
    induction xs with
    | nil => exact ⟨[], rfl, List.forall_mem_nil _⟩
    | cons x xs ih =>
      rw [List.forall_mem_cons] at h
      obtain ⟨⟨y, rfl, hy⟩, hxs⟩ := h
      obtain ⟨ys, rfl, hys⟩ := ih hxs
      exact ⟨y :: ys, rfl, List.forall_mem_cons.2 ⟨hy, hys⟩⟩
  · rintro ⟨ys, rfl, h⟩
    exact List.forall_mem_map.2 fun y hy => ⟨y, rfl, h y hy⟩

/-! ## Steps -/

theorem bind_eq_ok_iff {answer : Except ε α} {next : α → Except ε β} {b : β} :
    (answer >>= next) = .ok b ↔ ∃ a, answer = .ok a ∧ next a = .ok b := by
  cases answer with
  | error e =>
    constructor
    · intro h
      cases h
    · rintro ⟨a, h, -⟩
      cases h
  | ok a =>
    constructor
    · intro h
      exact ⟨a, rfl, h⟩
    · rintro ⟨a', h, hb⟩
      cases h
      exact hb

theorem map_eq_ok_iff {answer : Except ε α} {g : α → β} {b : β} :
    answer.map g = .ok b ↔ ∃ a, answer = .ok a ∧ g a = b := by
  cases answer with
  | error e =>
    constructor
    · intro h
      cases h
    · rintro ⟨a, h, -⟩
      cases h
  | ok a =>
    constructor
    · intro h
      exact ⟨a, rfl, Except.ok.inj h⟩
    · rintro ⟨a', h, rfl⟩
      cases h
      rfl

theorem mapError_eq_ok_iff {ε' : Type} {answer : Except ε α} {g : ε → ε'} {a : α} :
    answer.mapError g = .ok a ↔ answer = .ok a := by
  cases answer <;> simp only [Except.mapError, reduceCtorEq, Except.ok.injEq]

theorem map_eq_error_iff {answer : Except ε α} {g : α → β} {e : ε} :
    answer.map g = .error e ↔ answer = .error e := by
  cases answer <;> simp only [Except.map, reduceCtorEq, Except.error.injEq]

theorem mapError_eq_error_iff {ε' : Type} {answer : Except ε α} {g : ε → ε'} {e' : ε'} :
    answer.mapError g = .error e' ↔ ∃ e, answer = .error e ∧ e' = g e := by
  cases answer <;> simp [Except.mapError, eq_comm]

/-! ## Traversals -/

variable {f : α → Except ε β}

theorem mapM_cons_ok {x : α} {xs : List α} {y : β} (h : f x = .ok y) :
    (x :: xs).mapM f = (xs.mapM f).map (y :: ·) := by
  rw [List.mapM_cons, h]
  cases xs.mapM f <;> rfl

theorem mapM_cons_error {x : α} {xs : List α} {e : ε} (h : f x = .error e) :
    (x :: xs).mapM f = .error e := by
  rw [List.mapM_cons, h]
  rfl

theorem mapM_singleton (x : α) : [x].mapM f = (f x).map fun y => [y] := by
  cases hx : f x with
  | error e => exact mapM_cons_error hx
  | ok y => exact mapM_cons_ok hx

/-- A traversal succeeds with the values of the elements. -/
theorem mapM_eq_ok_iff {xs : List α} {ys : List β} :
    xs.mapM f = .ok ys ↔ List.Forall₂ (fun x y => f x = .ok y) xs ys := by
  induction xs generalizing ys with
  | nil =>
    rw [List.forall₂_nil_left_iff, List.mapM_nil]
    exact ⟨fun h => (Except.ok.inj h).symm, fun h => h ▸ rfl⟩
  | cons x xs ih =>
    rw [List.forall₂_cons_left_iff]
    cases hx : f x with
    | error e =>
      rw [mapM_cons_error hx]
      constructor
      · intro h
        cases h
      · rintro ⟨y, _, h, _⟩
        cases h
    | ok y =>
      rw [mapM_cons_ok hx]
      constructor
      · intro h
        cases ht : xs.mapM f with
        | error e =>
          rw [ht] at h
          cases h
        | ok zs =>
          rw [ht] at h
          exact ⟨y, zs, rfl, ih.1 ht, (Except.ok.inj h).symm⟩
      · rintro ⟨y', zs, h, ht, rfl⟩
        rw [ih.2 ht, ← Except.ok.inj h]
        rfl

theorem length_of_mapM {xs : List α} {ys : List β} (h : xs.mapM f = .ok ys) :
    ys.length = xs.length :=
  (mapM_eq_ok_iff.1 h).length_eq.symm

/-- Where the elements that succeed are those made from values, a list of values is read from the
list that is made from it and from no other one. -/
theorem mapM_eq_ok_iff_eq_map {g : β → α} (h : ∀ x y, f x = .ok y ↔ x = g y) {xs : List α}
    {ys : List β} : xs.mapM f = .ok ys ↔ xs = ys.map g := by
  rw [mapM_eq_ok_iff, ← List.forall₂_eq_eq_eq, List.forall₂_map_right_iff]
  simp only [h]

/-- Where an element succeeds on a condition and with a value of its own, a list succeeds if all its
elements do. -/
theorem mapM_eq_ok_iff_map_eq {P : α → Prop} {g : α → β}
    (h : ∀ x y, f x = .ok y ↔ P x ∧ g x = y) {xs : List α} {ys : List β} :
    xs.mapM f = .ok ys ↔ (∀ x ∈ xs, P x) ∧ xs.map g = ys := by
  rw [mapM_eq_ok_iff, ← List.forall₂_eq_eq_eq, List.forall₂_map_left_iff,
    ← List.forall₂_and_left]
  simp only [h]

/-- Where the elements that succeed are made from values that meet a condition, a list succeeds if
it is made from a list of such values. -/
theorem mapM_eq_ok_iff_exists {γ : Type} {g : γ → α} {P : γ → Prop} {k : γ → β}
    (h : ∀ x y, f x = .ok y ↔ ∃ c, x = g c ∧ P c ∧ k c = y) {xs : List α} {ys : List β} :
    xs.mapM f = .ok ys ↔ ∃ cs : List γ, xs = cs.map g ∧ (∀ c ∈ cs, P c) ∧ cs.map k = ys := by
  simp only [mapM_eq_ok_iff, h]
  constructor
  · intro hxs
    induction hxs with
    | nil => exact ⟨[], rfl, List.forall_mem_nil _, rfl⟩
    | cons hx _ ih =>
      obtain ⟨c, rfl, hc, rfl⟩ := hx
      obtain ⟨cs, rfl, hcs, rfl⟩ := ih
      exact ⟨c :: cs, rfl, List.forall_mem_cons.2 ⟨hc, hcs⟩, rfl⟩
  · rintro ⟨cs, rfl, hcs, rfl⟩
    rw [List.forall₂_map_left_iff, List.forall₂_map_right_iff, List.forall₂_same]
    exact fun c hc => ⟨c, rfl, hcs c hc, rfl⟩

/-- What is made from a list element by element can be read back from it. -/
theorem mapM_map_eq_ok {g : β → α} (h : ∀ y, f (g y) = .ok y) (ys : List β) :
    (ys.map g).mapM f = .ok ys := by
  rw [mapM_eq_ok_iff, List.forall₂_map_left_iff, List.forall₂_same]
  exact fun y _ => h y

/-- A traversal fails with the error of the first element at fault. -/
theorem exists_of_mapM_error {xs : List α} {e : ε} (h : xs.mapM f = .error e) :
    ∃ before x after, xs = before ++ x :: after ∧ (∀ y ∈ before, ∃ z, f y = .ok z) ∧
      f x = .error e := by
  induction xs with
  | nil => cases h
  | cons x xs ih =>
    cases hx : f x with
    | error e' =>
      rw [mapM_cons_error hx] at h
      refine ⟨[], x, xs, rfl, List.forall_mem_nil _, ?_⟩
      rw [hx, Except.error.inj h]
    | ok y =>
      rw [mapM_cons_ok hx] at h
      cases ht : xs.mapM f with
      | ok zs =>
        rw [ht] at h
        cases h
      | error e' =>
        rw [ht] at h
        obtain ⟨before, x', after, rfl, hbefore, he⟩ := ih (Except.error.inj h ▸ ht)
        refine ⟨x :: before, x', after, rfl, ?_, he⟩
        intro w hw
        cases List.mem_cons.1 hw with
        | inl hwx => exact ⟨y, hwx ▸ hx⟩
        | inr hw => exact hbefore w hw

theorem mapM_eq_error_iff {xs : List α} {e : ε} :
    xs.mapM f = .error e ↔ ∃ before x after, xs = before ++ x :: after ∧
      (∀ y ∈ before, ∃ z, f y = .ok z) ∧ f x = .error e := by
  constructor
  · exact exists_of_mapM_error
  · rintro ⟨before, x, after, rfl, hbefore, hx⟩
    induction before with
    | nil => exact mapM_cons_error hx
    | cons y before ih =>
      rw [List.forall_mem_cons] at hbefore
      obtain ⟨⟨z, hz⟩, hbefore⟩ := hbefore
      rw [List.cons_append, mapM_cons_ok hz, ih hbefore]
      rfl

end Columnar
