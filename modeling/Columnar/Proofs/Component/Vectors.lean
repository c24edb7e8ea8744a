import Columnar.Proofs.Component.Acceptance
import Columnar.Proofs.Component.Forms
import Columnar.Proofs.Json.Proper

/-!
# Which JSON values are vectors

A list in JSON is vectors in two ways: as the components of one vector, or as one list of components
for each vector. A list of numbers only is meant as one vector, so it must have three of them; in
any other list every item must be a list of three numbers. All the numbers are narrowed, and none of
them may be out of range.

## Main statements

- `Json.Number.Narrows`: the numbers that are in range.
- `Json.Value.IsTriple`, `Json.Value.FaultOfTriple`: the lists of three such numbers, and what is
  wrong with any other value.
- `Json.Value.IsVectors`, `Json.Value.FaultOfVectors`: the same for vectors.
- `Encoding.vectorsOfJson_eq_ok_iff`, `Encoding.vectorsOfJson_eq_error_iff`: how vectors are taken
  in.
- `Encoding.encode_json_vectors`: which values are vectors, and which vectors they are.
-/

namespace Columnar

/-! ## The grammar -/

namespace Json

/-- A number that narrowing does not lose to infinity. -/
def Number.Narrows (n : Number) : Prop := ¬ n.toDouble.Overflows

instance (n : Number) : Decidable n.Narrows := inferInstanceAs (Decidable (¬ n.toDouble.Overflows))

theorem Number.Proper.narrows_iff {n : Number} (h : n.Proper) :
    n.Narrows ↔ n.toDouble.toSingle.isFinite = true := by
  rw [Number.Narrows, Double.Overflows, and_iff_right h.isFinite, Bool.not_eq_false]

def EachNarrows (t : Number × Number × Number) : Prop :=
  t.1.Narrows ∧ t.2.1.Narrows ∧ t.2.2.Narrows

namespace Value

def IsComponent (v : Value) : Prop := ∃ n, v = .number n ∧ n.Narrows

/-- A list of three numbers in range. -/
def IsTriple (v : Value) : Prop :=
  ∃ items, v = .array items ∧ items.length = 3 ∧ ∀ c ∈ items, c.IsComponent

/-- The triples of numbers that a value is, in range or not. -/
inductive IsVectors : Value → List (Number × Number × Number) → Prop
  | none : IsVectors (.array []) []
  | one (t : Number × Number × Number) : IsVectors (.triple t) [t]
  | several {ts : List (Number × Number × Number)} (h : ts ≠ []) :
      IsVectors (.array (ts.map .triple)) ts

inductive FaultOfComponent : Value → Columnar.Fault → Prop
  | noNumber {v : Value} (h : v.isNumber = false) : FaultOfComponent v (.ofJson .number v)
  | outOfRange {n : Number} (h : ¬ n.Narrows) :
      FaultOfComponent (.number n) (.outOfRange n.toDouble)

/-- Why a value is no triple. Of the components the first one at fault counts. -/
inductive FaultOfTriple : Value → Columnar.Fault → Prop
  | noList {v : Value} (h : v.isArray = false) : FaultOfTriple v (.ofJson .triple v)
  | length {items : List Value} (h : items.length ≠ 3) :
      FaultOfTriple (.array items) (.components items.length)
  | component {before after : List Value} {c : Value} {fault : Columnar.Fault}
      (hlength : (before ++ c :: after).length = 3) (hbefore : ∀ b ∈ before, b.IsComponent)
      (hc : c.FaultOfComponent fault) : FaultOfTriple (.array (before ++ c :: after)) fault

variable {v : Value} {items : List Value} {ts : List (Number × Number × Number)}

theorem isTriple_iff : v.IsTriple ↔ ∃ t, v = triple t ∧ EachNarrows t := by
  constructor
  · rintro ⟨items, rfl, hlength, h⟩
    obtain ⟨x, y, z, rfl⟩ := List.length_eq_three.1 hlength
    simp only [List.forall_mem_cons] at h
    obtain ⟨⟨a, rfl, ha⟩, ⟨b, rfl, hb⟩, ⟨c, rfl, hc⟩, -⟩ := h
    exact ⟨(a, b, c), rfl, ha, hb, hc⟩
  · rintro ⟨⟨a, b, c⟩, rfl, ha, hb, hc⟩
    refine ⟨_, rfl, rfl, ?_⟩
    simp only [List.map_cons, List.map_nil, List.forall_mem_cons]
    exact ⟨⟨a, rfl, ha⟩, ⟨b, rfl, hb⟩, ⟨c, rfl, hc⟩, List.forall_mem_nil _⟩

theorem forall_isTriple_iff : (∀ w ∈ items, w.IsTriple) ↔
    ∃ ts : List (Number × Number × Number), items = ts.map triple ∧ ∀ t ∈ ts, EachNarrows t := by
  simp only [isTriple_iff]
  exact forall_exists_eq_iff

/-- The three shapes of vectors in range. -/
theorem exists_isVectors_iff : (∃ ts, v.IsVectors ts ∧ ∀ t ∈ ts, EachNarrows t) ↔
    v = .array [] ∨ v.IsTriple ∨
      ∃ items, v = .array items ∧ items ≠ [] ∧ ∀ w ∈ items, w.IsTriple := by
  constructor
  · rintro ⟨ts, h, hts⟩
    cases h with
    | none => exact .inl rfl
    | one t => exact .inr (.inl (isTriple_iff.2 ⟨t, rfl, hts t List.mem_cons_self⟩))
    | several h =>
      exact .inr (.inr ⟨_, rfl, by simpa using h, forall_isTriple_iff.2 ⟨ts, rfl, hts⟩⟩)
  · rintro (rfl | h | ⟨items, rfl, hne, h⟩)
    · exact ⟨[], .none, List.forall_mem_nil _⟩
    · obtain ⟨t, rfl, ht⟩ := isTriple_iff.1 h
      exact ⟨[t], .one t, List.forall_mem_singleton.2 ht⟩
    · obtain ⟨ts, rfl, hts⟩ := forall_isTriple_iff.1 h
      exact ⟨ts, .several (by simpa using hne), hts⟩

/-- Why a value is no vectors. A list of numbers only is at fault as a triple, any other list for
its first item that is no triple. -/
inductive FaultOfVectors : Value → Columnar.Fault → Prop
  | noList {v : Value} (h : v.isArray = false) : FaultOfVectors v (.ofJson .triple v)
  | flat {items : List Value} {fault : Columnar.Fault} (hne : items ≠ [])
      (hnumbers : ∀ c ∈ items, c.isNumber = true) (h : FaultOfTriple (.array items) fault) :
      FaultOfVectors (.array items) fault
  | nested {before after : List Value} {v : Value} {fault : Columnar.Fault}
      (hlist : ∃ c ∈ before ++ v :: after, c.isNumber = false)
      (hbefore : ∀ b ∈ before, b.IsTriple) (hv : v.FaultOfTriple fault) :
      FaultOfVectors (.array (before ++ v :: after)) fault

end Value

end Json

/-! ## Vectors -/

namespace Vec3

def components (v : Vec3) : List Single := [v.x, v.y, v.z]

/-- The numbers in single precision. -/
def ofNumbers (t : Json.Number × Json.Number × Json.Number) : Vec3 :=
  ⟨t.1.toDouble.toSingle, t.2.1.toDouble.toSingle, t.2.2.toDouble.toSingle⟩

/-- A vector is read as the list of its three components is. -/
theorem map_components {α ε : Type} (f : α → Except ε Single) (x y z : α) :
    Except.map components (do
      let x ← f x
      let y ← f y
      let z ← f z
      .ok ⟨x, y, z⟩) = [x, y, z].mapM f := by
  cases hx : f x with
  | error e => exact (mapM_cons_error hx).symm
  | ok a =>
    rw [mapM_cons_ok hx]
    cases hy : f y with
    | error e =>
      rw [mapM_cons_error hy]
      rfl
    | ok b =>
      rw [mapM_cons_ok hy, mapM_singleton]
      cases f z <;> rfl

end Vec3

namespace Encoding

open Json (Number)

variable {v : Json.Value} {items : List Json.Value} {fault : Fault} {s : Series}
  {t : Number × Number × Number} {ts : List (Number × Number × Number)}

/-! ## Triples -/

theorem jsonComponent_eq_ok_iff {y : Single} :
    jsonComponent v = .ok y ↔ ∃ n, v = .number n ∧ n.Narrows ∧ n.toDouble.toSingle = y := by
  cases v with
  | number n =>
    show n.toDouble.narrow = .ok y ↔ _
    rw [Double.narrow_eq_ok_iff]
    constructor
    · rintro ⟨hn, hy⟩
      exact ⟨n, rfl, hn, hy⟩
    · rintro ⟨n, h, hn, hy⟩
      cases h
      exact ⟨hn, hy⟩
  | _ =>
    constructor
    · intro h
      cases h
    · rintro ⟨n, h, -⟩
      cases h

theorem exists_jsonComponent_iff : (∃ y, jsonComponent v = .ok y) ↔ v.IsComponent := by
  simp only [jsonComponent_eq_ok_iff]
  constructor
  · rintro ⟨y, n, hv, hn, -⟩
    exact ⟨n, hv, hn⟩
  · rintro ⟨n, hv, hn⟩
    exact ⟨_, n, hv, hn, rfl⟩

theorem jsonComponent_eq_error_iff :
    jsonComponent v = .error fault ↔ v.FaultOfComponent fault := by
  cases v with
  | number n =>
    show n.toDouble.narrow = .error fault ↔ _
    rw [Double.narrow_eq_error_iff]
    constructor
    · rintro ⟨hn, rfl⟩
      exact .outOfRange (not_not_intro hn)
    · intro h
      cases h with
      | noNumber h => cases h
      | outOfRange h => exact ⟨not_not.1 h, rfl⟩
  | _ =>
    constructor
    · intro h
      cases h
      exact .noNumber rfl
    · intro h
      cases h
      rfl

theorem jsonVector_of_length (h : items.length = 3) :
    (jsonVector items).map Vec3.components = items.mapM jsonComponent := by
  obtain ⟨x, y, z, rfl⟩ := List.length_eq_three.1 h
  exact Vec3.map_components jsonComponent x y z

theorem jsonVector_of_length_ne (h : items.length ≠ 3) :
    jsonVector items = .error (.components items.length) := by
  unfold jsonVector
  split
  · exact absurd rfl h
  · rfl

theorem jsonTriple_eq_ok_iff {w : Vec3} : jsonTriple v = .ok w ↔
    ∃ t, v = .triple t ∧ Json.EachNarrows t ∧ Vec3.ofNumbers t = w := by
  constructor
  · intro h
    cases v with
    | array items =>
      have hlength : items.length = 3 := by
        by_contra hne
        cases (jsonVector_of_length_ne hne).symm.trans h
      have hitems : items.mapM jsonComponent = .ok [w.x, w.y, w.z] := by
        rw [← jsonVector_of_length hlength]
        exact map_eq_ok_iff.2 ⟨w, h, rfl⟩
      simp only [mapM_eq_ok_iff, jsonComponent_eq_ok_iff, List.forall₂_cons_right_iff,
        List.forall₂_nil_right_iff] at hitems
      obtain ⟨_, _, ⟨a, rfl, ha, hx⟩, ⟨_, _, ⟨b, rfl, hb, hy⟩, ⟨_, _, ⟨c, rfl, hc, hz⟩, rfl, rfl⟩,
        rfl⟩, rfl⟩ := hitems
      refine ⟨(a, b, c), rfl, ⟨ha, hb, hc⟩, ?_⟩
      rw [Vec3.ofNumbers, hx, hy, hz]
    | _ => cases h
  · rintro ⟨⟨a, b, c⟩, rfl, ⟨ha, hb, hc⟩, rfl⟩
    have hcomponent : ∀ n : Number, n.Narrows →
        jsonComponent (.number n) = .ok n.toDouble.toSingle :=
      fun n hn => jsonComponent_eq_ok_iff.2 ⟨n, rfl, hn, rfl⟩
    refine bind_eq_ok_iff.2 ⟨_, hcomponent a ha, ?_⟩
    refine bind_eq_ok_iff.2 ⟨_, hcomponent b hb, ?_⟩
    exact bind_eq_ok_iff.2 ⟨_, hcomponent c hc, rfl⟩

theorem exists_jsonTriple_iff : (∃ w, jsonTriple v = .ok w) ↔ v.IsTriple := by
  simp only [jsonTriple_eq_ok_iff, Json.Value.isTriple_iff]
  constructor
  · rintro ⟨w, t, hv, ht, -⟩
    exact ⟨t, hv, ht⟩
  · rintro ⟨t, hv, ht⟩
    exact ⟨_, t, hv, ht, rfl⟩

theorem jsonTriple_eq_error_iff : jsonTriple v = .error fault ↔ v.FaultOfTriple fault := by
  constructor
  · intro h
    cases v with
    | array items =>
      by_cases hlength : items.length = 3
      · have hitems : items.mapM jsonComponent = .error fault := by
          rw [← jsonVector_of_length hlength]
          exact map_eq_error_iff.2 h
        obtain ⟨before, c, after, rfl, hbefore, hc⟩ := mapM_eq_error_iff.1 hitems
        exact .component hlength (fun b hb => exists_jsonComponent_iff.1 (hbefore b hb))
          (jsonComponent_eq_error_iff.1 hc)
      · cases (jsonVector_of_length_ne hlength).symm.trans h
        exact .length hlength
    | _ =>
      cases h
      exact .noList rfl
  · intro h
    cases h with
    | noList h =>
      cases v with
      | array items => cases h
      | _ => rfl
    | length h => exact jsonVector_of_length_ne h
    | @component before after c fault hlength hbefore hc =>
      have hitems : (before ++ c :: after).mapM jsonComponent = .error fault :=
        mapM_eq_error_iff.2 ⟨before, c, after, rfl,
          fun b hb => exists_jsonComponent_iff.2 (hbefore b hb), jsonComponent_eq_error_iff.2 hc⟩
      rw [← jsonVector_of_length hlength] at hitems
      exact map_eq_error_iff.1 hitems

/-! ## Vectors -/

theorem vectorsOfJson_eq_ok_iff : vectorsOfJson v = .ok s ↔
    ∃ ts, v.IsVectors ts ∧ (∀ t ∈ ts, Json.EachNarrows t) ∧
      s = Vec3.series (ts.map Vec3.ofNumbers) := by
  constructor
  · intro h
    cases v with
    | array items =>
      by_cases hone : items ≠ [] ∧ items.all Json.Value.isNumber = true
      · rw [vectorsOfJson_of_isNumber hone.1 hone.2] at h
        obtain ⟨w, hw, rfl⟩ := map_eq_ok_iff.1 h
        have htriple : jsonTriple (.array items) = .ok w := hw
        obtain ⟨t, hitems, ht, rfl⟩ := jsonTriple_eq_ok_iff.1 htriple
        exact ⟨[t], hitems ▸ .one t, List.forall_mem_singleton.2 ht, rfl⟩
      · rw [vectorsOfJson_of_exists (by simpa using hone)] at h
        obtain ⟨ws, hws, rfl⟩ := map_eq_ok_iff.1 h
        obtain ⟨ts, rfl, hts, rfl⟩ :=
          (mapM_eq_ok_iff_exists fun _ _ => jsonTriple_eq_ok_iff).1 hws
        refine ⟨ts, ?_, hts, rfl⟩
        by_cases hne : ts = []
        · subst hne
          exact .none
        · exact .several hne
    | _ => cases h
  · rintro ⟨ts, h, hts, rfl⟩
    have hlists : (ts.map Json.Value.triple).mapM jsonTriple = .ok (ts.map Vec3.ofNumbers) :=
      (mapM_eq_ok_iff_exists fun _ _ => jsonTriple_eq_ok_iff).2 ⟨ts, rfl, hts, rfl⟩
    have hseries : vectorsOfJson (.array (ts.map Json.Value.triple)) =
        .ok (Vec3.series (ts.map Vec3.ofNumbers)) := by
      rw [vectorsOfJson_of_not_isNumber, hlists]
      · rfl
      · intro c hc
        obtain ⟨t, -, rfl⟩ := List.mem_map.1 hc
        rfl
    cases h with
    | none => exact hseries
    | one t => exact (take_vector_eq (List.cons_ne_nil _ _)).trans hseries
    | several => exact hseries

theorem exists_faultOfVectors (h : vectorsOfJson v = .error fault) : v.FaultOfVectors fault := by
  cases v with
  | array items =>
    by_cases hone : items ≠ [] ∧ items.all Json.Value.isNumber = true
    · rw [vectorsOfJson_of_isNumber hone.1 hone.2] at h
      have hfault : (Json.Value.array items).FaultOfTriple fault :=
        jsonTriple_eq_error_iff.1 (map_eq_error_iff.1 h)
      exact .flat hone.1 (List.all_eq_true.1 hone.2) hfault
    · have hlist : items ≠ [] → ∃ c ∈ items, c.isNumber = false := by simpa using hone
      rw [vectorsOfJson_of_exists hlist] at h
      obtain ⟨before, w, after, rfl, hbefore, hw⟩ := mapM_eq_error_iff.1 (map_eq_error_iff.1 h)
      refine .nested (hlist (by simp)) ?_ (jsonTriple_eq_error_iff.1 hw)
      exact fun b hb => exists_jsonTriple_iff.1 (hbefore b hb)
  | _ =>
    cases h
    exact .noList rfl

theorem vectorsOfJson_eq_error (h : v.FaultOfVectors fault) : vectorsOfJson v = .error fault := by
  cases h with
  | noList h =>
    cases v with
    | array items => cases h
    | _ => rfl
  | flat hne hnumbers h =>
    rw [vectorsOfJson_of_isNumber hne (List.all_eq_true.2 hnumbers)]
    exact map_eq_error_iff.2 (jsonTriple_eq_error_iff.2 h)
  | nested hlist hbefore hv =>
    rw [vectorsOfJson_of_exists fun _ => hlist]
    refine map_eq_error_iff.2 (mapM_eq_error_iff.2 ⟨_, _, _, rfl, ?_, ?_⟩)
    · exact fun b hb => exists_jsonTriple_iff.2 (hbefore b hb)
    · exact jsonTriple_eq_error_iff.2 hv

theorem vectorsOfJson_eq_error_iff : vectorsOfJson v = .error fault ↔ v.FaultOfVectors fault :=
  ⟨exists_faultOfVectors, vectorsOfJson_eq_error⟩

/-- A value is taken in as vectors if it is the empty list, a list of three numbers or a list of
such lists, and all its numbers are in range: the first is no vector, the second one vector, and the
third a vector for each list. The components of a vector are the numbers of its list, narrowed. Any
other value is refused, and a number that a text can hold is in range if it is narrowed to a finite
one. -/
theorem encode_json_vectors (v : Json.Value) :
    ((∃ s, vectors.encode (.json v) = .ok s) ↔ v = .array [] ∨ v.IsTriple ∨
      ∃ items, v = .array items ∧ items ≠ [] ∧ ∀ w ∈ items, w.IsTriple) ∧
    (∀ s, vectors.encode (.json v) = .ok s ↔ ∃ ts, v.IsVectors ts ∧
      (∀ t ∈ ts, Json.EachNarrows t) ∧ s = Vec3.series (ts.map Vec3.ofNumbers)) ∧
    (∀ error, vectors.encode (.json v) = .error error ↔ ∃ fault, v.FaultOfVectors fault ∧
      error = .conversion "arche.datatypes.Vec3D" fault.message) ∧
    ∀ n : Number, n.Proper → (n.Narrows ↔ n.toDouble.toSingle.isFinite = true) := by
  have hok : ∀ s, vectors.encode (.json v) = .ok s ↔ ∃ ts, v.IsVectors ts ∧
      (∀ t ∈ ts, Json.EachNarrows t) ∧ s = Vec3.series (ts.map Vec3.ofNumbers) :=
    fun s => encode_eq_ok_iff.trans vectorsOfJson_eq_ok_iff
  refine ⟨?_, hok, ?_, fun n hn => hn.narrows_iff⟩
  · rw [← Json.Value.exists_isVectors_iff]
    constructor
    · rintro ⟨s, hs⟩
      obtain ⟨ts, h, hts, -⟩ := (hok s).1 hs
      exact ⟨ts, h, hts⟩
    · rintro ⟨ts, h, hts⟩
      exact ⟨_, (hok _).2 ⟨ts, h, hts, rfl⟩⟩
  · intro error
    rw [encode_eq_error_iff]
    exact exists_congr fun fault => and_congr_left' vectorsOfJson_eq_error_iff

/-- Three fives are one vector, since five is in range. -/
theorem encode_json_vectors_fives :
    let five : Number := .int 5
    five.Narrows ∧ vectors.encode (.json (.triple (five, five, five))) =
      .ok (Vec3.series [Vec3.ofNumbers (five, five, five)]) := by
  obtain ⟨-, hok, -, hnarrows⟩ := encode_json_vectors (.triple (.int 5, .int 5, .int 5))
  have hfive : (Number.int 5).Narrows := (hnarrows (.int 5) ⟨by decide, by decide⟩).2 (by decide)
  refine ⟨hfive, (hok _).2 ⟨_, .one _, ?_, rfl⟩⟩
  exact List.forall_mem_singleton.2 ⟨hfive, hfive, hfive⟩

/-- A list that is not of numbers throughout is meant as several vectors. -/
example : vectorsOfJson (.array [.triple (.int 1, .int 2, .int 3), .number (.int 4)]) =
    .error (.unexpected .triple "a number") := rfl

end Encoding

end Columnar
