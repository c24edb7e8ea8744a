import Columnar.Proofs.Component.Vectors

/-!
# Numbers out of range

Numbers in single precision are made in several places: from a JSON number or a list of them, from
the components of vectors, and from a series of any numeric type or of lists of one, where numbers
that are in single precision already are kept. In all of them the numbers are taken in their order,
and the first finite one that would become infinite refuses the whole value. What is not finite from
the start is taken, and stays so.

## Main statements

- `Double.NarrowsTo`, `Double.firstOverflow?`: what a number becomes, and the first one out of
  range.
- `Narrowing`: answers that narrow numbers in this way, with one lemma for each way in which answers
  are put together.
- `Encoding.Sources`: values that are well formed but for the range of their numbers.
- `Encoding.encode_narrows`: such a value is refused for its first number out of range, or every
  number in it is narrowed.
-/

namespace Columnar

/-! ## Numbers -/

namespace Double

/-- A number and what is taken for it in single precision: it is rounded or was in single precision
before, and it is finite if and only if it was. -/
def NarrowsTo (x : Double) (y : Single) : Prop :=
  y.isFinite = x.isFinite ∧ (x.toSingle = y ∨ x = y.toDouble)

def firstOverflow? (xs : List Double) : Option Double := xs.find? fun x => decide x.Overflows

variable {x : Double} {xs ys : List Double}

theorem narrowsTo_toSingle (h : ¬ x.Overflows) : x.NarrowsTo x.toSingle := by
  refine ⟨?_, .inl rfl⟩
  rw [Bool.eq_iff_iff]
  refine ⟨isFinite_of_toSingle, fun hx => ?_⟩
  by_contra hnarrow
  exact h ⟨hx, Bool.eq_false_iff.2 hnarrow⟩

theorem narrowsTo_toDouble (y : Single) : y.toDouble.NarrowsTo y :=
  ⟨y.isFinite_toDouble.symm, .inr rfl⟩

theorem NarrowsTo.not_overflows {y : Single} (h : x.NarrowsTo y) : ¬ x.Overflows := by
  rintro ⟨hx, hnarrow⟩
  obtain ⟨hfinite, rfl | rfl⟩ := h
  · rw [hx, hnarrow] at hfinite
    cases hfinite
  · exact y.not_overflows ⟨hx, hnarrow⟩

theorem firstOverflow?_eq_none_iff :
    firstOverflow? xs = none ↔ ∀ x ∈ xs, ¬ x.Overflows := by
  simp only [firstOverflow?, List.find?_eq_none, decide_eq_true_eq]

theorem firstOverflow?_eq_none {ys : List Single} (h : List.Forall₂ NarrowsTo xs ys) :
    firstOverflow? xs = none := by
  rw [firstOverflow?_eq_none_iff]
  intro x hx
  obtain ⟨y, -, hxy⟩ := exists_of_mem_left h hx
  exact hxy.not_overflows

theorem exists_firstOverflow?_iff :
    (∃ x, firstOverflow? xs = some x) ↔ ∃ x ∈ xs, x.Overflows := by
  rw [← Option.isSome_iff_exists, firstOverflow?, List.find?_isSome]
  simp only [decide_eq_true_eq]

theorem firstOverflow?_append :
    firstOverflow? (xs ++ ys) = (firstOverflow? xs).or (firstOverflow? ys) :=
  List.find?_append

end Double

/-! ## Numbers of a series -/

namespace Cell

def single? : Cell → Option Single
  | .atom (.single x) => some x
  | _ => none

/-- The number that an element is, or the numbers of the list that it is. -/
def singles : Cell → List Single
  | .list items => items.filterMap single?
  | c => c.single?.toList

end Cell

namespace Series

/-- The numbers in single precision that a series has, in the order of its elements. -/
def numbers (s : Series) : List Single := s.cells.flatMap Cell.singles

theorem numbers_singles (xs : List Single) : (Series.singles xs).numbers = xs := by
  show (xs.map fun x => Cell.atom (.single x)).flatMap Cell.singles = xs
  rw [List.flatMap_map]
  exact List.flatMap_singleton' xs

theorem numbers_vectors (vs : List Vec3) :
    (Vec3.series vs).numbers = vs.flatMap Vec3.components := by
  show (vs.map Vec3.cell).flatMap Cell.singles = _
  rw [List.flatMap_map]
  rfl

end Series

/-! ## Answers that narrow numbers -/

/-- An answer that narrows the numbers `xs` to what `out` gives, and also checks the numbers `rest`:
it refuses the first of all of them that is out of range. -/
inductive Narrowing {β : Type} (out : β → List Single) (xs rest : List Double) :
    Except Fault β → Prop
  | ok {b : β} (h : List.Forall₂ Double.NarrowsTo xs (out b))
      (hrest : Double.firstOverflow? rest = none) : Narrowing out xs rest (.ok b)
  | error {x : Double} (h : Double.firstOverflow? (xs ++ rest) = some x) :
      Narrowing out xs rest (.error (.outOfRange x))

namespace Narrowing

variable {α β γ δ : Type} {out : β → List Single} {xs rest : List Double} {answer : Except Fault β}

theorem of_narrow (x : Double) : Narrowing (fun y => [y]) [x] [] x.narrow := by
  cases h : x.narrow with
  | ok y =>
    obtain ⟨hx, rfl⟩ := Double.narrow_eq_ok_iff.1 h
    exact .ok (.cons (Double.narrowsTo_toSingle hx) .nil) rfl
  | error fault =>
    obtain ⟨hx, rfl⟩ := Double.narrow_eq_error_iff.1 h
    refine .error ?_
    simp [Double.firstOverflow?, hx]

/-- A number in single precision is kept. -/
theorem of_atom (p : Primitive) (a : Atom) :
    Narrowing (fun y => [y]) [a.toDouble p] [] (a.narrow p) := by
  cases a with
  | single y =>
    exact .ok (.cons (Double.narrowsTo_toDouble y) .nil) rfl
  | _ => exact of_narrow _

theorem map_iff {g : β → γ} {out : γ → List Single} :
    Narrowing out xs rest (answer.map g) ↔ Narrowing (fun b => out (g b)) xs rest answer := by
  constructor
  · intro h
    cases answer with
    | ok b =>
      cases h with
      | ok h hrest => exact .ok h hrest
    | error fault =>
      cases h with
      | error h => exact .error h
  · intro h
    cases h with
    | ok h hrest => exact .ok h hrest
    | error h => exact .error h

/-- Two answers in sequence narrow the numbers of the first and then those of the second. -/
theorem seq {answer' : Except Fault γ} {g : β → γ → δ} {out' : γ → List Single}
    {out'' : δ → List Single} {ys : List Double} (h : Narrowing out xs [] answer)
    (h' : Narrowing out' ys rest answer') (hout : ∀ b c, out'' (g b c) = out b ++ out' c) :
    Narrowing out'' (xs ++ ys) rest (do
      let b ← answer
      let c ← answer'
      .ok (g b c)) := by
  cases h with
  | error hx =>
    refine .error ?_
    rw [List.append_nil] at hx
    rw [List.append_assoc, Double.firstOverflow?_append, hx]
    rfl
  | ok hb _ =>
    cases h' with
    | error hx =>
      refine .error ?_
      rw [List.append_assoc, Double.firstOverflow?_append, Double.firstOverflow?_eq_none hb]
      exact hx
    | ok hc hrest =>
      refine .ok ?_ hrest
      rw [hout]
      exact List.rel_append hb hc

/-- A traversal narrows the numbers of all elements, one element after the other. -/
theorem mapM {f : α → Except Fault β} {source : α → List Double} {as : List α}
    (h : ∀ a ∈ as, Narrowing out (source a) [] (f a)) :
    Narrowing (fun bs => bs.flatMap out) (as.flatMap source) [] (as.mapM f) := by
  induction as with
  | nil => exact .ok .nil rfl
  | cons a as ih =>
    obtain ⟨ha, has⟩ := List.forall_mem_cons.1 h
    rw [List.mapM_cons, List.flatMap_cons]
    exact seq ha (ih has) fun _ _ => List.flatMap_cons

/-- A traversal narrows one number for each element. -/
theorem mapM_single {f : α → Except Fault Single} {source : α → Double} {as : List α}
    (h : ∀ a ∈ as, Narrowing (fun y => [y]) [source a] [] (f a)) :
    Narrowing id (as.map source) [] (as.mapM f) := by
  have hall := mapM h
  simp only [List.flatMap_singleton'] at hall
  rwa [List.map_eq_flatMap]

/-- Numbers whose narrowing is dropped are still checked. -/
theorem checked (h : Narrowing out xs [] answer) : Narrowing (fun _ => []) [] xs answer := by
  cases h with
  | ok h _ => exact .ok .nil (Double.firstOverflow?_eq_none h)
  | error hx =>
    rw [List.append_nil] at hx
    exact .error hx

theorem congr_rest {rest' : List Double} (h : Narrowing out xs rest answer)
    (hrest : Double.firstOverflow? rest' = Double.firstOverflow? rest) :
    Narrowing out xs rest' answer := by
  cases h with
  | ok h hnone => exact .ok h (hrest.trans hnone)
  | error hx =>
    refine .error ?_
    rw [Double.firstOverflow?_append] at hx ⊢
    rwa [hrest]

theorem eq_error_iff {fault : Fault} (h : Narrowing out xs rest answer) :
    answer = .error fault ↔
      ∃ x, Double.firstOverflow? (xs ++ rest) = some x ∧ fault = .outOfRange x := by
  cases h with
  | ok h hrest =>
    rw [Double.firstOverflow?_append, Double.firstOverflow?_eq_none h, hrest]
    constructor
    · intro h
      cases h
    · rintro ⟨x, hx, -⟩
      cases hx
  | error hx =>
    constructor
    · intro h
      cases h
      exact ⟨_, hx, rfl⟩
    · rintro ⟨y, hy, rfl⟩
      rw [Option.some.inj (hx.symm.trans hy)]

/-- A vector is narrowed component by component. -/
theorem vector {f : α → Except Fault Single} {source : α → Double}
    (h : ∀ a, Narrowing (fun y => [y]) [source a] [] (f a)) (x y z : α) :
    Narrowing Vec3.components [source x, source y, source z] [] (do
      let x ← f x
      let y ← f y
      let z ← f z
      .ok ⟨x, y, z⟩) := by
  have hall : Narrowing id ([x, y, z].map source) [] ([x, y, z].mapM f) :=
    mapM_single fun a _ => h a
  rw [← Vec3.map_components f x y z] at hall
  have hvector := (map_iff (g := Vec3.components)).1 hall
  exact hvector

end Narrowing

/-! ## Values and their numbers -/

namespace Json

def doublesOf (t : Number × Number × Number) : List Double :=
  [t.1, t.2.1, t.2.2].map Number.toDouble

theorem Value.Proper.of_mem_ofNumbers {ns : List Number} (h : (Value.ofNumbers ns).Proper)
    {n : Number} (hn : n ∈ ns) : n.Proper := by
  cases h with
  | array h =>
    cases h _ (List.mem_map_of_mem hn) with
    | number hn => exact hn

theorem Value.IsVectors.proper {v : Value} {ts : List (Number × Number × Number)}
    (h : v.IsVectors ts) (hv : v.Proper) {t : Number × Number × Number} (ht : t ∈ ts) :
    (Value.triple t).Proper := by
  cases h with
  | none => exact absurd ht List.not_mem_nil
  | one t' => rwa [List.mem_singleton.1 ht]
  | several h =>
    cases hv with
    | array hv => exact hv _ (List.mem_map_of_mem ht)

end Json

namespace Encoding

/-- The numbers that a value has for an encoding, if it is well formed but for their range: those
that are taken, and those of a series of lists that stand beyond the last whole list. -/
inductive Sources : Encoding → Input → List Double → List Double → Prop
  | number (n : Json.Number) : Sources singles (.json (.number n)) [n.toDouble] []
  | numbers (ns : List Json.Number) :
      Sources singles (.json (.ofNumbers ns)) (ns.map Json.Number.toDouble) []
  | vectors {v : Json.Value} {ts : List (Json.Number × Json.Number × Json.Number)}
      (h : v.IsVectors ts) : Sources vectors (.json v) (ts.flatMap Json.doublesOf) []
  | series {s : Series} {surplus : List Cell} (ht : s.type.isNumeric = true)
      (hs : s.nullCount = 0) :
      Sources singles (.series s surplus) (s.cells.map (Cell.toDouble s.type)) []
  | lists {s : Series} {surplus : List Cell} {item : Field} (ht : s.type = .fixedSizeList item 3)
      (hnumeric : item.type.isNumeric = true) (hs : s.nullCount = 0)
      (hmissing : ∀ c ∈ s.items ++ surplus, c.isMissing = false) :
      Sources vectors (.series s surplus) (s.items.map (Cell.toDouble item.type))
        (surplus.map (Cell.toDouble item.type))

variable {e : Encoding} {input : Input} {v : Json.Value} {s : Series} {xs rest : List Double}

/-! ## Narrowing in each place -/

theorem narrowing_jsonNumbers (h : jsonNumbers v = .ok xs) :
    Narrowing Series.numbers xs [] (singles.take (.json v)) := by
  rw [take_json_of_jsonNumbers rfl h]
  show Narrowing Series.numbers xs [] ((xs.mapM Double.narrow).map Series.singles)
  rw [Narrowing.map_iff]
  simp only [Series.numbers_singles]
  have hall : Narrowing id (xs.map id) [] (xs.mapM Double.narrow) :=
    Narrowing.mapM_single fun x _ => Narrowing.of_narrow x
  rwa [List.map_id] at hall

theorem narrowing_triples (ts : List (Json.Number × Json.Number × Json.Number)) :
    Narrowing Series.numbers (ts.flatMap Json.doublesOf) []
      (vectors.take (.json (.array (ts.map .triple)))) := by
  have htake : vectors.take (.json (.array (ts.map .triple))) =
      ((ts.map doubleTriple).mapM narrowTriple).map Vec3.series := ofJson_triples ts
  have hall : Narrowing (fun vs => vs.flatMap Vec3.components)
      ((ts.map doubleTriple).flatMap fun t => [t.1, t.2.1, t.2.2]) []
      ((ts.map doubleTriple).mapM narrowTriple) :=
    Narrowing.mapM fun t _ => Narrowing.vector Narrowing.of_narrow t.1 t.2.1 t.2.2
  rw [htake, Narrowing.map_iff]
  simp only [Series.numbers_vectors]
  rwa [List.flatMap_map] at hall

theorem narrowing_isVectors {ts : List (Json.Number × Json.Number × Json.Number)}
    (h : v.IsVectors ts) :
    Narrowing Series.numbers (ts.flatMap Json.doublesOf) [] (vectors.take (.json v)) := by
  have hlists := narrowing_triples ts
  cases h with
  | none => exact hlists
  | one t =>
    rw [Json.Value.triple, take_vector_eq (List.cons_ne_nil _ _)]
    exact hlists
  | several => exact hlists

theorem narrowing_series {surplus : List Cell} (ht : s.type.isNumeric = true)
    (hs : s.nullCount = 0) :
    Narrowing Series.numbers (s.cells.map (Cell.toDouble s.type)) []
      (singles.take (.series s surplus)) := by
  obtain ⟨p, hp⟩ := exists_of_isNumeric ht
  have hnumbers : numbers s = .ok (p, s.atoms) :=
    numbers_eq_ok (number?_eq_some_iff.2 ⟨hp, ht⟩) hs
  have htake : singles.take (.series s surplus) =
      (s.atoms.mapM (Atom.narrow p)).map Series.singles := by
    show singlesOfSeries s = _
    rw [singlesOfSeries, hnumbers]
    rfl
  have hsource : s.cells.map (Cell.toDouble s.type) = s.atoms.map (Atom.toDouble p) := by
    rw [Series.cells_eq_map_atoms hp hs, List.map_map, hp]
    rfl
  rw [htake, hsource, Narrowing.map_iff]
  simp only [Series.numbers_singles]
  exact Narrowing.mapM_single fun a _ => Narrowing.of_atom p a

/-- What is no value is never out of range. -/
theorem firstOverflow?_map_toDouble (p : Primitive) (cells : List Cell) :
    Double.firstOverflow? (cells.map (Cell.toDouble (.primitive p))) =
      Double.firstOverflow? ((cells.filterMap Cell.atom?).map (Atom.toDouble p)) := by
  have hzero : ¬ (Double.ofInt 0).Overflows := by decide
  induction cells with
  | nil => rfl
  | cons c cells ih =>
    cases c with
    | atom a =>
      show ([a.toDouble p] ++ _).find? _ = ([a.toDouble p] ++ _).find? _
      rw [List.find?_append, List.find?_append]
      exact congrArg _ ih
    | _ =>
      show List.find? _ (Double.ofInt 0 :: _) = _
      rw [List.find?_cons_of_neg (by simpa using hzero)]
      exact ih

theorem narrowing_lists {surplus : List Cell} {item : Field}
    (ht : s.type = .fixedSizeList item 3) (hnumeric : item.type.isNumeric = true)
    (hs : s.nullCount = 0) (hmissing : ∀ c ∈ s.items ++ surplus, c.isMissing = false) :
    Narrowing Series.numbers (s.items.map (Cell.toDouble item.type))
      (surplus.map (Cell.toDouble item.type)) (vectors.take (.series s surplus)) := by
  obtain ⟨p, hitem⟩ := exists_of_isNumeric hnumeric
  have hp : item.type.number? = some p := number?_eq_some_iff.2 ⟨hitem, hnumeric⟩
  obtain ⟨ts, hts⟩ := exists_triples ht hitem hs (List.forall_mem_append.1 hmissing).1
  have hlists : Narrowing (fun vs => (Vec3.series vs).numbers)
      (s.items.map (Cell.toDouble item.type)) []
      (s.cells.mapM fun c => vectorOfAtoms p (c.items.filterMap Cell.atom?)) := by
    simp only [Series.numbers_vectors]
    rw [Series.items, hts, List.flatMap_map, List.map_flatMap, List.mapM_map, hitem]
    exact Narrowing.mapM fun t _ => Narrowing.vector (Narrowing.of_atom p) t.1 t.2.1 t.2.2
  have hsurplus : Narrowing id ((surplus.filterMap Cell.atom?).map (Atom.toDouble p)) []
      ((surplus.filterMap Cell.atom?).mapM (Atom.narrow p)) :=
    Narrowing.mapM_single fun a _ => Narrowing.of_atom p a
  have htake : Narrowing Series.numbers (s.items.map (Cell.toDouble item.type))
      ((surplus.filterMap Cell.atom?).map (Atom.toDouble p)) (vectorsOfSeries s surplus) := by
    rw [vectorsOfSeries_eq ht hp hs hmissing, ← List.append_nil (s.items.map _)]
    exact hlists.seq hsurplus.checked fun _ _ => (List.append_nil _).symm
  refine htake.congr_rest ?_
  rw [hitem, firstOverflow?_map_toDouble]

theorem narrowing_of_sources (h : e.Sources input xs rest) :
    Narrowing Series.numbers xs rest (e.take input) := by
  cases h with
  | number n => exact narrowing_jsonNumbers rfl
  | numbers ns => exact narrowing_jsonNumbers (jsonNumbers_ofNumbers ns)
  | vectors h => exact narrowing_isVectors h
  | series ht hs => exact narrowing_series ht hs
  | lists ht hnumeric hs hmissing => exact narrowing_lists ht hnumeric hs hmissing

/-! ## Values that are taken -/

theorem jsonNumber_eq_ok_iff {x : Double} :
    jsonNumber v = .ok x ↔ ∃ n, v = .number n ∧ True ∧ Json.Number.toDouble n = x := by
  constructor
  · intro h
    cases v with
    | number n => exact ⟨n, rfl, trivial, Except.ok.inj h⟩
    | _ => cases h
  · rintro ⟨n, rfl, -, rfl⟩
    rfl

theorem exists_sources_of_jsonNumbers (h : jsonNumbers v = .ok xs) :
    ∃ xs rest, singles.Sources (.json v) xs rest := by
  cases v with
  | number n => exact ⟨_, _, .number n⟩
  | array items =>
    obtain ⟨ns, rfl, -⟩ := (mapM_eq_ok_iff_exists fun _ _ => jsonNumber_eq_ok_iff).1 h
    exact ⟨_, _, .numbers ns⟩
  | _ => cases h

theorem exists_sources (he : e = singles ∨ e = vectors) (h : e.take input = .ok s) :
    ∃ xs rest, e.Sources input xs rest := by
  obtain rfl | rfl := he
  · cases input with
    | json v =>
      obtain ⟨xs, hxs, -⟩ := bind_eq_ok_iff.1 h
      exact exists_sources_of_jsonNumbers hxs
    | series t surplus =>
      have haccepts : singles.Accepts t surplus := (singlesOfSeries_eq_ok_iff.1 h).1
      exact ⟨_, _, .series haccepts.1 haccepts.2.1⟩
  · cases input with
    | json v =>
      obtain ⟨ts, hts, -⟩ := vectorsOfJson_eq_ok_iff.1 h
      exact ⟨_, _, .vectors hts⟩
    | series t surplus =>
      obtain ⟨item, ht, hnumeric, hs, hmissing⟩ := exists_of_vectorsOfSeries h
      exact ⟨_, _, .lists ht hnumeric hs hmissing⟩

/-- The numbers of a text are finite. -/
theorem isFinite_of_sources (h : e.Sources (.json v) xs rest) (hv : v.Proper) :
    ∀ x ∈ xs, x.isFinite = true := by
  cases h with
  | number n =>
    cases hv with
    | number hn => exact List.forall_mem_singleton.2 hn.isFinite
  | numbers ns => exact List.forall_mem_map.2 fun n hn => (hv.of_mem_ofNumbers hn).isFinite
  | vectors h =>
    intro x hx
    obtain ⟨t, ht, hxt⟩ := List.mem_flatMap.1 hx
    obtain ⟨n, hn, rfl⟩ := List.mem_map.1 hxt
    exact ((h.proper hv ht).of_mem_ofNumbers hn).isFinite

theorem forall₂_narrowsTo (h : e.Sources input xs rest) (hs : e.encode input = .ok s) :
    List.Forall₂ Double.NarrowsTo xs s.numbers := by
  have hnarrowing := narrowing_of_sources h
  rw [encode_eq_ok_iff.1 hs] at hnarrowing
  cases hnarrowing with
  | ok h _ => exact h

theorem encode_eq_error_iff_of_sources {error : Error} (h : e.Sources input xs rest) :
    e.encode input = .error error ↔ ∃ x, Double.firstOverflow? (xs ++ rest) = some x ∧
      error = .conversion e.name (Fault.outOfRange x).message := by
  simp only [encode_eq_error_iff, (narrowing_of_sources h).eq_error_iff]
  constructor
  · rintro ⟨fault, ⟨x, hx, rfl⟩, rfl⟩
    exact ⟨x, hx, rfl⟩
  · rintro ⟨x, hx, rfl⟩
    exact ⟨_, ⟨x, hx, rfl⟩, rfl⟩

/-- A well-formed value is refused for no other reason than its range. -/
theorem exists_error_iff_of_sources (h : e.Sources input xs rest) :
    (∃ error, e.encode input = .error error) ↔ ∃ x ∈ xs ++ rest, x.Overflows := by
  rw [← Double.exists_firstOverflow?_iff]
  constructor
  · rintro ⟨error, herror⟩
    obtain ⟨x, hx, -⟩ := (encode_eq_error_iff_of_sources h).1 herror
    exact ⟨x, hx⟩
  · rintro ⟨x, hx⟩
    exact ⟨_, (encode_eq_error_iff_of_sources h).2 ⟨x, hx, rfl⟩⟩

/-- A value that is taken in single precision, as numbers or as vectors, is well formed. One that is
well formed is refused if any of its numbers is out of range, and then for the first of them;
otherwise each number is narrowed, and is finite if and only if it was. What is read from a text is
always finite. -/
theorem encode_narrows (he : e = singles ∨ e = vectors) (input : Input) :
    (∀ s, e.encode input = .ok s → ∃ xs rest, e.Sources input xs rest) ∧
    (∀ xs rest, e.Sources input xs rest →
      (∀ s, e.encode input = .ok s → List.Forall₂ Double.NarrowsTo xs s.numbers) ∧
      ((∃ error, e.encode input = .error error) ↔ ∃ x ∈ xs ++ rest, x.Overflows) ∧
      ∀ error, e.encode input = .error error ↔ ∃ x, Double.firstOverflow? (xs ++ rest) = some x ∧
        error = .conversion e.name (Fault.outOfRange x).message) ∧
    ∀ v s, input = .json v → v.Proper → e.encode input = .ok s →
      ∀ y ∈ s.numbers, y.isFinite = true := by
  have hsources : ∀ s, e.encode input = .ok s → ∃ xs rest, e.Sources input xs rest :=
    fun s h => exists_sources he (encode_eq_ok_iff.1 h)
  refine ⟨hsources, ?_, ?_⟩
  · intro xs rest h
    exact ⟨fun s => forall₂_narrowsTo h, exists_error_iff_of_sources h,
      fun error => encode_eq_error_iff_of_sources h⟩
  · rintro v s rfl hv hs y hy
    obtain ⟨xs, rest, h⟩ := hsources s hs
    obtain ⟨x, hx, hxy⟩ := exists_of_mem_right (forall₂_narrowsTo h hs) hy
    rw [hxy.1, isFinite_of_sources h hv x hx]

/-- An infinity is taken, a finite number that would become one is not, and a small integer of a
text is finite. -/
theorem encode_narrows_infinity_huge :
    let infinity : Double := ⟨0x7ff0000000000000⟩
    singles.encode (.ofDoubles [infinity, huge.toDouble]) =
        .error (.conversion "arche.datatypes.Float32" (Fault.outOfRange huge.toDouble).message) ∧
      (∃ s, singles.encode (.ofDoubles [infinity]) = .ok s) ∧
      ∃ s, singles.encode (.json (.number (.int 5))) = .ok s ∧
        ∀ y ∈ s.numbers, y.isFinite = true := by
  refine ⟨?_, ⟨_, rfl⟩, ⟨_, rfl, ?_⟩⟩
  · obtain ⟨-, hsources, -⟩ := encode_narrows (.inl rfl)
      (.ofDoubles [⟨0x7ff0000000000000⟩, huge.toDouble])
    have hoverflow := (hsources _ _ (.series rfl (by decide))).2.2
    exact (hoverflow _).2 ⟨huge.toDouble, by decide, rfl⟩
  · obtain ⟨-, -, hfinite⟩ := encode_narrows (.inl rfl) (.json (.number (.int 5)))
    exact hfinite _ _ rfl (.number ⟨by decide, by decide⟩) rfl

end Encoding

end Columnar
