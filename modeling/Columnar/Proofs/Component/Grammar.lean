import Columnar.Proofs.Component.Forms

/-!
# Which JSON values are blobs

A list in JSON is blobs in two ways: as the bytes of one blob, or as one list of bytes for each
blob. The two are told apart by whether all items are lists, so the items of one blob must be bytes
throughout, and a list of no items, which would be both, is no blob at all.

## Main statements

- `Json.Value.IsByte`: the integers that are bytes.
- `Json.Value.IsBlobs`, `Json.Value.FaultOfBlobs`: the grammar of blobs, and what is wrong with any
  other value.
- `Encoding.blobsOfJson_eq_ok_iff`, `Encoding.blobsOfJson_eq_error_iff`: how blobs are taken in.
- `Encoding.encode_json_blobs`: which values are blobs, and which blobs they are.
-/

namespace Columnar

/-! ## The grammar -/

namespace Json.Value

/-- An integer from 0 to 255. A floating-point number is none, even if it is integral. -/
def IsByte (v : Value) : Prop := ∃ i : Int, v = .number (.int i) ∧ 0 ≤ i ∧ i ≤ 255

/-- The first of the items that is no byte. -/
def FirstNonByte (items : List Value) (x : Value) : Prop :=
  ∃ before after, items = before ++ x :: after ∧ (∀ y ∈ before, y.IsByte) ∧ ¬ x.IsByte

/-- The blobs that a value is. -/
inductive IsBlobs : Value → List (List UInt8) → Prop
  | none : IsBlobs (.array []) []
  | one {bytes : List UInt8} (h : bytes ≠ []) : IsBlobs (.ofBytes bytes) [bytes]
  | several {xs : List (List UInt8)} (h : xs ≠ []) : IsBlobs (.array (xs.map ofBytes)) xs

/-- Why a value is no blobs: it is no list, or the first item that should be a byte is none. -/
inductive FaultOfBlobs : Value → Columnar.Fault → Prop
  | noList {v : Value} (h : v.isArray = false) : FaultOfBlobs v (.ofJson .bytes v)
  | flat {items : List Value} {x : Value} (h : ∃ y ∈ items, y.isArray = false)
      (hx : FirstNonByte items x) : FaultOfBlobs (.array items) (.ofJson .byte x)
  | nested {before after items : List Value} {x : Value}
      (hbefore : ∀ y ∈ before, ∃ bytes, y = ofBytes bytes)
      (hafter : ∀ y ∈ after, y.isArray = true) (hx : FirstNonByte items x) :
      FaultOfBlobs (.array (before ++ .array items :: after)) (.ofJson .byte x)

variable {v : Value} {items : List Value}

theorem isByte_byte (b : UInt8) : (byte b).IsByte := by
  have h := b.toNat_lt
  refine ⟨b.toNat, rfl, ?_, ?_⟩ <;> omega

theorem isByte_iff : v.IsByte ↔ ∃ b, v = byte b := by
  constructor
  · rintro ⟨i, rfl, hlow, hhigh⟩
    obtain ⟨b, rfl⟩ := exists_uint8 hlow hhigh
    exact ⟨b, rfl⟩
  · rintro ⟨b, rfl⟩
    exact isByte_byte b

theorem forall_isByte_iff :
    (∀ x ∈ items, x.IsByte) ↔ ∃ bytes : List UInt8, items = bytes.map byte := by
  simp only [isByte_iff]
  exact exists_eq_map_iff.symm

/-- A list of lists of bytes. -/
theorem forall_bytes_iff :
    (∀ x ∈ items, ∃ bytes, x = .array bytes ∧ ∀ b ∈ bytes, b.IsByte) ↔
      ∃ xs : List (List UInt8), items = xs.map ofBytes := by
  have hbytes : ∀ x : Value, (∃ bytes, x = .array bytes ∧ ∀ b ∈ bytes, b.IsByte) ↔
      ∃ bytes, x = ofBytes bytes := by
    intro x
    constructor
    · rintro ⟨items, rfl, h⟩
      obtain ⟨bytes, rfl⟩ := forall_isByte_iff.1 h
      exact ⟨bytes, rfl⟩
    · rintro ⟨bytes, rfl⟩
      exact ⟨_, rfl, forall_isByte_iff.2 ⟨bytes, rfl⟩⟩
  simp only [hbytes]
  exact exists_eq_map_iff.symm

/-- The three shapes of blobs. -/
theorem exists_isBlobs_iff :
    (∃ xs, v.IsBlobs xs) ↔ v = .array [] ∨
      (∃ items, v = .array items ∧ items ≠ [] ∧ ∀ x ∈ items, x.IsByte) ∨
      ∃ items, v = .array items ∧ items ≠ [] ∧
        ∀ x ∈ items, ∃ bytes, x = .array bytes ∧ ∀ b ∈ bytes, b.IsByte := by
  constructor
  · rintro ⟨xs, h⟩
    cases h with
    | none => exact .inl rfl
    | one h =>
      exact .inr (.inl ⟨_, rfl, by simpa using h, forall_isByte_iff.2 ⟨_, rfl⟩⟩)
    | several h =>
      exact .inr (.inr ⟨_, rfl, by simpa using h, forall_bytes_iff.2 ⟨_, rfl⟩⟩)
  · rintro (rfl | ⟨items, rfl, hne, hbytes⟩ | ⟨items, rfl, hne, hbytes⟩)
    · exact ⟨[], .none⟩
    · obtain ⟨bytes, rfl⟩ := forall_isByte_iff.1 hbytes
      exact ⟨[bytes], .one (by simpa using hne)⟩
    · obtain ⟨xs, rfl⟩ := forall_bytes_iff.1 hbytes
      exact ⟨xs, .several (by simpa using hne)⟩

end Json.Value

namespace Encoding

open Json.Value (FirstNonByte)

variable {v : Json.Value} {items : List Json.Value} {fault : Fault} {s : Series}

/-! ## Lists of bytes -/

theorem jsonByte_eq_error (h : ¬ v.IsByte) : jsonByte v = .error (.ofJson .byte v) := by
  unfold jsonByte
  split
  · next i hi =>
    rw [if_neg]
    intro hrange
    refine h ⟨i, ?_, by omega, by omega⟩
    cases v with
    | number n =>
      cases n with
      | int j => rw [Option.some_inj.1 hi]
      | real x finite => cases hi
    | _ => cases hi
  · rfl

theorem jsonByte_eq_ok_iff {b : UInt8} : jsonByte v = .ok b ↔ v = .byte b := by
  constructor
  · intro h
    by_cases hv : v.IsByte
    · obtain ⟨c, rfl⟩ := Json.Value.isByte_iff.1 hv
      rw [jsonByte_byte] at h
      rw [Except.ok.inj h]
    · rw [jsonByte_eq_error hv] at h
      cases h
  · rintro rfl
    exact jsonByte_byte b

theorem jsonByte_eq_error_iff :
    jsonByte v = .error fault ↔ ¬ v.IsByte ∧ fault = .ofJson .byte v := by
  constructor
  · intro h
    have hv : ¬ v.IsByte := by
      intro hv
      obtain ⟨b, rfl⟩ := Json.Value.isByte_iff.1 hv
      rw [jsonByte_byte] at h
      cases h
    rw [jsonByte_eq_error hv] at h
    exact ⟨hv, (Except.error.inj h).symm⟩
  · rintro ⟨hv, rfl⟩
    exact jsonByte_eq_error hv

theorem mapM_jsonByte_eq_ok_iff {bytes : List UInt8} :
    items.mapM jsonByte = .ok bytes ↔ items = bytes.map .byte :=
  mapM_eq_ok_iff_eq_map fun _ _ => jsonByte_eq_ok_iff

theorem mapM_jsonByte_eq_error_iff :
    items.mapM jsonByte = .error fault ↔ ∃ x, FirstNonByte items x ∧ fault = .ofJson .byte x := by
  simp only [mapM_eq_error_iff, jsonByte_eq_ok_iff, jsonByte_eq_error_iff, FirstNonByte,
    Json.Value.isByte_iff]
  constructor
  · rintro ⟨before, x, after, h, hbefore, hx, hfault⟩
    exact ⟨x, ⟨before, after, h, hbefore, hx⟩, hfault⟩
  · rintro ⟨x, ⟨before, after, h, hbefore, hx⟩, hfault⟩
    exact ⟨before, x, after, h, hbefore, hx, hfault⟩

theorem jsonBytes_eq_ok_iff {bytes : List UInt8} :
    jsonBytes v = .ok bytes ↔ v = .ofBytes bytes := by
  constructor
  · intro h
    cases v with
    | array items => rw [mapM_jsonByte_eq_ok_iff.1 h, Json.Value.ofBytes]
    | _ => cases h
  · rintro rfl
    exact jsonBytes_ofBytes bytes

/-! ## Blobs -/

theorem blobsOfJson_eq_ok_iff :
    blobsOfJson v = .ok s ↔ ∃ xs, v.IsBlobs xs ∧ s = .blobs xs := by
  constructor
  · intro h
    cases v with
    | array items =>
      by_cases hne : items = []
      · subst hne
        cases h
        exact ⟨[], .none, rfl⟩
      · rw [blobsOfJson_of_ne_nil hne] at h
        split at h
        · obtain ⟨xs, hxs, rfl⟩ := map_eq_ok_iff.1 h
          have hitems : items = xs.map .ofBytes :=
            (mapM_eq_ok_iff_eq_map fun _ _ => jsonBytes_eq_ok_iff).1 hxs
          subst hitems
          exact ⟨xs, .several (by simpa using hne), rfl⟩
        · obtain ⟨bytes, hbytes, rfl⟩ := map_eq_ok_iff.1 h
          have hitems := mapM_jsonByte_eq_ok_iff.1 hbytes
          subst hitems
          exact ⟨[bytes], .one (by simpa using hne), rfl⟩
    | _ => cases h
  · rintro ⟨xs, h, rfl⟩
    cases h with
    | none => rfl
    | one h => exact ofJson_ofBytes h
    | several _ => exact ofJson_blobs xs

theorem exists_faultOfBlobs (h : blobsOfJson v = .error fault) : v.FaultOfBlobs fault := by
  cases v with
  | array items =>
    by_cases hne : items = []
    · subst hne
      cases h
    · rw [blobsOfJson_of_ne_nil hne] at h
      split at h
      · next hall =>
        -- Each item is a list, so the fault lies in one that comes after lists of bytes.
        obtain ⟨before, y, after, rfl, hbefore, hy⟩ :=
          mapM_eq_error_iff.1 (map_eq_error_iff.1 h)
        simp only [jsonBytes_eq_ok_iff] at hbefore
        rw [List.all_append, List.all_cons, Bool.and_eq_true, Bool.and_eq_true] at hall
        obtain ⟨-, hlist, hafter⟩ := hall
        cases y with
        | array bytes =>
          obtain ⟨x, hx, rfl⟩ := mapM_jsonByte_eq_error_iff.1 hy
          exact .nested hbefore (List.all_eq_true.1 hafter) hx
        | _ => cases hlist
      · next hall =>
        obtain ⟨x, hx, rfl⟩ := mapM_jsonByte_eq_error_iff.1 (map_eq_error_iff.1 h)
        refine .flat ?_ hx
        simpa using hall
  | _ =>
    cases h
    exact .noList rfl

theorem blobsOfJson_eq_error (h : v.FaultOfBlobs fault) : blobsOfJson v = .error fault := by
  cases h with
  | noList h =>
    cases v with
    | array items => cases h
    | _ => rfl
  | @flat items x h hx =>
    have hne : items ≠ [] := by
      obtain ⟨y, hy, -⟩ := h
      exact List.ne_nil_of_mem hy
    have hall : ¬ items.all Json.Value.isArray = true := by simpa using h
    rw [blobsOfJson_of_ne_nil hne, if_neg hall]
    exact map_eq_error_iff.2 (mapM_jsonByte_eq_error_iff.2 ⟨x, hx, rfl⟩)
  | @nested before after items x hbefore hafter hx =>
    have hne : before ++ .array items :: after ≠ [] := by simp
    have hall : (before ++ .array items :: after).all Json.Value.isArray = true := by
      rw [List.all_append, List.all_cons, Bool.and_eq_true, Bool.and_eq_true]
      refine ⟨List.all_eq_true.2 ?_, rfl, List.all_eq_true.2 hafter⟩
      intro y hy
      obtain ⟨bytes, rfl⟩ := hbefore y hy
      rfl
    rw [blobsOfJson_of_ne_nil hne, if_pos hall]
    refine map_eq_error_iff.2 (mapM_eq_error_iff.2 ⟨before, .array items, after, rfl, ?_, ?_⟩)
    · simpa only [jsonBytes_eq_ok_iff] using hbefore
    · exact mapM_jsonByte_eq_error_iff.2 ⟨x, hx, rfl⟩

theorem blobsOfJson_eq_error_iff : blobsOfJson v = .error fault ↔ v.FaultOfBlobs fault :=
  ⟨exists_faultOfBlobs, blobsOfJson_eq_error⟩

/-- A value is taken in as blobs if it is the empty list, a list of bytes or a list of lists of
bytes: the first is no blob, the second one blob of these bytes, and the third a blob for each list.
Any other value is refused, if it is a list for the first item that should be a byte and is none. -/
theorem encode_json_blobs (v : Json.Value) :
    ((∃ s, blobs.encode (.json v) = .ok s) ↔ v = .array [] ∨
      (∃ items, v = .array items ∧ items ≠ [] ∧ ∀ x ∈ items, x.IsByte) ∨
      ∃ items, v = .array items ∧ items ≠ [] ∧
        ∀ x ∈ items, ∃ bytes, x = .array bytes ∧ ∀ b ∈ bytes, b.IsByte) ∧
    (∀ s, blobs.encode (.json v) = .ok s ↔ ∃ xs, v.IsBlobs xs ∧ s = .blobs xs) ∧
    ∀ error, blobs.encode (.json v) = .error error ↔ ∃ fault, v.FaultOfBlobs fault ∧
      error = .conversion "arche.datatypes.Blob" fault.message := by
  have hok : ∀ s, blobs.encode (.json v) = .ok s ↔ ∃ xs, v.IsBlobs xs ∧ s = .blobs xs :=
    fun s => encode_eq_ok_iff.trans blobsOfJson_eq_ok_iff
  refine ⟨?_, hok, ?_⟩
  · rw [← Json.Value.exists_isBlobs_iff]
    constructor
    · rintro ⟨s, hs⟩
      obtain ⟨xs, hxs, -⟩ := (hok s).1 hs
      exact ⟨xs, hxs⟩
    · rintro ⟨xs, hxs⟩
      exact ⟨_, (hok _).2 ⟨xs, hxs, rfl⟩⟩
  · intro error
    rw [encode_eq_error_iff]
    exact exists_congr fun fault => and_congr_left' blobsOfJson_eq_error_iff

/-- A list that is not of lists throughout is meant as bytes, so its first list is at fault. -/
example : blobsOfJson (.array [.array [], .number (.int 1)]) =
    .error (.unexpected .byte "an array") := rfl

end Encoding

end Columnar
