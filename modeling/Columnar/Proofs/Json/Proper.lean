import Columnar.Json.Reader
import Columnar.Proofs.Number.Integers

/-!
# JSON values as they are read

A text may hold integers of any size and objects with a key twice, but the value that is read from
it does not: an integer is kept as one only within sixty-four bits, and of the entries with one key
the last. So the numbers of a value are finite in double precision.

## Main statements

- `Number.Proper`, `Value.Proper`: numbers and values without either.
- `Number.Proper.isFinite`: such numbers are finite in double precision.
- `Value.proper_of_read`: no others are read.
-/

namespace Columnar.Json

/-- An integer of sixty-four bits, with or without a sign, or a floating-point number. -/
def Number.Proper : Number → Prop
  | .int i => -0x8000000000000000 ≤ i ∧ i ≤ 0xffffffffffffffff
  | .real _ _ => True

/-- A value with proper numbers, and with no key twice in one object. -/
inductive Value.Proper : Value → Prop
  | null : Proper .null
  | bool (b : Bool) : Proper (.bool b)
  | number {n : Number} (h : n.Proper) : Proper (.number n)
  | string (s : String) : Proper (.string s)
  | array {items : List Value} (h : ∀ v ∈ items, Proper v) : Proper (.array items)
  | object {entries : List (String × Value)} (hkeys : (entries.map Prod.fst).Nodup)
      (h : ∀ entry ∈ entries, Proper entry.2) : Proper (.object entries)

theorem Number.Proper.isFinite {n : Number} (h : n.Proper) : n.toDouble.isFinite = true := by
  cases n with
  | int i =>
    obtain ⟨hlow, hhigh⟩ := h
    exact Double.isFinite_ofInt (by omega) (by omega)
  | real x finite => exact finite

/-! ## Numbers -/

section Numbers

variable {negative : Bool} {digits : Nat} {exponent : Int} {n : Number} {s rest : Bytes}

theorem proper_of_realNumber (h : realNumber negative digits exponent s = .ok (n, rest)) :
    n.Proper := by
  unfold realNumber at h
  dsimp only at h
  split at h
  · cases h
    exact trivial
  · cases h

theorem proper_of_readExponent (h : readExponent negative digits exponent s = .ok (n, rest)) :
    n.Proper := by
  unfold readExponent at h
  split at h
  split at h
  · cases h
  · split at h
    · split at h
      · exact proper_of_realNumber h
      · split at h
        · cases h
        · exact proper_of_realNumber h
    · cases h

theorem proper_of_readFraction (h : readFraction negative digits s = .ok (n, rest)) :
    n.Proper := by
  unfold readFraction at h
  split at h
  · dsimp only at h
    split at h
    · split at h <;> cases h
    · split at h
      · exact proper_of_readExponent h
      · exact proper_of_readExponent h
      · exact proper_of_realNumber h
  · exact proper_of_readExponent h
  · exact proper_of_readExponent h
  · -- Neither a point nor an exponent follows, so the digits are an integer if they are few enough.
    split at h
    · split at h
      · cases h
        constructor <;> omega
      · exact proper_of_realNumber h
    · split at h
      · next hdigits =>
        cases h
        rw [Text.maxUnsigned] at hdigits
        constructor <;> omega
      · exact proper_of_realNumber h

theorem proper_of_readNumber (h : readNumber negative s = .ok (n, rest)) : n.Proper := by
  unfold readNumber at h
  split at h
  · cases h
  · split at h
    · split at h
      · split at h
        · cases h
        · exact proper_of_readFraction h
      · exact proper_of_readFraction h
    · split at h
      · exact proper_of_readFraction h
      · cases h

end Numbers

/-! ## Objects -/

section Objects

variable {key k : String} {v : Value} {entries : List (String × Value)}

theorem mem_insertEntry {entry : String × Value} (h : entry ∈ insertEntry key v entries) :
    entry = (key, v) ∨ entry ∈ entries := by
  induction entries with
  | nil => exact .inl (List.mem_singleton.1 h)
  | cons head entries ih =>
    obtain ⟨k, w⟩ := head
    unfold insertEntry at h
    split at h
    · exact (List.mem_cons.1 h).imp_right (List.mem_cons_of_mem _)
    · split at h
      · exact List.mem_cons.1 h
      · obtain hhead | htail := List.mem_cons.1 h
        · exact .inr (hhead ▸ List.mem_cons_self)
        · exact (ih htail).imp_right (List.mem_cons_of_mem _)

theorem mem_keys_insertEntry (h : k ∈ (insertEntry key v entries).map Prod.fst) :
    k = key ∨ k ∈ entries.map Prod.fst := by
  obtain ⟨entry, hentry, rfl⟩ := List.mem_map.1 h
  obtain rfl | hold := mem_insertEntry hentry
  · exact .inl rfl
  · exact .inr (List.mem_map_of_mem hold)

/-- The keys of an object are kept in ascending order. -/
theorem pairwise_insertEntry (h : (entries.map Prod.fst).Pairwise (· < ·)) :
    ((insertEntry key v entries).map Prod.fst).Pairwise (· < ·) := by
  induction entries with
  | nil => exact List.pairwise_singleton _ _
  | cons head entries ih =>
    obtain ⟨k, w⟩ := head
    obtain ⟨hhead, htail⟩ := List.pairwise_cons.1 h
    unfold insertEntry
    split
    · next hkey => exact List.pairwise_cons.2 ⟨hkey ▸ hhead, htail⟩
    · next hne =>
      split
      · next hlt =>
        refine List.pairwise_cons.2 ⟨?_, h⟩
        intro k' hk'
        obtain rfl | hmem := List.mem_cons.1 hk'
        · exact hlt
        · exact String.lt_trans hlt (hhead k' hmem)
      · next hnlt =>
        refine List.pairwise_cons.2 ⟨?_, ih htail⟩
        intro k' hk'
        obtain rfl | hmem := mem_keys_insertEntry hk'
        · by_contra hle
          exact hne (String.le_antisymm (String.not_lt.1 hle) (String.not_lt.1 hnlt))
        · exact hhead k' hmem

theorem proper_of_entries (hkeys : (entries.map Prod.fst).Pairwise (· < ·))
    (h : ∀ entry ∈ entries, entry.2.Proper) : (Value.object entries).Proper :=
  .object (hkeys.imp String.ne_of_lt) h

end Objects

/-! ## Parts of a text -/

/-- Every value that is read has a property. -/
def Read.Gives {α : Type} {s : Bytes} (x : Read α s) (P : α → Prop) : Prop :=
  ∀ a r, x = .ok (a, r) → P a

section Parts

variable {α : Type} {P : α → Prop} {s t : Bytes} {item : (s : Bytes) → Read Value s}

theorem Read.gives_weaken {h : t.length ≤ s.length} {x : Read α t} (hx : x.Gives P) :
    (x.weaken h).Gives P := by
  intro a r ha
  unfold weaken at ha
  split at ha
  · next b u hu =>
    cases ha
    exact hx a _ rfl
  · cases ha

theorem Read.gives_ite {c : Prop} [Decidable c] {x y : Read α s} (hx : x.Gives P)
    (hy : y.Gives P) : Read.Gives (if c then x else y) P := by
  split
  · exact hx
  · exact hy

theorem gives_faultOn (defect : Defect) (rest : Bytes) :
    Read.Gives (s := s) (faultOn defect rest) P := by
  intro a r h
  cases h

theorem gives_readItems (hitem : ∀ s, (item s).Gives Value.Proper) (acc : List Value) (s : Bytes)
    (hacc : ∀ v ∈ acc, v.Proper) :
    (readItems item acc s).Gives fun items => ∀ v ∈ items, v.Proper := by
  intro items rest h
  unfold readItems at h
  split at h
  · cases h
  · next v r hr hv =>
    have hacc' : ∀ w ∈ v :: acc, w.Proper := List.forall_mem_cons.2 ⟨hitem s v _ hv, hacc⟩
    dsimp only at h
    split at h
    · cases h
    · next b t ht _ _ =>
      split at h
      · cases h
        exact fun w hw => hacc' w (List.mem_reverse.1 hw)
      · split at h
        · split at h
          · cases h
          · next c u hu _ _ =>
            split at h
            · cases h
            · split at h
              · cases h
              · next items' r' hr' hitems =>
                cases h
                have hlt : (c :: u).length < s.length := by
                  simp only [List.length_cons] at ht hu ⊢
                  omega
                exact gives_readItems hitem (v :: acc) (c :: u) hacc' _ _ hitems
        · cases h
termination_by s.length
decreasing_by exact hlt

theorem gives_readEntry (hitem : ∀ s, (item s).Gives Value.Proper) (s : Bytes) :
    (readEntry item s).Gives fun entry => entry.2.Proper := by
  intro entry rest h
  unfold readEntry at h
  split at h
  · cases h
  · split at h
    · cases h
    · split at h
      · cases h
      · dsimp only at h
        split at h
        · cases h
        · split at h
          · split at h
            · cases h
            · next v r hr hv =>
              cases h
              exact hitem _ v _ hv
          · cases h

theorem gives_readEntries (hitem : ∀ s, (item s).Gives Value.Proper)
    (acc : List (String × Value)) (s : Bytes) (hkeys : (acc.map Prod.fst).Pairwise (· < ·))
    (hacc : ∀ entry ∈ acc, entry.2.Proper) :
    (readEntries item acc s).Gives fun entries =>
      (entries.map Prod.fst).Pairwise (· < ·) ∧ ∀ entry ∈ entries, entry.2.Proper := by
  intro entries rest h
  unfold readEntries at h
  split at h
  · cases h
  · next key v r hr hentry =>
    have hkeys' : ((insertEntry key v acc).map Prod.fst).Pairwise (· < ·) :=
      pairwise_insertEntry hkeys
    have hacc' : ∀ entry ∈ insertEntry key v acc, entry.2.Proper := by
      intro entry hmem
      obtain rfl | hold := mem_insertEntry hmem
      · exact gives_readEntry hitem s _ _ hentry
      · exact hacc entry hold
    dsimp only at h
    split at h
    · cases h
    · next b t ht _ _ =>
      split at h
      · cases h
        exact ⟨hkeys', hacc'⟩
      · split at h
        · split at h
          · cases h
          · next c u hu _ _ =>
            split at h
            · cases h
            · split at h
              · cases h
              · next entries' r' hr' hentries =>
                cases h
                have hlt : (c :: u).length < s.length := by
                  simp only [List.length_cons] at ht hu ⊢
                  omega
                exact gives_readEntries hitem _ (c :: u) hkeys' hacc' _ _ hentries
        · cases h
termination_by s.length
decreasing_by exact hlt

theorem gives_readList (hitem : ∀ s, (item s).Gives Value.Proper) (s : Bytes) :
    (readList item s).Gives Value.Proper := by
  intro v rest h
  unfold readList at h
  dsimp only at h
  split at h
  · cases h
  · split at h
    · cases h
      exact .array (List.forall_mem_nil _)
    · split at h
      · next items r hr hitems =>
        cases h
        exact .array (gives_readItems hitem [] _ (List.forall_mem_nil _) _ _ hitems)
      · cases h

theorem gives_readObject (hitem : ∀ s, (item s).Gives Value.Proper) (s : Bytes) :
    (readObject item s).Gives Value.Proper := by
  intro v rest h
  unfold readObject at h
  dsimp only at h
  split at h
  · cases h
  · split at h
    · cases h
      exact proper_of_entries .nil (List.forall_mem_nil _)
    · split at h
      · next entries r hr hentries =>
        cases h
        have hproper := gives_readEntries hitem [] _ .nil (List.forall_mem_nil _) _ _ hentries
        exact proper_of_entries hproper.1 hproper.2
      · cases h

theorem gives_readConstant {v : Value} (hv : v.Proper) (word : Bytes) (b : UInt8) (s : Bytes) :
    (readConstant word v b s).Gives Value.Proper := by
  intro w rest h
  unfold readConstant at h
  split at h
  · cases h
    exact hv
  · cases h

theorem gives_readNumberValue (negative : Bool) (digits s : Bytes) :
    (readNumberValue negative digits s).Gives Value.Proper := by
  intro v rest h
  unfold readNumberValue at h
  split at h
  · next n r hn =>
    split at h
    · cases h
      exact .number (proper_of_readNumber hn)
    · cases h
  · cases h

theorem gives_readStringValue (b : UInt8) (s : Bytes) :
    Read.Gives (s := b :: s)
      (match readString s with
        | .ok (text, ⟨r, h⟩) => .ok (.string text, ⟨r, Nat.lt_succ_of_lt h⟩)
        | .error e => .error e) Value.Proper := by
  intro v rest h
  split at h
  · cases h
    exact .string _
  · cases h

end Parts

/-! ## Whole texts -/

theorem gives_readValue (depth : Nat) (s : Bytes) : (readValue depth s).Gives Value.Proper := by
  unfold readValue
  refine Read.gives_weaken ?_
  generalize skipBlanks s = t
  cases t with
  | nil => exact nofun
  | cons b r =>
    refine Read.gives_ite (gives_readConstant .null _ _ _) ?_
    refine Read.gives_ite (gives_readConstant (.bool true) _ _ _) ?_
    refine Read.gives_ite (gives_readConstant (.bool false) _ _ _) ?_
    refine Read.gives_ite (gives_readNumberValue _ _ _) ?_
    refine Read.gives_ite (gives_readNumberValue _ _ _) ?_
    refine Read.gives_ite (gives_readStringValue b r) ?_
    match depth with
    | 0 =>
      refine Read.gives_ite (gives_faultOn _ _) (Read.gives_ite (gives_faultOn _ _) ?_)
      exact gives_faultOn _ _
    | depth + 1 =>
      refine Read.gives_ite (Read.gives_weaken ?_) (Read.gives_ite (Read.gives_weaken ?_) ?_)
      · exact gives_readList (gives_readValue depth) r
      · exact gives_readObject (gives_readValue depth) r
      · exact gives_faultOn _ _

theorem Value.proper_of_read {s : Bytes} {v : Value} (h : Value.read s = .ok v) : v.Proper := by
  unfold Value.read at h
  dsimp only at h
  split at h
  · cases h
  · next w r hr hw =>
    split at h
    · cases h
      exact gives_readValue maxDepth s _ _ hw
    · cases h

end Columnar.Json
