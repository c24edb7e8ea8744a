import Columnar.Proofs.Component.Count
import Columnar.Proofs.Record.Entries

/-!
# Values that clear

A raw value that is empty clears the field it is given to, and any other one makes the field
present. The exception are bytes in a series, which are one blob even if there are no bytes.

## Main statements

- `Record.Settled`: the state that a raw value gives a field.
- `Record.settled_of_gives`, `Record.settled_of_lastEntry`: one value, and the last of several.
- `Record.tryConstruct_settles`: construction from values for fields.
- `Record.tryConstruct_presents_no_bytes`: a series without elements that does not clear.
-/

namespace Columnar

theorem Component.length_of_convert {c : Component} {input : Input} {values : Series}
    (h : c.convert input = .ok values) : values.length = c.encoding.count input :=
  Encoding.length_of_take (convert_eq_ok_iff.1 h).1

theorem Component.eq_empty_of_convert {c : Component} {input : Input} {values : Series}
    (h : c.convert input = .ok values) (hlength : values.length = 0) : values = c.empty := by
  rw [empty, ← (convert_eq_ok_iff.1 h).2]
  exact Series.eq_empty_of_length hlength

namespace Record

variable {a : Archetype} {f : FieldSpec} {input : Input} {s : FieldState}

/-- The state that a raw value gives a field: it is cleared by what is empty and present otherwise,
with as many values as the raw value is. Bytes that are gathered in a blob are not empty. -/
structure Settled (a : Archetype) (f : FieldSpec) (input : Input) (s : FieldState) : Prop where
  cleared_iff : s = .cleared (a.emptyBatch f) ↔
    input.isEmpty = true ∧ f.component.encoding.gathers input = false
  present_iff : (∃ b, s = .present b) ↔
    ¬ (input.isEmpty = true ∧ f.component.encoding.gathers input = false)
  length : ∀ b, s.batch? = some b → b.length = f.component.encoding.count input

theorem settled_of_gives {clearUnset : Bool} (h : a.Gives clearUnset f (some input) s) :
    Settled a f input s := by
  cases h with
  | @empty _ values h hlength =>
    have hcount : f.component.encoding.count input = 0 := by
      rw [← Component.length_of_convert h, hlength]
    have hempty := Encoding.count_eq_zero_iff.1 hcount
    rw [Component.eq_empty_of_convert h hlength]
    refine ⟨⟨fun _ => hempty, fun _ => rfl⟩, ⟨?_, fun hne => absurd hempty hne⟩, ?_⟩
    · rintro ⟨b, hb⟩
      cases hb
    · intro b hb
      cases hb
      exact (a.length_emptyBatch f).trans hcount.symm
  | @values _ values h hlength =>
    have hcount := Component.length_of_convert h
    have hne : ¬ (input.isEmpty = true ∧ f.component.encoding.gathers input = false) := by
      rw [← Encoding.count_eq_zero_iff, ← hcount]
      exact hlength
    refine ⟨⟨?_, fun hempty => absurd hempty hne⟩, ⟨fun _ => hne, fun _ => ⟨_, rfl⟩⟩, ?_⟩
    · intro hs
      cases hs
    · intro b hb
      cases hb
      exact hcount

theorem settled_of_lastEntry {fields : List (String × Input)} {r : Record} {e : Entry}
    {i : Fin a.fields.length} (h : tryConstruct a fields = .ok r)
    (hlast : a.lastEntry? (entriesOf fields) i = some e) (hvalue : e.value = some input) :
    ∃ s, r.states[i.val]? = some s ∧ Settled a (a.fields.get i) input s := by
  obtain ⟨s, hs, hleaves⟩ := exists_state_of_tryFromFields h i
  refine ⟨s, hs, ?_⟩
  cases hleaves with
  | decided hlast' hgives =>
    cases hlast.symm.trans hlast'
    rw [hvalue] at hgives
    exact settled_of_gives hgives
  | kept hnone => cases hlast.symm.trans hnone

theorem exists_tryConstruct_one {name : String} {i : Fin a.fields.length} {values : Series}
    (hi : a.fieldIndex? name = some i)
    (h : (a.fields.get i).component.convert input = .ok values) :
    ∃ r, tryConstruct a [(name, input)] = .ok r :=
  (exists_apply_iff false).2 (List.forall_mem_singleton.2 (Archetype.takes_of_convert hi h))

/-- A value that the component of a field accepts can be given to the field. Of several values that
are given to a field the last one decides: the field is cleared exactly if the value is empty, and
present otherwise. Bytes that are gathered in a blob are not empty. -/
theorem tryConstruct_settles (a : Archetype) (i : Fin a.fields.length) (input : Input) :
    (∀ name values, a.fieldIndex? name = some i →
      (a.fields.get i).component.convert input = .ok values →
      ∃ r s, tryConstruct a [(name, input)] = .ok r ∧ r.states[i.val]? = some s ∧
        Settled a (a.fields.get i) input s) ∧
    ∀ fields r e, tryConstruct a fields = .ok r → a.lastEntry? (entriesOf fields) i = some e →
      e.value = some input →
      ∃ s, r.states[i.val]? = some s ∧ Settled a (a.fields.get i) input s := by
  refine ⟨?_, ?_⟩
  · intro name values hi h
    obtain ⟨r, hr⟩ := exists_tryConstruct_one hi h
    have hlast : a.lastEntry? (entriesOf [(name, input)]) i = some ⟨name, some input⟩ :=
      Archetype.lastEntry?_cons_of_eq hi
    obtain ⟨s, hs, hsettled⟩ := settled_of_lastEntry hr hlast rfl
    exact ⟨r, s, hr, hs, hsettled⟩
  · intro fields r e h hlast hvalue
    exact settled_of_lastEntry h hlast hvalue

/-- No blobs clear the buffer of an image. -/
theorem tryConstruct_settles_no_blobs :
    ∃ r b, tryConstruct .segmentationImage [("buffer", .json (.array []))] = .ok r ∧
      r.state? "buffer" = some (.cleared b) ∧ b.values = .blobs [] := by
  obtain ⟨hone, -⟩ := tryConstruct_settles .segmentationImage ⟨0, by decide⟩ (.json (.array []))
  obtain ⟨r, s, hr, hs, hsettled⟩ := hone "buffer" _ rfl rfl
  have hcleared := hsettled.cleared_iff.2 ⟨rfl, rfl⟩
  rw [hcleared] at hs
  cases hr
  exact ⟨_, _, rfl, hs, rfl⟩

/-- A series of bytes without elements makes the buffer present, with one blob of no bytes. -/
theorem tryConstruct_presents_no_bytes :
    (Input.ofSeries (.bytes [])).isEmpty = true ∧
      ∃ r b, tryConstruct .segmentationImage [("buffer", .ofSeries (.bytes []))] = .ok r ∧
        r.state? "buffer" = some (.present b) ∧ b.values = .blobs [[]] :=
  ⟨rfl, _, _, rfl, rfl, rfl⟩

end Record

end Columnar
