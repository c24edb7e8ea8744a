import Columnar.Proofs.Component.Canonical
import Columnar.Proofs.Record.Reachable

/-!
# Batches of fields

Whatever the components of an archetype, also those whose encoding gives another type than theirs,
the batches of its records have the types of their fields, and nothing is missing in them.

## Main statements

- `Series.Complete`: a series in which nothing is missing that has to be there.
- `Series.complete_of_nullCount`: a series without nulls is complete.
- `Component.complete_of_convert`: what a component converts has its type and is complete.
- `Record.Reachable.complete`: so have the batches of a record, which has one state for each field.
-/

namespace Columnar

/-! ## Complete series -/

/-- Nothing is missing in a series: no element is null, its vectors have all three components, and
its image formats have both sizes. The two codes of a format may be null. -/
structure Series.Complete (s : Series) : Prop where
  elements : ∀ c ∈ s.cells, c.isMissing = false
  vectors : s.type = Vec3.type → ∀ c ∈ s.cells, ∃ v : Vec3, c = v.cell
  formats : s.type = ImageFormat.type → ∀ c ∈ s.cells, ∃ (width height : Int) (codes : List Cell),
    c = .record (.atom (.int width) :: .atom (.int height) :: codes)

theorem Cell.exists_int_of_fits {c : Cell} (h : c.fits .uint32 = true) (hc : c.isMissing = false) :
    ∃ i, c = .atom (.int i) := by
  obtain ⟨a, ha, rfl⟩ := exists_atom_of_fits h hc
  cases a with
  | int i => exact ⟨i, rfl⟩
  | _ => cases ha

theorem Cell.exists_sizes_of_fits {c : Cell} (h : c.fits ImageFormat.type = true)
    (hc : c.isMissing = false) : ∃ (width height : Int) (codes : List Cell),
      c = .record (.atom (.int width) :: .atom (.int height) :: codes) := by
  cases c with
  | null => cases hc
  | atom a => simp [fits, ImageFormat.type] at h
  | list items => simp [fits, ImageFormat.type] at h
  | entry value => simp [fits, ImageFormat.type] at h
  | record cells =>
    simp only [fits, ImageFormat.type] at h
    obtain _ | ⟨w, _ | ⟨h', codes⟩⟩ := cells
    · simp [eachFits, ImageFormat.members] at h
    · simp [eachFits, ImageFormat.members] at h
    -- The first two members of the type are not nullable, unlike the codes behind them.
    · simp only [eachFits, ImageFormat.members, Bool.false_or, Bool.and_eq_true,
        Bool.not_eq_true'] at h
      obtain ⟨⟨hw, fw⟩, ⟨hh, fh⟩, -⟩ := h
      obtain ⟨width, rfl⟩ := exists_int_of_fits fw hw
      obtain ⟨height, rfl⟩ := exists_int_of_fits fh hh
      exact ⟨width, height, codes, rfl⟩

/-- Parts that are not nullable are in every element, so it is enough that no element is null. -/
theorem Series.complete_of_nullCount {s : Series} (h : s.nullCount = 0) : s.Complete where
  elements := nullCount_eq_zero_iff.1 h
  vectors := by
    intro ht c hc
    obtain ⟨v, rfl⟩ := mem_range_vec3 ht h c hc
    exact ⟨v, rfl⟩
  formats := by
    intro ht c hc
    have hfits : c.fits ImageFormat.type = true := ht ▸ fits_of_mem hc
    exact Cell.exists_sizes_of_fits hfits (nullCount_eq_zero_iff.1 h c hc)

theorem Series.nullCount_empty (type : DataType) : (empty type).nullCount = 0 := by
  rw [nullCount_eq, cells_empty, List.countP_nil]

theorem Component.complete_of_convert {c : Component} {input : Input} {s : Series}
    (h : c.convert input = .ok s) : s.type = c.type ∧ s.Complete := by
  obtain ⟨htake, ht⟩ := convert_eq_ok_iff.1 h
  exact ⟨ht, Series.complete_of_nullCount (Encoding.canonical_of_take htake).nullCount⟩

/-! ## States of records -/

/-- The batch of a state has the type of its field's component, and it is complete. -/
def FieldState.Sound (f : FieldSpec) (s : FieldState) : Prop :=
  ∀ b, s.batch? = some b → b.values.type = f.component.type ∧ b.values.Complete

namespace Record

variable {a : Archetype} {r : Record}

theorem settles_sound (a : Archetype) : Settles a fun f s => s.Sound f where
  unset f b hb := by cases hb
  cleared f b hb := by
    cases hb
    exact ⟨Series.type_empty _, Series.complete_of_nullCount (Series.nullCount_empty _)⟩
  convert f input s h b hb := by
    obtain ⟨values, hvalues, rfl⟩ := convertField_eq_ok_iff.1 h
    rw [FieldState.batch?_ofBatch] at hb
    cases hb
    exact Component.complete_of_convert hvalues

/-- A record has one state for each field. A state that is set has a batch of the field: of exactly
the type of the field's component, with nothing missing in it, and without values if and only if the
field is cleared. -/
theorem Reachable.complete (reach : Reachable a r) :
    r.archetype = a ∧ r.states.length = a.fields.length ∧
      ∀ (i : Nat) f s, a.fields[i]? = some f → r.states[i]? = some s →
        s.Suits (.forField a.name f.name f.component.name) ∧ s.Sound f := by
  have hsuits := reach.suits
  have hsound := reach.holds (settles_sound a)
  refine ⟨hsuits.archetype, hsuits.states.length_eq.symm, ?_⟩
  intro i f s hf hs
  exact ⟨hsuits.of_getElem? hf hs, hsound.of_getElem? hf hs⟩

/-- A capsule that is moved along an axis. -/
def movedCapsule : Record where
  archetype := .capsules3D
  states :=
    [.unset, .unset,
      .present ⟨.forField "arche.archetypes.Capsules3D" "translations"
        "arche.components.Translation3D", Vec3.series [⟨⟨0⟩, ⟨0⟩, ⟨0x3f800000⟩⟩]⟩]

/-- Translations of double precision, whose type would allow for nulls. -/
def wideTranslations : Series where
  type := .fixedSizeList ⟨"component", .float64, true⟩ 3
  elements := .cells
    [.list [.atom (.double ⟨0⟩), .atom (.double ⟨0⟩), .atom (.double ⟨0x3ff0000000000000⟩)]]
  fit := by decide

theorem Reachable.complete_movedCapsule :
    Reachable .capsules3D movedCapsule ∧ movedCapsule.states.length = 3 ∧
      ∃ f s, Archetype.capsules3D.fields[2]? = some f ∧ movedCapsule.states[2]? = some s ∧
        s.Suits (.forField "arche.archetypes.Capsules3D" f.name f.component.name) ∧ s.Sound f := by
  have reach : Reachable .capsules3D movedCapsule :=
    .tryConstruct [("translations", .ofSeries wideTranslations)] (by decide +kernel)
  obtain ⟨-, hlength, hstates⟩ := reach.complete
  exact ⟨reach, hlength, _, _, rfl, rfl, hstates 2 _ _ rfl rfl⟩

end Record

end Columnar
