import Columnar.Image.Reading
import Columnar.Proofs.Traversal
import Mathlib.Data.List.Nodup

/-!
# Reading the object of a format

The entries of an object are taken into account one after the other, each of them for a member of
its own. The object that a format is written as has an entry for every member, so the format is read
back from it.

## Main statements

- `find?_key_eq_some_iff`: keys tell the values of a list apart.
- `Draft.add_width` and its like: what an entry adds.
- `readSize_ofNat`, `readColorModel_ofString?`, `readChannelType_ofString?`: members are read back.
- `read_toJson`: so is the format.
-/

namespace Columnar

/-! ## Names and codes -/

/-- In a list of all values with different keys, the value that is found has the key that is looked
for. -/
theorem find?_key_eq_some_iff {α κ : Type} [DecidableEq κ] {all : List α} {key : α → κ}
    (hall : ∀ a, a ∈ all) (hkeys : (all.map key).Nodup) {k : κ} {a : α} :
    (all.find? fun b => key b == k) = some a ↔ k = key a := by
  constructor
  · intro h
    have hkey := List.find?_some h
    exact (eq_of_beq hkey).symm
  · rintro rfl
    obtain ⟨b, hb⟩ : ∃ b, (all.find? fun b => key b == key a) = some b := by
      rw [← Option.isSome_iff_exists, List.find?_isSome]
      exact ⟨a, hall a, beq_self_eq_true _⟩
    have hkey := List.find?_some hb
    rw [hb, List.inj_on_of_nodup_map hkeys (hall b) (hall a) (eq_of_beq hkey)]

theorem ColorModel.mem_all (m : ColorModel) : m ∈ ColorModel.all := by
  cases m <;> decide

theorem ChannelType.mem_all (t : ChannelType) : t ∈ ChannelType.all := by
  cases t <;> decide

namespace ImageFormat

/-! ## Members -/

theorem readSize_ofNat (n : UInt32) : readSize (.ofNat n.toNat) = .ok n := by
  have hn : (0 : Int) ≤ n.toNat ∧ (n.toNat : Int) ≤ 0xffffffff := by
    have h := n.toNat_lt
    omega
  rw [Json.Value.ofNat, readSize, if_pos hn, Int.toNat_natCast]
  exact congrArg Except.ok UInt32.ofNat_toNat

theorem readColorModel_ofString? (m : Option ColorModel) :
    readOptional readColorModel (some (.ofString? (m.map ColorModel.name))) = .ok m := by
  cases m with
  | none => rfl
  | some m => cases m <;> rfl

theorem readChannelType_ofString? (t : Option ChannelType) :
    readOptional readChannelType (some (.ofString? (t.map ChannelType.name))) = .ok t := by
  cases t with
  | none => rfl
  | some t => cases t <;> rfl

/-! ## Entries -/

namespace Draft

variable {d : Draft} {v : Json.Value}

theorem add_width {n : UInt32} (h : readSize v = .ok n) :
    d.add "width" v = .ok { d with width := some n } := by
  simp only [add, if_true, h]
  rfl

theorem add_height {n : UInt32} (h : readSize v = .ok n) :
    d.add "height" v = .ok { d with height := some n } := by
  simp only [add, String.reduceEq, if_false, if_true, h]
  rfl

theorem add_colorModel {m : Option ColorModel}
    (h : readOptional readColorModel (some v) = .ok m) :
    d.add "color_model" v = .ok { d with colorModel := m } := by
  simp only [add, String.reduceEq, if_false, if_true, h]
  rfl

theorem add_channelType {t : Option ChannelType}
    (h : readOptional readChannelType (some v) = .ok t) :
    d.add "channel_datatype" v = .ok { d with channelType := t } := by
  simp only [add, String.reduceEq, if_false, if_true, h]
  rfl

end Draft

/-- A format is read back from its object. -/
theorem read_toJson (f : ImageFormat) : read f.toJson = .ok f := by
  show ofEntries _ = _
  refine bind_eq_ok_iff.2 ⟨⟨some f.width, some f.height, f.colorModel, f.channelType⟩, ?_, rfl⟩
  have ht := Draft.add_channelType (d := .blank) (readChannelType_ofString? f.channelType)
  refine bind_eq_ok_iff.2 ⟨_, ht, ?_⟩
  refine bind_eq_ok_iff.2 ⟨_, Draft.add_colorModel (readColorModel_ofString? f.colorModel), ?_⟩
  refine bind_eq_ok_iff.2 ⟨_, Draft.add_height (readSize_ofNat f.height), ?_⟩
  exact bind_eq_ok_iff.2 ⟨_, Draft.add_width (readSize_ofNat f.width), rfl⟩

end ImageFormat

end Columnar
