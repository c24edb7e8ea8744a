import Columnar.Data.Content
import Columnar.Proofs.Component.Forms

/-!
# The columns of image formats

A series of formats keeps each member of them in a column of its own, and of the color model and the
element type only the codes. The codes tell names apart and the columns stay in step, so the formats
are read back from the columns. Two lists of formats are therefore equal if the columns of their
series hold the same.

## Main statements

- `ColorModel.ofCode?`, `ChannelType.ofCode?`: the names that have a code.
- `Series.column`, `Series.formats?`: the members of one name, and the formats that are put together
  from four columns.
- `formats?_series`: formats are read back from their series.
- `column_eq_of_same`, `eq_of_same`: series of formats that hold the same have the same columns, and
  are of the same formats.
- `formats_survive`: both encodings of formats determine them.
-/

namespace Columnar

/-! ## Codes -/

def ColorModel.ofCode? (code : UInt8) : Option ColorModel :=
  ColorModel.all.find? fun m => m.code == code

def ChannelType.ofCode? (code : UInt8) : Option ChannelType :=
  ChannelType.all.find? fun t => t.code == code

theorem ColorModel.ofCode?_eq_some_iff {code : UInt8} {m : ColorModel} :
    ColorModel.ofCode? code = some m ↔ code = m.code :=
  find?_key_eq_some_iff ColorModel.mem_all (by decide)

theorem ChannelType.ofCode?_eq_some_iff {code : UInt8} {t : ChannelType} :
    ChannelType.ofCode? code = some t ↔ code = t.code :=
  find?_key_eq_some_iff ChannelType.mem_all (by decide)

/-! ## Reading columns -/

namespace Cell

/-- A number without a sign up to a largest one. -/
def unsigned? (largest : Int) : Cell → Option Nat
  | .atom (.int i) => if 0 ≤ i ∧ i ≤ largest then some i.toNat else none
  | _ => none

def size? (c : Cell) : Option UInt32 := (c.unsigned? 0xffffffff).map UInt32.ofNat

/-- What a code stands for, or nothing if there is none. -/
def named? {α : Type} (ofCode? : UInt8 → Option α) : Cell → Option (Option α)
  | .null => some none
  | c => do
    let code ← c.unsigned? 0xff
    let a ← ofCode? (.ofNat code)
    some (some a)

end Cell

namespace Series

/-- The members of one name, one for each record. -/
def column (name : String) (s : Series) : List Cell :=
  match s.type with
  | .struct fields =>
    s.cells.map fun c => c.members.getD (fields.findIdx fun f => f.name == name) .null
  | _ => []

/-- The formats whose members are in four columns, row by row. -/
def formats? (s : Series) : Option (List ImageFormat) := do
  let widths ← (s.column "width").mapM Cell.size?
  let heights ← (s.column "height").mapM Cell.size?
  let models ← (s.column "color_model").mapM (Cell.named? ColorModel.ofCode?)
  let types ← (s.column "channel_datatype").mapM (Cell.named? ChannelType.ofCode?)
  some ((widths.zip (heights.zip (models.zip types))).map fun row =>
    ⟨row.1, row.2.1, row.2.2.1, row.2.2.2⟩)

end Series

namespace ImageFormat

variable {fs gs : List ImageFormat}

/-! ## Reading formats back -/

theorem column_series {name : String} {i : Nat}
    (hi : (members.findIdx fun m => m.name == name) = i) (fs : List ImageFormat) :
    (series fs).column name = fs.map fun f => f.cell.members.getD i .null := by
  subst hi
  show (fs.map cell).map _ = _
  rw [List.map_map]
  rfl

theorem size?_toNat (n : UInt32) : Cell.size? (.atom (.int n.toNat)) = some n := by
  have hn : (0 : Int) ≤ n.toNat ∧ (n.toNat : Int) ≤ 0xffffffff := by
    have h := n.toNat_lt
    omega
  rw [Cell.size?, Cell.unsigned?, if_pos hn, Int.toNat_natCast, Option.map_some,
    UInt32.ofNat_toNat]

theorem named?_codeCell {α : Type} {code : α → UInt8} {ofCode? : UInt8 → Option α}
    (h : ∀ a, ofCode? (code a) = some a) (a : Option α) :
    Cell.named? ofCode? (codeCell (a.map code)) = some a := by
  cases a with
  | none => rfl
  | some a =>
    have hcode : (0 : Int) ≤ (code a).toNat ∧ ((code a).toNat : Int) ≤ 0xff := by
      have h := (code a).toNat_lt
      omega
    simp only [Option.map_some, codeCell, Cell.named?, Cell.unsigned?, if_pos hcode,
      Int.toNat_natCast, Option.bind_eq_bind, Option.bind_some, UInt8.ofNat_toNat, h]

/-- A column is read element by element. -/
theorem mapM_column {α : Type} {name : String} {i : Nat} {read : Cell → Option α}
    {value : ImageFormat → α} (hi : (members.findIdx fun m => m.name == name) = i)
    (h : ∀ f, read (f.cell.members.getD i .null) = some (value f)) (fs : List ImageFormat) :
    ((series fs).column name).mapM read = some (fs.map value) := by
  rw [column_series hi]
  induction fs with
  | nil => rfl
  | cons f fs ih =>
    rw [List.map_cons, List.mapM_cons, h, ih]
    rfl

/-- Formats are read back from the columns of their series. -/
theorem formats?_series (fs : List ImageFormat) : (series fs).formats? = some fs := by
  have hmodel : ∀ m : ColorModel, ColorModel.ofCode? m.code = some m :=
    fun _ => ColorModel.ofCode?_eq_some_iff.2 rfl
  have htype : ∀ t : ChannelType, ChannelType.ofCode? t.code = some t :=
    fun _ => ChannelType.ofCode?_eq_some_iff.2 rfl
  have hwidths : ((series fs).column "width").mapM Cell.size? = some (fs.map width) :=
    mapM_column (i := 0) (by decide) (fun f => size?_toNat f.width) fs
  have hheights : ((series fs).column "height").mapM Cell.size? = some (fs.map height) :=
    mapM_column (i := 1) (by decide) (fun f => size?_toNat f.height) fs
  have hmodels : ((series fs).column "color_model").mapM (Cell.named? ColorModel.ofCode?) =
      some (fs.map colorModel) :=
    mapM_column (i := 2) (by decide) (fun f => named?_codeCell hmodel f.colorModel) fs
  have htypes : ((series fs).column "channel_datatype").mapM (Cell.named? ChannelType.ofCode?) =
      some (fs.map channelType) :=
    mapM_column (i := 3) (by decide) (fun f => named?_codeCell htype f.channelType) fs
  simp only [Series.formats?, hwidths, hheights, hmodels, htypes, Option.bind_eq_bind,
    Option.bind_some, List.zip_map', List.map_map]
  exact congrArg some (List.map_id fs)

/-! ## Equal content -/

/-- Records that hold the same hold the same in the column of each member. -/
theorem sameItems_of_sameMembers {fields : List Field} {a b : List (List Cell)}
    (h : Cell.sameMembers fields a b = true) {i : Nat} {m : Field} (hm : fields[i]? = some m) :
    Cell.sameItems m (a.map fun r => r.getD i .null) (b.map fun r => r.getD i .null) = true := by
  induction fields generalizing a b i with
  | nil => cases hm
  | cons first fields ih =>
    simp only [Cell.sameMembers, Bool.and_eq_true] at h
    obtain ⟨hfirst, hrest⟩ := h
    cases i with
    | zero =>
      cases hm
      simpa only [List.headD_eq_getD] using hfirst
    | succ i =>
      have htail := ih hrest hm
      simpa [Function.comp_def] using htail

/-- Columns of numbers that hold the same are equal. -/
theorem eq_of_sameItems {m : Field} (hm : m ∈ members) {a b : List Cell}
    (h : Cell.sameItems m a b = true) : a = b := by
  have htypes : ∀ m ∈ members, m.type = .uint32 ∨ m.type = .uint8 := by decide
  obtain ⟨name, type, nullable⟩ := m
  simp only [Cell.sameItems] at h
  obtain rfl | rfl := htypes _ hm
  all_goals
    simp only [Cell.sameRuns, Cell.sameAtoms, Bool.and_eq_true, beq_iff_eq] at h
    exact h.2

theorem column_eq_of_same (h : (series fs).same (series gs) = true) {m : Field}
    (hm : m ∈ members) : (series fs).column m.name = (series gs).column m.name := by
  have hindex : ∀ m ∈ members, members[members.findIdx fun g => g.name == m.name]? = some m := by
    decide
  have hruns : Cell.sameRuns (.struct members) (fs.map cell) (gs.map cell) = true :=
    (Bool.and_eq_true_iff.1 h).2
  have hnull : (fs.map cell).any Cell.isNull = false := by
    simp [cell, Cell.isNull]
  simp only [Cell.sameRuns, hnull, Bool.false_eq_true, if_false, Bool.and_eq_true] at hruns
  have hcolumn := eq_of_sameItems hm (sameItems_of_sameMembers hruns.2 (hindex m hm))
  rw [List.map_map, List.map_map, List.map_map, List.map_map] at hcolumn
  rw [column_series rfl, column_series rfl]
  exact hcolumn

/-- Series of formats that hold the same are of the same formats, since the formats are read from
the columns alone. -/
theorem eq_of_same (h : (series fs).same (series gs) = true) : fs = gs := by
  have hcolumns : ∀ m ∈ members, (series fs).column m.name = (series gs).column m.name :=
    fun m hm => column_eq_of_same h hm
  simp only [members, List.forall_mem_cons] at hcolumns
  obtain ⟨hwidth, hheight, hmodel, htype, -⟩ := hcolumns
  have hformats : (series fs).formats? = (series gs).formats? := by
    rw [Series.formats?, Series.formats?, hwidth, hheight, hmodel, htype]
  rw [formats?_series, formats?_series] at hformats
  exact Option.some.inj hformats

/-- A list of formats is determined by each of its encodings: the list of their objects is taken in
as their series, the formats are read back from the columns of the series, and series that hold the
same are of the same formats. -/
theorem formats_survive (fs : List ImageFormat) :
    Encoding.imageFormats.encode (.json (.array (fs.map toJson))) = .ok (series fs) ∧
      (series fs).formats? = some fs ∧
      ∀ gs, (series fs).same (series gs) = true ↔ fs = gs := by
  refine ⟨?_, formats?_series fs, fun gs => ⟨eq_of_same, ?_⟩⟩
  · exact Encoding.encode_eq_ok_iff.2 (Encoding.take_of_form (.jsonFormats fs))
  · rintro rfl
    exact Series.same_self _

end ImageFormat

end Columnar
