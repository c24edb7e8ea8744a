import Columnar.Proofs.Ingest.Rendering

/-!
# Names of columns

A column of a table is named by the text of its descriptor. The text puts the names of archetype,
field and component one after the other, with a colon and a hash sign between them and nothing to
protect these marks where they are part of a name. If no name has a mark in it, the text can be
taken apart where the marks are, and the descriptor is read back. So descriptors with the same text
are the same, and the columns of a record have different names.

## Main definitions

- `PlainName`: a name without marks.
- `Descriptor.Plain`: descriptors of plain names, made in one of the three ways.
- `Descriptor.ofText?`: reading a text.
- `Archetype.Plain`: an archetype with plain names only.

## Main statements

- `Descriptor.ofText?_text`: what is read of the text of a plain descriptor.
- `ColumnList.Laid.nodup_descriptors`, `ColumnList.nodup_texts_of_formed`: the columns of a record
  have different descriptors, and different texts.
- `Chunk.names_of_table`: how the columns of a table behind its indexes are named.
- `Descriptor.text_identifies`: the text tells the descriptor, and the name tells the column.
-/

namespace Columnar

/-! ## Plain names -/

/-- A name without the marks that stand between the names in the text of a descriptor. -/
structure PlainName (name : String) : Prop where
  noColon : ':' ∉ name.toList
  noHash : '#' ∉ name.toList

instance (name : String) : Decidable (PlainName name) :=
  decidable_of_iff (':' ∉ name.toList ∧ '#' ∉ name.toList)
    ⟨fun h => ⟨h.1, h.2⟩, fun h => ⟨h.noColon, h.noHash⟩⟩

theorem splitOn_pair {mark : Char} {before after : List Char} (hbefore : mark ∉ before)
    (hafter : mark ∉ after) : (before ++ mark :: after).splitOn mark = [before, after] := by
  rw [List.splitOn_append_cons_self_of_not_mem hbefore, List.splitOn_eq_singleton hafter]

namespace Descriptor

/-! ## Reading texts -/

/-- A descriptor of plain names: of a component on its own, of a field or of an indicator. -/
inductive Plain : Descriptor → Prop
  | bare {component : String} (hcomponent : PlainName component) : Plain (.bare component)
  | forField {archetype field component : String} (harchetype : PlainName archetype)
      (hfield : PlainName field) (hcomponent : PlainName component) :
      Plain (.forField archetype field component)
  | forIndicator {archetype component : String} (harchetype : PlainName archetype)
      (hcomponent : PlainName component) : Plain (.forIndicator archetype component)

/-- What stands before the hash sign: an archetype, or an archetype and a field. -/
def ofOwner? (owner component : List Char) : Option Descriptor :=
  match owner.splitOn ':' with
  | [archetype] => some (.forIndicator (String.ofList archetype) (String.ofList component))
  | [archetype, field] =>
    some (.forField (String.ofList archetype) (String.ofList field) (String.ofList component))
  | _ => none

/-- The descriptor that a text tells when it is taken apart at its marks. -/
def ofText? (text : String) : Option Descriptor :=
  match text.toList.splitOn '#' with
  | [component] => some (.bare (String.ofList component))
  | [owner, component] => ofOwner? owner component
  | _ => none

variable {d e : Descriptor} {archetype field component : String}

theorem ofText?_bare (hcomponent : PlainName component) :
    ofText? (text (.bare component)) = some (.bare component) := by
  have hsplit : component.toList.splitOn '#' = [component.toList] :=
    List.splitOn_eq_singleton hcomponent.noHash
  simp [ofText?, text, bare, hsplit]

theorem ofText?_forIndicator (harchetype : PlainName archetype)
    (hcomponent : PlainName component) :
    ofText? (text (.forIndicator archetype component)) =
      some (.forIndicator archetype component) := by
  have htext : (text (.forIndicator archetype component)).toList =
      archetype.toList ++ '#' :: component.toList := by
    simp [text, forIndicator]
  have hhash := splitOn_pair harchetype.noHash hcomponent.noHash
  have hcolon := List.splitOn_eq_singleton harchetype.noColon
  simp [ofText?, ofOwner?, htext, hhash, hcolon]

theorem ofText?_forField (harchetype : PlainName archetype) (hfield : PlainName field)
    (hcomponent : PlainName component) :
    ofText? (text (.forField archetype field component)) =
      some (.forField archetype field component) := by
  have htext : (text (.forField archetype field component)).toList =
      (archetype.toList ++ ':' :: field.toList) ++ '#' :: component.toList := by
    simp [text, forField]
  -- The colon is no hash sign, so the text still has a single one.
  have howner : '#' ∉ archetype.toList ++ ':' :: field.toList := by
    simp [harchetype.noHash, hfield.noHash]
  have hhash := splitOn_pair howner hcomponent.noHash
  have hcolon := splitOn_pair harchetype.noColon hfield.noColon
  simp only [ofText?, htext, hhash, ofOwner?, hcolon, String.ofList_toList]

/-- A descriptor of plain names is read back from its text. -/
theorem ofText?_text (h : d.Plain) : ofText? d.text = some d := by
  cases h with
  | bare hcomponent => exact ofText?_bare hcomponent
  | forField harchetype hfield hcomponent => exact ofText?_forField harchetype hfield hcomponent
  | forIndicator harchetype hcomponent => exact ofText?_forIndicator harchetype hcomponent

theorem eq_of_text (hd : d.Plain) (he : e.Plain) (h : d.text = e.text) : d = e := by
  have hread : some d = some e := by rw [← ofText?_text hd, h, ofText?_text he]
  exact Option.some_inj.1 hread

-- With a mark in a name, or with a field of no archetype, the text may be that of an indicator.
example : text (.forField "a" "b" "c") = text (.forIndicator "a:b" "c") ∧
    text ⟨none, some "a", "c"⟩ = text (.forIndicator "a" "c") := ⟨rfl, rfl⟩

end Descriptor

/-! ## The descriptors of an archetype -/

/-- An archetype that has plain names only. -/
structure Archetype.Plain (a : Archetype) : Prop where
  name : PlainName a.name
  indicator : PlainName a.indicator
  fields : ∀ f ∈ a.fields, PlainName f.name
  components : ∀ f ∈ a.fields, PlainName f.component.name

namespace Archetype.Plain

variable {a : Archetype}

theorem indicatorDescriptor (h : a.Plain) : a.indicatorDescriptor.Plain :=
  .forIndicator h.name h.indicator

theorem descriptor (h : a.Plain) {f : FieldSpec} (hf : f ∈ a.fields) : (a.descriptor f).Plain :=
  .forField h.name (h.fields f hf) (h.components f hf)

end Archetype.Plain

namespace ColumnList

variable {a : Archetype} {r : Record} {ns : List Nat} {l : ColumnList}

theorem Laid.cases_of_mem_descriptors (h : Laid a r ns l) {d : Descriptor}
    (hd : d ∈ l.descriptors) :
    d = a.indicatorDescriptor ∨ ∃ p ∈ r.setFields, a.descriptor p.1 = d := by
  cases h with
  | unset _ => exact absurd hd List.not_mem_nil
  | @set columns _ fields =>
    have hcases : d = a.indicatorDescriptor ∨ d ∈ columns.map Column.descriptor :=
      List.mem_cons.1 hd
    rw [map_descriptor_of_isOf fields, List.mem_map] at hcases
    exact hcases

/-- Fields have descriptors that differ in the field, and the indicator is of no field. -/
theorem Laid.nodup_descriptors (h : Laid a r ns l)
    (names : (r.setFields.map fun p => p.1.name).Nodup) : l.descriptors.Nodup := by
  cases h with
  | unset _ => exact List.nodup_nil
  | @set columns _ fields =>
    have hcolumns := map_descriptor_of_isOf fields
    have hfields : (columns.map Column.descriptor).Nodup := by
      rw [hcolumns]
      apply List.Nodup.of_map Descriptor.field
      have hsome := names.map (Option.some_injective String)
      rw [List.map_map] at hsome ⊢
      exact hsome
    have hindicator : a.indicatorDescriptor ∉ columns.map Column.descriptor := by
      intro hmem
      rw [hcolumns] at hmem
      obtain ⟨p, -, hp⟩ := List.mem_map.1 hmem
      have hfield : some p.1.name = none := congrArg Descriptor.field hp
      cases hfield
    exact List.nodup_cons.2 ⟨hindicator, hfields⟩

theorem plain_of_formed (plain : a.Plain) (reach : Record.Reachable a r) (formed : Formed r ns l)
    {d : Descriptor} (hd : d ∈ l.descriptors) : d.Plain := by
  have laid := laid_of_formed reach formed
  cases laid.cases_of_mem_descriptors hd with
  | inl hindicator =>
    rw [hindicator]
    exact plain.indicatorDescriptor
  | inr hfield =>
    obtain ⟨p, hp, rfl⟩ := hfield
    exact plain.descriptor (Record.fst_mem_of_mem_setFields reach hp)

/-- The columns of a record have different texts, whatever the way to them. -/
theorem nodup_texts_of_formed (plain : a.Plain) (names : (a.fields.map FieldSpec.name).Nodup)
    (reach : Record.Reachable a r) (formed : Formed r ns l) :
    (l.descriptors.map Descriptor.text).Nodup := by
  have laid := laid_of_formed reach formed
  have hnodup := laid.nodup_descriptors (Record.nodup_setFields reach names)
  apply hnodup.map_on
  intro d hd e he htext
  have hplain : ∀ d ∈ l.descriptors, d.Plain := fun _ hd => plain_of_formed plain reach formed hd
  exact Descriptor.eq_of_text (hplain d hd) (hplain e he) htext

end ColumnList

/-! ## Names in a table -/

/-- Behind its indexes a table has the columns of the chunk, under the texts of their
descriptors. -/
theorem Chunk.names_of_table {c : Chunk} {t : Table} (h : c.table = .ok t) :
    (t.columns.drop c.indexes.length).map TableColumn.name =
      c.columns.descriptors.map Descriptor.text := by
  obtain ⟨-, rfl⟩ := table_eq_ok_iff.1 h
  have hlength : (c.indexes.map Index.tableColumn).length = c.indexes.length := List.length_map _
  show (c.tableColumns.drop c.indexes.length).map TableColumn.name = _
  rw [tableColumns, List.drop_left' hlength, ColumnList.descriptors, List.map_map, List.map_map]
  rfl

namespace Descriptor

/-- Descriptors that are made of names without marks are the same if their texts are. So in a chunk
of columns of a record whose archetype has such names, and different ones for its fields, the name
of a column tells which one it is: there is a table of the chunk if no value of an index is missing,
and its columns behind the indexes have the texts of the descriptors for names, all of them
different. -/
theorem text_identifies :
    (∀ d e : Descriptor, d.Plain → e.Plain → d.text = e.text → d = e) ∧
    ∀ (a : Archetype) (r : Record) (ns : List Nat) (l : ColumnList) (path : String)
      (indexes : List Index) (c : Chunk), a.Plain → (a.fields.map FieldSpec.name).Nodup →
      Record.Reachable a r → ColumnList.Formed r ns l → Chunk.make path indexes l = .ok c →
      ((∃ t, c.table = .ok t) ↔ ∀ i ∈ indexes, i.Complete) ∧
      ∀ t, c.table = .ok t →
        (t.columns.drop indexes.length).map TableColumn.name = l.descriptors.map text ∧
        ((t.columns.drop indexes.length).map TableColumn.name).Nodup := by
  refine ⟨fun d e => eq_of_text, ?_⟩
  intro a r ns l path indexes c plain names reach formed hmake
  obtain ⟨rfl, hindexes⟩ := Chunk.length_of_make hmake
  refine ⟨Chunk.exists_table_iff_of_formed formed hindexes, ?_⟩
  intro t ht
  have hnames : (t.columns.drop indexes.length).map TableColumn.name = l.descriptors.map text :=
    Chunk.names_of_table ht
  have hnodup := ColumnList.nodup_texts_of_formed plain names reach formed
  rw [hnames]
  exact ⟨rfl, hnodup⟩

/-- Names may be empty, and a field and an indicator differ even then. The fields of capsules that
are set have columns of their own beside that of the indicator. -/
theorem text_identifies_capsules :
    (forField "" "" "").text ≠ (forIndicator "" "").text ∧
    ∃ l c t, Archetype.capsules3D.Plain ∧
      (Archetype.capsules3D.fields.map FieldSpec.name).Nodup ∧
      Record.Reachable .capsules3D .capsules ∧ ColumnList.Formed .capsules [2, 0, 1] l ∧
      Chunk.make "data" [.sequence "step" [some 7, some 8, some 9]] l = .ok c ∧
      c.table = .ok t ∧ (t.columns.drop 1).length = 3 ∧
      ((t.columns.drop 1).map TableColumn.name).Nodup := by
  have hne : (forField "" "" "").text ≠ (forIndicator "" "").text := by
    have hempty : PlainName "" := by decide
    intro h
    have heq := text_identifies.1 _ _ (.forField hempty hempty hempty)
      (.forIndicator hempty hempty) h
    cases heq
  have plain : Archetype.capsules3D.Plain := ⟨by decide, by decide, by decide, by decide⟩
  have names : (Archetype.capsules3D.fields.map FieldSpec.name).Nodup := by decide
  have hnames : ∀ l c t, ColumnList.Formed .capsules [2, 0, 1] l →
      Chunk.make "data" [.sequence "step" [some 7, some 8, some 9]] l = .ok c →
      c.table = .ok t → ((t.columns.drop 1).map TableColumn.name).Nodup := by
    intro l c t formed hmake ht
    obtain ⟨-, htable⟩ :=
      text_identifies.2 _ _ _ _ _ _ _ plain names Record.reachable_capsules formed hmake
    exact (htable t ht).2
  have formed := ColumnList.Formed.ofRecordBy (r := .capsules) [2, 0, 1] rfl
  exact ⟨hne, _, _, _, plain, names, Record.reachable_capsules, formed, rfl, rfl, rfl,
    hnames _ _ _ formed rfl rfl⟩

end Descriptor

end Columnar
