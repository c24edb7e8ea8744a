import Columnar.Catalog.Records
import Columnar.Proofs.Record.Building
import Columnar.Proofs.Record.Replacement

/-!
# Records of a fixed archetype as records

The name of a member stands in three places: among the fields of the archetype, with the value that
is handed on for it, and where the batch of the member is looked up. If the three agree, and names
are different, then a record of a fixed archetype is the record of its archetype that the given
values make up, in whatever order they are given, and what is looked up for a member is what became
of its value. The three agree for all records of the catalog.

## Main statements

- `Record.tryFromFields_perm`, `Record.run_fromFields_perm`: values for different fields may stand
  in any order.
- `Record.not_unknownField_of_declared`: what cannot be wrong with values for declared fields.
- `Record.exists_batch?_of_given`, `Record.batch?_of_not_given`: the batches of fields.
- `Typed.Member`, `Typed.pairs`: members, and the given values with the names of their members.
- `Typed.Declares`: members have the same names in all three places.
- `Typed.Shows`: what is looked up for a member.
- `Typed.Declares.exists_tryConstruct`, `Typed.Declares.shows_of_tryConstruct`: when a record is
  made, and what its members show.
- `Typed.Declares.agrees`: records of a fixed archetype are then records of that archetype.
- `catalog_agrees`: the records of the catalog are.
-/

namespace Columnar

namespace Record

variable {a : Archetype} {clearUnset : Bool} {fields fields' : List (String × Input)} {r : Record}

/-! ## Values in any order -/

theorem tryFromFields_perm (h : fields.Perm fields') (distinct : (fields.map Prod.fst).Nodup)
    (hr : tryFromFields a clearUnset fields = .ok r) :
    tryFromFields a clearUnset fields' = .ok r := by
  have names : ((entriesOf fields).map Entry.field).Nodup := by
    rw [field_entriesOf]
    exact distinct
  exact apply_perm (h.map _) names hr

theorem tryFromFields_eq_ok_iff_of_perm (h : fields.Perm fields')
    (distinct : (fields.map Prod.fst).Nodup) :
    tryFromFields a clearUnset fields = .ok r ↔ tryFromFields a clearUnset fields' = .ok r := by
  constructor
  · exact tryFromFields_perm h distinct
  · exact tryFromFields_perm h.symm ((h.map Prod.fst).nodup_iff.1 distinct)

theorem run_fromFields_of_ok (h : tryFromFields a clearUnset fields = .ok r) (d : Diagnostics)
    (j : Journal) : ((fromFields a clearUnset fields d).run j).1 = r := by
  rw [fromFields, h]
  rfl

theorem run_fromFields_of_error {err : Error} (h : tryFromFields a clearUnset fields = .error err)
    (d : Diagnostics) (j : Journal) :
    ((fromFields a clearUnset fields d).run j).1 = unset a := by
  rw [fromFields, h]
  rfl

/-- The order may decide which fault is reported, but not the record. -/
theorem run_fromFields_perm (h : fields.Perm fields') (distinct : (fields.map Prod.fst).Nodup)
    (d d' : Diagnostics) (j j' : Journal) :
    ((fromFields a clearUnset fields d).run j).1 =
      ((fromFields a clearUnset fields' d').run j').1 := by
  cases hr : tryFromFields a clearUnset fields with
  | ok r =>
    have hr' := tryFromFields_perm h distinct hr
    rw [run_fromFields_of_ok hr, run_fromFields_of_ok hr']
  | error err =>
    -- The other order fails too, perhaps for another field, and both records are unset.
    cases hr' : tryFromFields a clearUnset fields' with
    | ok r' =>
      rw [(tryFromFields_eq_ok_iff_of_perm h distinct).2 hr'] at hr
      cases hr
    | error err' => rw [run_fromFields_of_error hr, run_fromFields_of_error hr']

/-! ## Faults -/

/-- Values for fields of the archetype can only fail to convert. -/
theorem not_unknownField_of_declared
    (declared : ∀ p ∈ fields, p.1 ∈ a.fields.map FieldSpec.name) (owner name : String) :
    tryFromFields a clearUnset fields ≠ .error (.unknownField owner name) := by
  intro h
  obtain ⟨before, e, after, hsplit, -, hrefuses⟩ := exists_of_apply_error h
  have harchetype : (initial a clearUnset).archetype = a := by rw [initial_eq]
  have he : e ∈ entriesOf fields := by
    rw [hsplit]
    exact List.mem_append_right _ List.mem_cons_self
  obtain ⟨p, hp, rfl⟩ := List.mem_map.1 he
  rw [harchetype] at hrefuses
  cases hrefuses with
  | unknownField hunknown => exact hunknown (declared p hp)

/-! ## Batches -/

/-- The batch of a field is that of the state which the values leave of an empty record. -/
theorem exists_leaves_of_tryFromFields (names : (a.fields.map FieldSpec.name).Nodup)
    (h : tryFromFields a clearUnset fields = .ok r) (i : Fin a.fields.length) :
    ∃ s, r.batch? (a.fields.get i).name = s.batch? ∧ a.Leaves clearUnset (entriesOf fields) i
      (stateWithout a (a.fields.get i) clearUnset) s := by
  obtain ⟨s, hs, hleaves⟩ := exists_state_of_tryFromFields h i
  refine ⟨s, ?_, hleaves⟩
  obtain ⟨b, states⟩ := r
  have harchetype : b = (initial a clearUnset).archetype := archetype_of_apply h
  rw [initial_eq] at harchetype
  subst harchetype
  have hstate : state? ⟨b, states⟩ (b.fields.get i).name = states[i.val]? := by
    unfold state?
    rw [Archetype.fieldIndex?_get names i]
  rw [batch?, hstate, hs]
  rfl

theorem exists_batch?_of_given (names : (a.fields.map FieldSpec.name).Nodup)
    (distinct : (fields.map Prod.fst).Nodup) (h : tryFromFields a clearUnset fields = .ok r)
    {f : FieldSpec} (hf : f ∈ a.fields) {input : Input} (hgiven : (f.name, input) ∈ fields) :
    ∃ values, f.component.convert input = .ok values ∧
      r.batch? f.name = some ⟨a.descriptor f, values⟩ := by
  obtain ⟨i, rfl⟩ := List.get_of_mem hf
  obtain ⟨s, hs, hleaves⟩ := exists_leaves_of_tryFromFields names h i
  cases hleaves with
  | decided hlast hgives =>
    obtain ⟨he, hi⟩ := Archetype.mem_of_lastEntry? hlast
    obtain ⟨p, hp, rfl⟩ := List.mem_map.1 he
    -- The last entry for the field is the only one, since names are different.
    have hp' : p = ((a.fields.get i).name, input) :=
      List.inj_on_of_nodup_map distinct hp hgiven (Archetype.name_of_fieldIndex? hi).symm
    subst hp'
    obtain ⟨values, hvalues, rfl⟩ := Archetype.gives_some_iff.1 hgives
    exact ⟨values, hvalues, hs.trans (FieldState.batch?_ofBatch _)⟩
  | kept hnone =>
    have he : (⟨(a.fields.get i).name, some input⟩ : Entry) ∈ entriesOf fields :=
      List.mem_map.2 ⟨_, hgiven, rfl⟩
    exact absurd (Archetype.fieldIndex?_get names i)
      (Archetype.lastEntry?_eq_none_iff.1 hnone _ he)

theorem batch?_of_not_given (names : (a.fields.map FieldSpec.name).Nodup)
    (h : tryFromFields a clearUnset fields = .ok r) {f : FieldSpec} (hf : f ∈ a.fields)
    (hnot : f.name ∉ fields.map Prod.fst) :
    r.batch? f.name = (stateWithout a f clearUnset).batch? := by
  obtain ⟨i, rfl⟩ := List.get_of_mem hf
  obtain ⟨s, hs, hleaves⟩ := exists_leaves_of_tryFromFields names h i
  cases hleaves with
  | decided hlast _ =>
    obtain ⟨he, hi⟩ := Archetype.mem_of_lastEntry? hlast
    have hfield := List.mem_map_of_mem (f := Entry.field) he
    rw [field_entriesOf, ← Archetype.name_of_fieldIndex? hi] at hfield
    exact absurd hfield hnot
  | kept _ => exact hs

end Record

namespace Typed

variable {V : Type}

/-! ## Members -/

/-- A member of a record of a fixed archetype: its name and component, the value that is given for
it, and the batch that is looked up for it. -/
structure Member (V : Type) where
  name : String
  component : Component
  value? : V → Option Input
  batch? : Typed V → Option Batch

/-- The values that are given, in the order of the members and with their names. -/
def pairs (members : List (Member V)) (values : V) : List (String × Input) :=
  members.filterMap fun m => (m.value? values).map fun input => (m.name, input)

variable {members : List (Member V)} {clearUnset : Bool} {values : V} {m : Member V}
  {fields : List (String × Input)}

theorem mem_pairs {p : String × Input} :
    p ∈ pairs members values ↔ ∃ m ∈ members, ∃ input, m.value? values = some input ∧
      (m.name, input) = p := by
  simp only [pairs, List.mem_filterMap, Option.map_eq_some_iff]

theorem names_pairs_sublist (members : List (Member V)) (values : V) :
    ((pairs members values).map Prod.fst).Sublist (members.map Member.name) := by
  induction members with
  | nil => exact .slnil
  | cons m members ih =>
    cases hm : m.value? values with
    | none =>
      rw [pairs, List.filterMap_cons_none (by rw [hm, Option.map_none])]
      exact ih.cons m.name
    | some input =>
      rw [pairs, List.filterMap_cons_some (by rw [hm, Option.map_some])]
      exact ih.cons_cons m.name

variable [FieldValues V]

/-- Members are the fields of the archetype, values are handed on under the names of the members,
and batches are looked up by them. -/
structure Declares (members : List (Member V)) : Prop where
  fields : (FieldValues.archetype V).fields.map (fun f => (f.name, f.component)) =
    members.map fun m => (m.name, m.component)
  names : (members.map Member.name).Nodup
  entries : ∀ values : V,
    FieldValues.entries values = members.map fun m => (m.name, m.value? values)
  batches : members.map Member.batch? = members.map fun m t => t.record.batch? m.name

/-- The descriptor of the field of a member. -/
def Member.descriptor (m : Member V) : Descriptor :=
  .forField (FieldValues.archetype V).name m.name m.component.name

/-- What is looked up for a member: its value as the component converts it, or if it has none, an
empty batch or nothing at all. -/
inductive Shows (m : Member V) (clearUnset : Bool) (values : V) : Option Batch → Prop
  | given {input : Input} {s : Series} (h : m.value? values = some input)
      (hs : m.component.convert input = .ok s) :
      Shows m clearUnset values (some ⟨m.descriptor, s⟩)
  | cleared (h : m.value? values = none) (hclear : clearUnset = true) :
      Shows m clearUnset values (some ⟨m.descriptor, m.component.empty⟩)
  | unset (h : m.value? values = none) (hclear : clearUnset = false) :
      Shows m clearUnset values none

theorem Shows.eq_of_given {batch : Option Batch} {input : Input} {s : Series}
    (h : Shows m clearUnset values batch) (hvalue : m.value? values = some input)
    (hs : m.component.convert input = .ok s) : batch = some ⟨m.descriptor, s⟩ := by
  cases h with
  | given hvalue' hs' =>
    rw [hvalue] at hvalue'
    cases hvalue'
    rw [hs] at hs'
    cases hs'
    rfl
  | cleared hnone _ =>
    rw [hvalue] at hnone
    cases hnone
  | unset hnone _ =>
    rw [hvalue] at hnone
    cases hnone

theorem Shows.eq_none {batch : Option Batch} (h : Shows m false values batch)
    (hnone : m.value? values = none) : batch = none := by
  cases h with
  | given hvalue _ =>
    rw [hnone] at hvalue
    cases hvalue
  | cleared _ hclear => cases hclear
  | unset _ _ => rfl

/-- Records of a fixed archetype are records of that archetype: they are made of the same values, in
any order of them, they exist under the same conditions, and members show their values. -/
structure Agrees (members : List (Member V)) : Prop extends Declares members where
  fromFields : ∀ values clearUnset fields, fields.Perm (pairs members values) → ∀ d j d' j',
    ((Typed.fromFields clearUnset values d).run j).1.record =
      ((Record.fromFields (FieldValues.archetype V) clearUnset fields d').run j').1
  tryConstruct : ∀ values fields t, fields.Perm (pairs members values) →
    (Typed.tryConstruct values = .ok t ↔
      Record.tryConstruct (FieldValues.archetype V) fields = .ok t.record)
  known : ∀ values clearUnset fields owner name, fields.Perm (pairs members values) →
    Typed.tryConstruct values ≠ .error (.unknownField owner name) ∧
    Record.tryFromFields (FieldValues.archetype V) clearUnset fields ≠
      .error (.unknownField owner name)
  constructed : ∀ values t, Typed.tryConstruct values = .ok t →
    ∀ m ∈ members, Shows m false values (m.batch? t)
  filled : ∀ values clearUnset fields r, fields.Perm (pairs members values) →
    Record.tryFromFields (FieldValues.archetype V) clearUnset fields = .ok r → ∀ d j,
    ∀ m ∈ members, Shows m clearUnset values
      (m.batch? ((Typed.fromFields clearUnset values d).run j).1)

/-! ## Given values -/

theorem tryConstruct_eq_ok_iff {t : Typed V} :
    tryConstruct values = .ok t ↔
      Record.tryConstruct (FieldValues.archetype V) (given values) = .ok t.record := by
  rw [tryConstruct, map_eq_ok_iff]
  constructor
  · rintro ⟨r, hr, rfl⟩
    exact hr
  · intro hr
    exact ⟨t.record, hr, rfl⟩

namespace Declares

theorem map_name (h : Declares members) :
    (FieldValues.archetype V).fields.map FieldSpec.name = members.map Member.name := by
  have hnames := congrArg (List.map Prod.fst) h.fields
  rw [List.map_map, List.map_map] at hnames
  exact hnames

theorem nodup_fields (h : Declares members) :
    ((FieldValues.archetype V).fields.map FieldSpec.name).Nodup :=
  h.map_name ▸ h.names

theorem exists_field (h : Declares members) (hm : m ∈ members) :
    ∃ f ∈ (FieldValues.archetype V).fields, f.name = m.name ∧ f.component = m.component := by
  have hmem : (m.name, m.component) ∈ members.map fun m => (m.name, m.component) :=
    List.mem_map_of_mem hm
  rw [← h.fields] at hmem
  obtain ⟨f, hf, heq⟩ := List.mem_map.1 hmem
  exact ⟨f, hf, (Prod.mk.inj heq).1, (Prod.mk.inj heq).2⟩

theorem batch?_eq (h : Declares members) (hm : m ∈ members) (t : Typed V) :
    m.batch? t = t.record.batch? m.name :=
  congrFun (List.map_inj_left.1 h.batches m hm) t

theorem given_eq (h : Declares members) (values : V) : given values = pairs members values := by
  rw [given, h.entries, List.filterMap_map]
  rfl

theorem distinct (h : Declares members) (hperm : fields.Perm (pairs members values)) :
    (fields.map Prod.fst).Nodup :=
  (hperm.map Prod.fst).nodup_iff.2 ((names_pairs_sublist members values).nodup h.names)

theorem declared (h : Declares members) (hperm : fields.Perm (pairs members values)) :
    ∀ p ∈ fields, p.1 ∈ (FieldValues.archetype V).fields.map FieldSpec.name := by
  intro p hp
  rw [h.map_name]
  exact (names_pairs_sublist members values).subset (List.mem_map_of_mem (hperm.mem_iff.1 hp))

theorem not_given (h : Declares members) (hperm : fields.Perm (pairs members values))
    (hm : m ∈ members) (hnone : m.value? values = none) : m.name ∉ fields.map Prod.fst := by
  intro hmem
  obtain ⟨p, hp, hname⟩ := List.mem_map.1 hmem
  obtain ⟨m', hm', input, hinput, rfl⟩ := mem_pairs.1 (hperm.mem_iff.1 hp)
  obtain rfl : m' = m := List.inj_on_of_nodup_map h.names hm' hm hname
  rw [hnone] at hinput
  cases hinput

/-! ## Agreement -/

/-- A member shows its value in a record that is made of the values. -/
theorem shows_of_tryFromFields (h : Declares members) (hperm : fields.Perm (pairs members values))
    {r : Record} (hr : Record.tryFromFields (FieldValues.archetype V) clearUnset fields = .ok r)
    (hm : m ∈ members) : Shows m clearUnset values (m.batch? ⟨r⟩) := by
  obtain ⟨f, hf, hname, hcomponent⟩ := h.exists_field hm
  have hdescriptor : (FieldValues.archetype V).descriptor f = m.descriptor := by
    rw [Archetype.descriptor, hname, hcomponent]
    rfl
  rw [h.batch?_eq hm, ← hname]
  cases hvalue : m.value? values with
  | some input =>
    have hgiven : (f.name, input) ∈ fields :=
      hperm.mem_iff.2 (mem_pairs.2 ⟨m, hm, input, hvalue, by rw [hname]⟩)
    obtain ⟨s, hs, hbatch⟩ :=
      Record.exists_batch?_of_given h.nodup_fields (h.distinct hperm) hr hf hgiven
    rw [hbatch, hdescriptor]
    exact .given hvalue (hcomponent ▸ hs)
  | none =>
    have hnot : f.name ∉ fields.map Prod.fst := hname ▸ h.not_given hperm hm hvalue
    rw [Record.batch?_of_not_given h.nodup_fields hr hf hnot]
    cases clearUnset with
    | false => exact .unset hvalue rfl
    | true =>
      show Shows m true values (some ⟨(FieldValues.archetype V).descriptor f, f.component.empty⟩)
      rw [hdescriptor, hcomponent]
      exact .cleared hvalue rfl

/-- A record is made of values that all convert. -/
theorem exists_tryConstruct (h : Declares members)
    (hconvert : ∀ m ∈ members, ∀ input, m.value? values = some input →
      ∃ s, m.component.convert input = .ok s) :
    ∃ t : Typed V, Typed.tryConstruct values = .ok t := by
  have htakes : ∀ e ∈ Record.entriesOf (pairs members values),
      (FieldValues.archetype V).Takes e := by
    intro e he
    obtain ⟨p, hp, rfl⟩ := List.mem_map.1 he
    obtain ⟨m, hm, input, hinput, rfl⟩ := mem_pairs.1 hp
    obtain ⟨f, hf, hname, hcomponent⟩ := h.exists_field hm
    obtain ⟨i, rfl⟩ := List.get_of_mem hf
    have hi := Archetype.fieldIndex?_get h.nodup_fields i
    obtain ⟨s, hs⟩ := hconvert m hm input hinput
    rw [hname] at hi
    rw [← hcomponent] at hs
    exact Archetype.takes_of_convert hi hs
  obtain ⟨r, hr⟩ :=
    (Record.exists_apply_iff (r := Record.initial (FieldValues.archetype V) false) false).2 htakes
  refine ⟨⟨r⟩, tryConstruct_eq_ok_iff.2 ?_⟩
  rw [h.given_eq]
  exact hr

theorem tryConstruct_eq_ok_iff_of_perm (h : Declares members)
    (hperm : fields.Perm (pairs members values)) {t : Typed V} :
    Typed.tryConstruct values = .ok t ↔
      Record.tryConstruct (FieldValues.archetype V) fields = .ok t.record := by
  rw [tryConstruct_eq_ok_iff, h.given_eq]
  exact Record.tryFromFields_eq_ok_iff_of_perm hperm.symm (h.distinct (.refl _))

theorem shows_of_tryConstruct (h : Declares members) {t : Typed V}
    (ht : Typed.tryConstruct values = .ok t) (hm : m ∈ members) :
    Shows m false values (m.batch? t) :=
  h.shows_of_tryFromFields (.refl _) ((h.tryConstruct_eq_ok_iff_of_perm (.refl _)).1 ht) hm

theorem run_fromFields_of_perm (h : Declares members)
    (hperm : fields.Perm (pairs members values)) (d d' : Diagnostics) (j j' : Journal) :
    ((Typed.fromFields clearUnset values d).run j).1.record =
      ((Record.fromFields (FieldValues.archetype V) clearUnset fields d').run j').1 := by
  show ((Record.fromFields (FieldValues.archetype V) clearUnset (given values) d).run j).1 = _
  rw [h.given_eq]
  exact Record.run_fromFields_perm hperm.symm (h.distinct (.refl _)) d d' j j'

theorem agrees (h : Declares members) : Agrees members where
  toDeclares := h
  fromFields values clearUnset fields hperm d j d' j' := h.run_fromFields_of_perm hperm d d' j j'
  tryConstruct values fields t hperm := h.tryConstruct_eq_ok_iff_of_perm hperm
  known values clearUnset fields owner name hperm := by
    refine ⟨?_, Record.not_unknownField_of_declared (h.declared hperm) owner name⟩
    rw [Typed.tryConstruct, ne_eq, map_eq_error_iff, h.given_eq]
    exact Record.not_unknownField_of_declared (h.declared (.refl _)) owner name
  constructed values t ht m hm := h.shows_of_tryConstruct ht hm
  filled values clearUnset fields r hperm hr d j m hm := by
    have hrecord : ((Typed.fromFields clearUnset values d).run j).1.record = r := by
      rw [h.run_fromFields_of_perm hperm d d j j, Record.run_fromFields_of_ok hr]
    have hshows := h.shows_of_tryFromFields hperm hr hm
    rw [← hrecord] at hshows
    exact hshows

end Declares

end Typed

/-! ## The catalog -/

def Scalar.members : List (Typed.Member ScalarValues) :=
  [⟨"scalar", .scalar, ScalarValues.scalar, scalar?⟩]

def SpaceViewContents.members : List (Typed.Member SpaceViewContentsValues) :=
  [⟨"query", .queryExpression, SpaceViewContentsValues.query, query?⟩]

def Capsules3D.members : List (Typed.Member Capsules3DValues) :=
  [⟨"lengths", .length, Capsules3DValues.lengths, lengths?⟩,
    ⟨"radii", .radius, Capsules3DValues.radii, radii?⟩,
    ⟨"translations", .translation3D, Capsules3DValues.translations, translations?⟩]

def SegmentationImage.members : List (Typed.Member SegmentationImageValues) :=
  [⟨"buffer", .imageBuffer, SegmentationImageValues.buffer, buffer?⟩,
    ⟨"format", .imageFormat, SegmentationImageValues.format, format?⟩,
    ⟨"opacity", .opacity, SegmentationImageValues.opacity, opacity?⟩,
    ⟨"draw_order", .drawOrder, SegmentationImageValues.drawOrder, drawOrder?⟩]

theorem Scalar.declares : Typed.Declares members := ⟨rfl, by decide, fun _ => rfl, rfl⟩

theorem SpaceViewContents.declares : Typed.Declares members := ⟨rfl, by decide, fun _ => rfl, rfl⟩

theorem Capsules3D.declares : Typed.Declares members := ⟨rfl, by decide, fun _ => rfl, rfl⟩

theorem SegmentationImage.declares : Typed.Declares members := ⟨rfl, by decide, fun _ => rfl, rfl⟩

/-- All records of the catalog are records of their archetypes. -/
theorem catalog_agrees :
    Typed.Agrees Scalar.members ∧ Typed.Agrees SpaceViewContents.members ∧
      Typed.Agrees Capsules3D.members ∧ Typed.Agrees SegmentationImage.members :=
  ⟨Scalar.declares.agrees, SpaceViewContents.declares.agrees, Capsules3D.declares.agrees,
    SegmentationImage.declares.agrees⟩

end Columnar
