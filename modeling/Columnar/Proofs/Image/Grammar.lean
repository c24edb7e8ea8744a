import Columnar.Proofs.Component.Forms
import Columnar.Proofs.Json.Proper

/-!
# Which JSON values are image formats

A format is an object of its members, and formats are one such object or a list of them. What is
read goes beyond that in two places. Within a list a format may itself be a list of its members in
order, although on the outside a list always stands for several formats; and a name may also be the
only key of an object.

## Main statements

- `IsOptional`, `IsFormat`, `IsFormats`: the grammar, with these two forms or without.
- `readSize_eq_ok_iff`, `readOptional_eq_ok_iff`: which values the members are.
- `Draft.Fills`, `Draft.foldlM_add_eq_ok_iff`: what the entries of an object add up to.
- `read_eq_ok_iff`: which values are formats.
- `Encoding.encode_json_formats`: which values are taken in as formats.
-/

namespace Columnar

namespace ImageFormat

/-! ## The grammar -/

/-- A member that a format may lack, and the value that is given for it, if any: null or a name.
Loosely, a name may also be a key. -/
inductive IsOptional {α : Type} (nameOf : α → String) (loose : Prop) :
    Option Json.Value → Option α → Prop
  | absent : IsOptional nameOf loose none none
  | null : IsOptional nameOf loose (some .null) none
  | name (a : α) : IsOptional nameOf loose (some (.string (nameOf a))) (some a)
  | key (h : loose) (a : α) : IsOptional nameOf loose (some (.object [(nameOf a, .null)])) (some a)

/-- A value and the format that it is: an object with the members of the format and no others.
Loosely, a list of the members in order is one too. -/
inductive IsFormat (loose : Prop) : Json.Value → ImageFormat → Prop
  | object {entries : List (String × Json.Value)} {f : ImageFormat}
      (hkeys : ∀ entry ∈ entries, entry.1 ∈ members.map Field.name)
      (hwidth : entries.lookup "width" = some (.ofNat f.width.toNat))
      (hheight : entries.lookup "height" = some (.ofNat f.height.toNat))
      (hmodel : IsOptional ColorModel.name loose (entries.lookup "color_model") f.colorModel)
      (htype : IsOptional ChannelType.name loose (entries.lookup "channel_datatype")
        f.channelType) : IsFormat loose (.object entries) f
  | list (h : loose) {f : ImageFormat} {rest : List Json.Value} (hlength : rest.length ≤ 2)
      (hmodel : IsOptional ColorModel.name loose rest[0]? f.colorModel)
      (htype : IsOptional ChannelType.name loose rest[1]? f.channelType) :
      IsFormat loose (.array (.ofNat f.width.toNat :: .ofNat f.height.toNat :: rest)) f

/-- A value and the formats that it is. -/
inductive IsFormats (loose : Prop) : Json.Value → List ImageFormat → Prop
  | one {entries : List (String × Json.Value)} {f : ImageFormat}
      (h : IsFormat loose (.object entries) f) : IsFormats loose (.object entries) [f]
  | several {items : List Json.Value} {fs : List ImageFormat}
      (h : List.Forall₂ (IsFormat loose) items fs) : IsFormats loose (.array items) fs

variable {α : Type} {nameOf : α → String} {loose : Prop} {given : Option Json.Value}
  {v : Json.Value} {f : ImageFormat}

theorem IsOptional.loosen {a : Option α} (h : IsOptional nameOf loose given a) :
    IsOptional nameOf True given a := by
  cases h with
  | absent => exact .absent
  | null => exact .null
  | name a => exact .name a
  | key _ a => exact .key trivial a

theorem IsFormat.loosen (h : IsFormat loose v f) : IsFormat True v f := by
  cases h with
  | object hkeys hwidth hheight hmodel htype =>
    exact .object hkeys hwidth hheight hmodel.loosen htype.loosen
  | list _ hlength hmodel htype => exact .list trivial hlength hmodel.loosen htype.loosen

theorem IsFormats.loosen {fs : List ImageFormat} (h : IsFormats loose v fs) :
    IsFormats True v fs := by
  cases h with
  | one h => exact .one h.loosen
  | several h => exact .several (h.imp fun _ _ => IsFormat.loosen)

/-- In the strict sense every format is an object. -/
theorem IsFormat.exists_object (h : IsFormat False v f) : ∃ entries, v = .object entries := by
  cases h with
  | object => exact ⟨_, rfl⟩
  | list h => exact h.elim

/-! ## Members -/

theorem readSize_eq_ok_iff {n : UInt32} : readSize v = .ok n ↔ v = .ofNat n.toNat := by
  constructor
  · intro h
    unfold readSize at h
    split at h
    · next i =>
      split at h
      · next hi =>
        cases h
        have hn : i.toNat.toUInt32.toNat = i.toNat := by
          rw [Nat.toUInt32, UInt32.toNat_ofNat']
          omega
        rw [Json.Value.ofNat, hn, Int.toNat_of_nonneg hi.1]
      · cases h
    · cases h
  · rintro rfl
    exact readSize_ofNat n

/-- Where the names in a list are different and all there are, the one that is found is the one
that is looked for. -/
theorem findName_eq_ok_iff {all : List α} (hall : ∀ a, a ∈ all) (hnames : (all.map nameOf).Nodup)
    {name : String} {a : α} : findName all nameOf name = .ok a ↔ name = nameOf a := by
  rw [← find?_key_eq_some_iff hall hnames, findName]
  split
  · next b hb => rw [hb, Except.ok.injEq, Option.some.injEq]
  · next hnone => simp [hnone]

theorem readName_eq_ok_iff {all : List α} (hall : ∀ a, a ∈ all) (hnames : (all.map nameOf).Nodup)
    {a : α} : readName all nameOf v = .ok a ↔
      v = .string (nameOf a) ∨ v = .object [(nameOf a, .null)] := by
  have hfind : ∀ name, findName all nameOf name = .ok a ↔ name = nameOf a :=
    fun name => findName_eq_ok_iff hall hnames
  constructor
  · intro h
    unfold readName at h
    split at h
    · exact .inl (congrArg _ ((hfind _).1 h))
    · obtain ⟨b, hb, h⟩ := bind_eq_ok_iff.1 h
      split at h
      · cases h
        rw [(hfind _).1 hb]
        exact .inr rfl
      · cases h
    · cases h
    · cases h
  · rintro (rfl | rfl)
    · exact (hfind _).2 rfl
    · exact bind_eq_ok_iff.2 ⟨a, (hfind _).2 rfl, rfl⟩

theorem readOptional_eq_ok_iff {all : List α} (hall : ∀ a, a ∈ all)
    (hnames : (all.map nameOf).Nodup) {a : Option α} :
    readOptional (readName all nameOf) given = .ok a ↔ IsOptional nameOf True given a := by
  constructor
  · intro h
    unfold readOptional at h
    split at h
    · cases h
      exact .absent
    · cases h
      exact .null
    · obtain ⟨b, hb, rfl⟩ := map_eq_ok_iff.1 h
      obtain rfl | rfl := (readName_eq_ok_iff hall hnames).1 hb
      · exact .name b
      · exact .key trivial b
  · intro h
    cases h with
    | absent => rfl
    | null => rfl
    | name b => exact map_eq_ok_iff.2 ⟨b, (readName_eq_ok_iff hall hnames).2 (.inl rfl), rfl⟩
    | key _ b => exact map_eq_ok_iff.2 ⟨b, (readName_eq_ok_iff hall hnames).2 (.inr rfl), rfl⟩

theorem readColorModel_eq_ok_iff {m : Option ColorModel} :
    readOptional readColorModel given = .ok m ↔ IsOptional ColorModel.name True given m :=
  readOptional_eq_ok_iff ColorModel.mem_all (by decide)

theorem readChannelType_eq_ok_iff {t : Option ChannelType} :
    readOptional readChannelType given = .ok t ↔ IsOptional ChannelType.name True given t :=
  readOptional_eq_ok_iff ChannelType.mem_all (by decide)

/-! ## Entries -/

/-- What a member is after a value has been given for it, or has not. -/
inductive Settles {β : Type} (R : Json.Value → β → Prop) (old : β) : Option Json.Value → β → Prop
  | kept : Settles R old none old
  | given {v : Json.Value} {new : β} (h : R v new) : Settles R old (some v) new

namespace Settles

variable {β : Type} {R : Json.Value → β → Prop} {old new : β} {key name : String}
  {entries : List (String × Json.Value)}

theorem single_iff :
    Settles R old ([(key, v)].lookup name) new ↔ if name = key then R v new else new = old := by
  split
  · next h =>
    rw [h, List.lookup_cons_self]
    constructor
    · intro h
      cases h with
      | given h => exact h
    · exact .given
  · next h =>
    rw [List.lookup_cons, beq_false_of_ne h, List.lookup_nil]
    constructor
    · intro h
      cases h
      rfl
    · rintro rfl
      exact .kept

/-- The first of several entries is settled apart from the others. -/
theorem cons_iff (h : key ∉ entries.map Prod.fst) :
    Settles R old (((key, v) :: entries).lookup name) new ↔
      ∃ mid, Settles R old ([(key, v)].lookup name) mid ∧
        Settles R mid (entries.lookup name) new := by
  simp only [single_iff]
  split
  · next hname =>
    subst hname
    have hnone : entries.lookup name = none := by
      rw [List.lookup_eq_none_iff]
      intro entry hentry
      rw [bne_iff_ne]
      rintro rfl
      exact h (List.mem_map_of_mem hentry)
    rw [List.lookup_cons_self, hnone]
    constructor
    · intro h
      cases h with
      | given h => exact ⟨new, h, .kept⟩
    · rintro ⟨mid, h, hkept⟩
      cases hkept
      exact .given h
  · next hname =>
    rw [List.lookup_cons, beq_false_of_ne hname]
    constructor
    · intro h
      exact ⟨old, rfl, h⟩
    · rintro ⟨mid, rfl, h⟩
      exact h

end Settles

def IsSize (v : Json.Value) (n : Option UInt32) : Prop :=
  ∃ x : UInt32, v = .ofNat x.toNat ∧ n = some x

theorem settles_size_iff {x : UInt32} :
    Settles IsSize none given (some x) ↔ given = some (.ofNat x.toNat) := by
  constructor
  · intro h
    cases h with
    | given h =>
      obtain ⟨y, rfl, hy⟩ := h
      rw [Option.some.inj hy]
  · rintro rfl
    exact .given ⟨x, rfl, rfl⟩

theorem settles_optional_iff {a : Option α} :
    Settles (fun v => IsOptional nameOf True (some v)) none given a ↔
      IsOptional nameOf True given a := by
  constructor
  · intro h
    cases h with
    | kept => exact .absent
    | given h => exact h
  · intro h
    cases given with
    | none =>
      cases h
      exact .kept
    | some v => exact .given h

namespace Draft

/-- The draft `d'` is `d` after the entries have been added, each for a member of its own. -/
structure Fills (d : Draft) (entries : List (String × Json.Value)) (d' : Draft) : Prop where
  keys : ∀ entry ∈ entries, entry.1 ∈ members.map Field.name
  width : Settles IsSize d.width (entries.lookup "width") d'.width
  height : Settles IsSize d.height (entries.lookup "height") d'.height
  colorModel : Settles (fun v => IsOptional ColorModel.name True (some v)) d.colorModel
    (entries.lookup "color_model") d'.colorModel
  channelType : Settles (fun v => IsOptional ChannelType.name True (some v)) d.channelType
    (entries.lookup "channel_datatype") d'.channelType

variable {d d' : Draft} {key : String} {entries : List (String × Json.Value)}

theorem fills_single_iff : d.Fills [(key, v)] d' ↔ key ∈ members.map Field.name ∧
    (if "width" = key then IsSize v d'.width else d'.width = d.width) ∧
    (if "height" = key then IsSize v d'.height else d'.height = d.height) ∧
    (if "color_model" = key then IsOptional ColorModel.name True (some v) d'.colorModel
      else d'.colorModel = d.colorModel) ∧
    (if "channel_datatype" = key then IsOptional ChannelType.name True (some v) d'.channelType
      else d'.channelType = d.channelType) := by
  constructor
  · rintro ⟨hkeys, hwidth, hheight, hmodel, htype⟩
    exact ⟨hkeys _ List.mem_cons_self, Settles.single_iff.1 hwidth, Settles.single_iff.1 hheight,
      Settles.single_iff.1 hmodel, Settles.single_iff.1 htype⟩
  · rintro ⟨hkey, hwidth, hheight, hmodel, htype⟩
    exact ⟨List.forall_mem_singleton.2 hkey, Settles.single_iff.2 hwidth,
      Settles.single_iff.2 hheight, Settles.single_iff.2 hmodel, Settles.single_iff.2 htype⟩

/-- One entry more, for a member that no other entry is for. -/
theorem fills_cons_iff (h : key ∉ entries.map Prod.fst) :
    d.Fills ((key, v) :: entries) d' ↔ ∃ d₁, d.Fills [(key, v)] d₁ ∧ d₁.Fills entries d' := by
  constructor
  · rintro ⟨hkeys, hwidth, hheight, hmodel, htype⟩
    obtain ⟨hkey, hkeys⟩ := List.forall_mem_cons.1 hkeys
    obtain ⟨w, hw, hwidth⟩ := (Settles.cons_iff h).1 hwidth
    obtain ⟨h', hh, hheight⟩ := (Settles.cons_iff h).1 hheight
    obtain ⟨m, hm, hmodel⟩ := (Settles.cons_iff h).1 hmodel
    obtain ⟨t, ht, htype⟩ := (Settles.cons_iff h).1 htype
    exact ⟨⟨w, h', m, t⟩, ⟨List.forall_mem_singleton.2 hkey, hw, hh, hm, ht⟩,
      ⟨hkeys, hwidth, hheight, hmodel, htype⟩⟩
  · rintro ⟨d₁, hfirst, hrest⟩
    refine ⟨List.forall_mem_cons.2 ⟨hfirst.keys _ List.mem_cons_self, hrest.keys⟩, ?_, ?_, ?_, ?_⟩
    · exact (Settles.cons_iff h).2 ⟨_, hfirst.width, hrest.width⟩
    · exact (Settles.cons_iff h).2 ⟨_, hfirst.height, hrest.height⟩
    · exact (Settles.cons_iff h).2 ⟨_, hfirst.colorModel, hrest.colorModel⟩
    · exact (Settles.cons_iff h).2 ⟨_, hfirst.channelType, hrest.channelType⟩

theorem add_eq_ok_iff : d.add key v = .ok d' ↔ d.Fills [(key, v)] d' := by
  obtain ⟨width, height, model, type⟩ := d'
  rw [fills_single_iff]
  by_cases hwidth : key = "width"
  · subst hwidth
    simp only [add, String.reduceEq, if_true, if_false, map_eq_ok_iff, readSize_eq_ok_iff]
    constructor
    · rintro ⟨x, hx, h⟩
      cases h
      exact ⟨by decide, ⟨x, hx, rfl⟩, rfl, rfl, rfl⟩
    · rintro ⟨-, ⟨x, hx, rfl⟩, rfl, rfl, rfl⟩
      exact ⟨x, hx, rfl⟩
  by_cases hheight : key = "height"
  · subst hheight
    simp only [add, String.reduceEq, if_true, if_false, map_eq_ok_iff, readSize_eq_ok_iff]
    constructor
    · rintro ⟨x, hx, h⟩
      cases h
      exact ⟨by decide, rfl, ⟨x, hx, rfl⟩, rfl, rfl⟩
    · rintro ⟨-, rfl, ⟨x, hx, rfl⟩, rfl, rfl⟩
      exact ⟨x, hx, rfl⟩
  by_cases hmodel : key = "color_model"
  · subst hmodel
    simp only [add, String.reduceEq, if_true, if_false, map_eq_ok_iff, readColorModel_eq_ok_iff]
    constructor
    · rintro ⟨m, hm, h⟩
      cases h
      exact ⟨by decide, rfl, rfl, hm, rfl⟩
    · rintro ⟨-, rfl, rfl, hm, rfl⟩
      exact ⟨model, hm, rfl⟩
  by_cases htype : key = "channel_datatype"
  · subst htype
    simp only [add, String.reduceEq, if_true, if_false, map_eq_ok_iff, readChannelType_eq_ok_iff]
    constructor
    · rintro ⟨t, ht, h⟩
      cases h
      exact ⟨by decide, rfl, rfl, rfl, ht⟩
    · rintro ⟨-, rfl, rfl, rfl, ht⟩
      exact ⟨type, ht, rfl⟩
  · have hunknown : key ∉ members.map Field.name := by
      simp [members, hwidth, hheight, hmodel, htype]
    rw [add, if_neg hwidth, if_neg hheight, if_neg hmodel, if_neg htype]
    constructor
    · intro h
      cases h
    · rintro ⟨hkey, -⟩
      exact absurd hkey hunknown

theorem fills_nil_iff : d.Fills [] d' ↔ d = d' := by
  constructor
  · rintro ⟨-, hwidth, hheight, hmodel, htype⟩
    obtain ⟨width, height, model, type⟩ := d'
    cases hwidth
    cases hheight
    cases hmodel
    cases htype
    rfl
  · rintro rfl
    exact ⟨List.forall_mem_nil _, .kept, .kept, .kept, .kept⟩

/-- Entries for different members are added one after the other. -/
theorem foldlM_add_eq_ok_iff (h : (entries.map Prod.fst).Nodup) :
    entries.foldlM (fun d entry => d.add entry.1 entry.2) d = .ok d' ↔ d.Fills entries d' := by
  induction entries generalizing d with
  | nil =>
    show Except.ok d = .ok d' ↔ _
    rw [fills_nil_iff, Except.ok.injEq]
  | cons entry entries ih =>
    obtain ⟨hkey, hkeys⟩ := List.nodup_cons.1 h
    rw [fills_cons_iff hkey, List.foldlM_cons, bind_eq_ok_iff]
    simp only [add_eq_ok_iff, ih hkeys]

theorem finish_eq_ok_iff {f : ImageFormat} : d.finish = .ok f ↔
    d = ⟨some f.width, some f.height, f.colorModel, f.channelType⟩ := by
  constructor
  · intro h
    unfold finish at h
    split at h
    · next hwidth hheight =>
      cases h
      rw [← hwidth, ← hheight]
    · cases h
    · cases h
  · rintro rfl
    rfl

theorem fills_blank_iff {f : ImageFormat} :
    blank.Fills entries ⟨some f.width, some f.height, f.colorModel, f.channelType⟩ ↔
      IsFormat True (.object entries) f := by
  constructor
  · rintro ⟨hkeys, hwidth, hheight, hmodel, htype⟩
    exact .object hkeys (settles_size_iff.1 hwidth) (settles_size_iff.1 hheight)
      (settles_optional_iff.1 hmodel) (settles_optional_iff.1 htype)
  · intro h
    cases h with
    | object hkeys hwidth hheight hmodel htype =>
      exact ⟨hkeys, settles_size_iff.2 hwidth, settles_size_iff.2 hheight,
        settles_optional_iff.2 hmodel, settles_optional_iff.2 htype⟩

end Draft

/-! ## Formats -/

theorem ofEntries_eq_ok_iff {entries : List (String × Json.Value)}
    (h : (entries.map Prod.fst).Nodup) :
    ofEntries entries = .ok f ↔ IsFormat True (.object entries) f := by
  simp only [ofEntries, bind_eq_ok_iff, Draft.foldlM_add_eq_ok_iff h, Draft.finish_eq_ok_iff,
    exists_eq_right, Draft.fills_blank_iff]

theorem head?_tail (items : List Json.Value) : items.tail.head? = items[1]? := by
  rw [List.head?_eq_getElem?, List.getElem?_tail]

theorem ofItems_eq_ok_iff {items : List Json.Value} :
    ofItems items = .ok f ↔ IsFormat True (.array items) f := by
  constructor
  · intro h
    unfold ofItems at h
    split at h
    · cases h
    · obtain ⟨_, -, h⟩ := bind_eq_ok_iff.1 h
      cases h
    · next w h' rest =>
      obtain ⟨width, hwidth, h⟩ := bind_eq_ok_iff.1 h
      obtain ⟨height, hheight, h⟩ := bind_eq_ok_iff.1 h
      obtain ⟨model, hmodel, h⟩ := bind_eq_ok_iff.1 h
      obtain ⟨type, htype, h⟩ := bind_eq_ok_iff.1 h
      split at h
      · cases h
      · next hlength =>
        cases h
        rw [readSize_eq_ok_iff.1 hwidth, readSize_eq_ok_iff.1 hheight]
        rw [List.head?_eq_getElem?, readColorModel_eq_ok_iff] at hmodel
        rw [head?_tail, readChannelType_eq_ok_iff] at htype
        refine .list (f := ⟨width, height, model, type⟩) trivial ?_ hmodel htype
        simp only [List.length_cons] at hlength
        omega
  · intro h
    cases h with
    | @list _ _ rest hlength hmodel htype =>
      rw [← List.head?_eq_getElem?, ← readColorModel_eq_ok_iff] at hmodel
      rw [← head?_tail, ← readChannelType_eq_ok_iff] at htype
      refine bind_eq_ok_iff.2 ⟨_, readSize_ofNat _, ?_⟩
      refine bind_eq_ok_iff.2 ⟨_, readSize_ofNat _, ?_⟩
      refine bind_eq_ok_iff.2 ⟨_, hmodel, ?_⟩
      refine bind_eq_ok_iff.2 ⟨_, htype, ?_⟩
      rw [if_neg]
      simp only [List.length_cons]
      omega

/-- A proper value is read as a format if it is one in the loose sense. -/
theorem read_eq_ok_iff (hv : v.Proper) : read v = .ok f ↔ IsFormat True v f := by
  cases hv with
  | object hkeys => exact ofEntries_eq_ok_iff hkeys
  | array => exact ofItems_eq_ok_iff
  | _ =>
    constructor
    · intro h
      cases h
    · intro h
      cases h

/-- What a format is written as is proper. -/
theorem proper_toJson (f : ImageFormat) : f.toJson.Proper := by
  have hnumber : ∀ n : UInt32, (Json.Value.ofNat n.toNat).Proper := by
    intro n
    have h := n.toNat_lt
    refine .number ⟨?_, ?_⟩ <;> omega
  have hname : ∀ name, (Json.Value.ofString? name).Proper := by
    intro name
    cases name with
    | none => exact .null
    | some name => exact .string name
  have hkeys : ["channel_datatype", "color_model", "height", "width"].Nodup := by decide
  refine .object hkeys ?_
  simp only [List.forall_mem_cons]
  exact ⟨hname _, hname _, hnumber _, hnumber _, List.forall_mem_nil _⟩

end ImageFormat

namespace Encoding

open ImageFormat

variable {v : Json.Value} {f : ImageFormat} {s : Series}

theorem jsonFormat_eq_ok_iff (hv : v.Proper) : jsonFormat v = .ok f ↔ IsFormat True v f := by
  rw [jsonFormat, mapError_eq_ok_iff, read_eq_ok_iff hv]

theorem formatsOfJson_eq_ok_iff (hv : v.Proper) : formatsOfJson v = .ok s ↔
    ∃ fs, IsFormats True v fs ∧ s = ImageFormat.series fs := by
  cases hv with
  | @object entries hkeys h =>
    simp only [formatsOfJson, bind_eq_ok_iff, jsonFormat_eq_ok_iff (.object hkeys h)]
    constructor
    · rintro ⟨f, hf, hs⟩
      cases hs
      exact ⟨[f], .one hf, rfl⟩
    · rintro ⟨fs, hfs, rfl⟩
      cases hfs with
      | one hf => exact ⟨_, hf, rfl⟩
  | @array items h =>
    have hitems : ∀ fs, items.mapM jsonFormat = .ok fs ↔
        List.Forall₂ (IsFormat True) items fs := by
      intro fs
      rw [mapM_eq_ok_iff]
      constructor
      · intro hfs
        exact ((List.forall₂_and_left _ _).2 ⟨h, hfs⟩).imp
          fun _ _ hf => (jsonFormat_eq_ok_iff hf.1).1 hf.2
      · intro hfs
        exact ((List.forall₂_and_left _ _).2 ⟨h, hfs⟩).imp
          fun _ _ hf => (jsonFormat_eq_ok_iff hf.1).2 hf.2
    simp only [formatsOfJson, bind_eq_ok_iff, hitems]
    constructor
    · rintro ⟨fs, hfs, hs⟩
      cases hs
      exact ⟨fs, .several hfs, rfl⟩
    · rintro ⟨fs, hfs, rfl⟩
      cases hfs with
      | several hfs => exact ⟨_, hfs, rfl⟩
  | _ =>
    constructor
    · intro h
      cases h
    · rintro ⟨fs, hfs, -⟩
      cases hfs

/-- A proper value is taken in as formats if it is formats in the loose sense, so every value that
is formats in the strict one is taken in. Any other value is refused. -/
theorem encode_json_formats (hv : v.Proper) :
    (∀ s, imageFormats.encode (.json v) = .ok s ↔
      ∃ fs, IsFormats True v fs ∧ s = ImageFormat.series fs) ∧
    (∀ fs, IsFormats False v fs →
      imageFormats.encode (.json v) = .ok (ImageFormat.series fs)) ∧
    ((¬ ∃ fs, IsFormats True v fs) → ∃ fault : Fault,
      imageFormats.encode (.json v) =
        .error (.conversion "arche.datatypes.ImageFormat" fault.message)) := by
  have hok : ∀ s, imageFormats.encode (.json v) = .ok s ↔
      ∃ fs, IsFormats True v fs ∧ s = ImageFormat.series fs :=
    fun s => encode_eq_ok_iff.trans (formatsOfJson_eq_ok_iff hv)
  refine ⟨hok, fun fs h => (hok _).2 ⟨fs, h.loosen, rfl⟩, fun hnone => ?_⟩
  cases h : imageFormats.encode (.json v) with
  | ok s =>
    obtain ⟨fs, hfs, -⟩ := (hok s).1 h
    exact absurd ⟨fs, hfs⟩ hnone
  | error error =>
    obtain ⟨fault, -, rfl⟩ := encode_eq_error_iff.1 h
    exact ⟨fault, rfl⟩

/-- The object of a format is taken in, and null is refused. -/
theorem encode_json_formats_toJson :
    let f : ImageFormat := ⟨2, 3, some .rgb, none⟩
    f.toJson.Proper ∧ imageFormats.encode (.json f.toJson) = .ok (ImageFormat.series [f]) ∧
      ∃ fault : Fault, imageFormats.encode (.json .null) =
        .error (.conversion "arche.datatypes.ImageFormat" fault.message) := by
  intro f
  have hproper : f.toJson.Proper := proper_toJson f
  have hformat : IsFormats False f.toJson [f] := .one (.object (by decide) rfl rfl (.name _) .null)
  refine ⟨hproper, (encode_json_formats hproper).2.1 _ hformat, ?_⟩
  refine (encode_json_formats .null).2.2 ?_
  rintro ⟨fs, hfs⟩
  cases hfs

/-- A list of two numbers in the place of a format is taken in, as the format with this width and
this height, although it is no object. -/
theorem encode_json_formats_of_list :
    let v : Json.Value := .array [.array [.ofNat 2, .ofNat 3]]
    imageFormats.encode (.json v) = .ok (ImageFormat.series [⟨2, 3, none, none⟩]) ∧
      ¬ ∃ fs, IsFormats False v fs := by
  refine ⟨rfl, ?_⟩
  rintro ⟨fs, hfs⟩
  cases hfs with
  | several h =>
    cases h with
    | cons h _ =>
      obtain ⟨entries, h⟩ := h.exists_object
      cases h

end Encoding

end Columnar
