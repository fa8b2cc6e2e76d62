import SchemaForm.Proofs.Codec.RoundTrip
import SchemaForm.Proofs.Field.Regular
import SchemaForm.Proofs.Form.Merging

/-!
# Data and drafts that stand for each other

Data corresponds to a draft when it loads as the draft and the draft reads as
the data.  Input fields leave this to their codec, and the parts of lists and
groups correspond one by one.

Main results:

- Theorem `corresponds_input`: data of an input field corresponds to its text.
- Theorem `corresponds_select`, Theorem `corresponds_choices`: texts correspond to choices.
- Theorem `corresponds_list`, Theorem `corresponds_group`: lists and groups correspond when their
  parts do.
-/

namespace SchemaForm
namespace Field

open Result

/-- Data that loads as a draft which reads as this data. -/
structure Corresponds (field : Field) (native : Json) (draft : Draft) : Prop where
  load_eq : field.load native = .ok draft
  read_eq : field.read draft = .ok native

variable {spec : Spec} {item : Field} {fields : List (String × Field)} {native : Json}
  {draft : Draft}

/-! ## Input fields and choices -/

/-- Whether a field is entered as text. -/
def isInput : Field → Bool
  | .string spec => !isSelect (.string spec)
  | .number _ => true
  | _ => false

theorem isInput_string (hselect : isSelect (.string spec) = false) :
    isInput (.string spec) = true := by
  simp [isInput, hselect]

/-- An input field loads the text of its codec; the empty text is the cleared one. -/
theorem load_input {field : Field} (hinput : field.isInput = true) (native : Json) :
    field.load native = (field.spec.codec.textOfNative "" native).map .text := by
  cases field with
  | string spec =>
      have hselect : isSelect (.string spec) = false := by simpa [isInput] using hinput
      cases native with
      | null => simp [load, cleared, hselect, Field.spec, Codec.textOfNative_null, Except.map]
      | _ => simp [load, hselect, Field.spec]
  | number spec =>
      cases native with
      | null => simp [load, cleared, Field.spec, Codec.textOfNative_null, Except.map]
      | _ => simp [load, Field.spec]
  | _ => cases hinput

/-- An input field reads a text as its codec does. -/
theorem read_input {field : Field} (hinput : field.isInput = true) (text : String) :
    field.read (.text text) = field.spec.codec.nativeOfText text := by
  cases field with
  | string spec => simp [read, Field.spec]
  | number spec => simp [read, Field.spec]
  | _ => cases hinput

/-- Data of an input field corresponds to its text when the text stands for the data. -/
theorem corresponds_input {field : Field} {text : String} (hinput : field.isInput = true)
    (htext : field.spec.codec.textOfNative "" native = .ok text)
    (hnative : field.spec.codec.nativeOfText text = .ok native) :
    field.Corresponds native (.text text) := by
  constructor
  · rw [load_input hinput, htext]
    rfl
  · rw [read_input hinput, hnative]

/-- A closed list loads `null` as no choice and a scalar as the choice of its text. -/
theorem load_select (hselect : isSelect (.string spec) = true) :
    load (.string spec) native = .ok draft ↔
      (native = .null ∧ .choice none = draft) ∨
        ∃ chosen, choiceText native = .ok chosen ∧ .choice (some chosen) = draft := by
  cases native with
  | null => simp [load, cleared, hselect, choiceText]
  | _ => simp [load, hselect, map_eq_ok]

theorem corresponds_select (hselect : isSelect (.string spec) = true) (chosen : Option String) :
    Corresponds (.string spec) (.ofString? chosen) (.choice chosen) := by
  refine ⟨?_, rfl⟩
  cases chosen with
  | none => exact (load_select hselect).mpr (.inl ⟨rfl, rfl⟩)
  | some text => exact (load_select hselect).mpr (.inr ⟨text, rfl, rfl⟩)

/-! ## Lists -/

theorem corresponds_choices (hchoices : item.attributes.choices.isSome = true)
    (texts : List String) : Corresponds (.array spec item) (.ofStrings texts) (.choices texts) := by
  refine ⟨?_, rfl⟩
  have htexts : eachItem choiceText 0 (texts.map Json.string) = .ok texts := by
    rw [eachItem_eq_ok, List.forall₂_map_left_iff, List.forall₂_same]
    intro text _
    rfl
  simp only [load, Json.ofStrings, loadItems, hchoices, htexts, if_true]
  rfl

/-- Lists correspond when their items do. -/
theorem corresponds_list (hchoices : item.attributes.choices.isSome = false) {natives : List Json}
    {drafts : List Draft} (h : List.Forall₂ item.Corresponds natives drafts) :
    Corresponds (.array spec item) (.array natives) (.list drafts) := by
  have hload : eachItem item.load 0 natives = .ok drafts :=
    eachItem_eq_ok.mpr (h.imp fun _ _ hitem => hitem.load_eq)
  refine ⟨?_, ?_⟩
  · simp [load, loadItems, hchoices, hload, Except.map]
  · exact read_list_eq_ok.mpr ⟨natives, (h.imp fun _ _ hitem => hitem.read_eq).flip, rfl⟩

/-! ## Groups -/

/-- With distinct names, values that belong to the fields of a group can be collected under their
names. -/
theorem exists_entries {α : Type} {related : String × Field → α → Prop}
    (hnames : (Entries.names fields).Nodup) (h : ∀ field ∈ fields, ∃ value, related field value) :
    ∃ entries : Entries α, entries.names = Entries.names fields ∧
      ∀ field ∈ fields, ∃ value, entries.get? field.1 = some value ∧ related field value := by
  have hnamed : ∀ field ∈ fields, ∃ entry : String × α, entry.1 = field.1 ∧
      related field entry.2 := by
    intro field hfield
    obtain ⟨value, hvalue⟩ := h field hfield
    exact ⟨(field.1, value), rfl, hvalue⟩
  obtain ⟨entries, hentries⟩ := exists_forall₂ hnamed
  have hsame : Entries.names entries = Entries.names fields := names_of_forall₂ hentries
  refine ⟨entries, hsame, ?_⟩
  intro field hfield
  obtain ⟨⟨name, value⟩, hmem, hname, hrelated⟩ := exists_of_forall₂ hentries hfield
  rw [← hname]
  exact ⟨value, Entries.get?_of_mem (hsame ▸ hnames) hmem, hrelated⟩

/-- Parts of a group that correspond under the same name. -/
def PartsCorrespond (fields : List (String × Field)) (natives : Entries Json)
    (drafts : Entries Draft) : Prop :=
  ∀ field ∈ fields, ∃ native draft, natives.get? field.1 = some native ∧
    drafts.get? field.1 = some draft ∧ field.2.Corresponds native draft

/-- A group is read as the data that its parts are read as. -/
theorem read_group_of_nodes (hnames : (Entries.names fields).Nodup) {natives : Entries Json}
    {drafts : Entries Draft} (hnatives : natives.names = Entries.names fields)
    (h : ∀ field ∈ fields, ∃ native draft, natives.get? field.1 = some native ∧
      drafts.get? field.1 = some draft ∧ field.2.read draft = .ok native) :
    read (.object spec fields) (.group drafts) = .ok (.object natives) := by
  have hparts : ∀ field ∈ fields, ∃ native, natives.get? field.1 = some native ∧
      field.2.readNode (drafts.get? field.1) = .ok native := by
    intro field hfield
    obtain ⟨native, draft, hnative, hdraft, hread⟩ := h field hfield
    refine ⟨native, hnative, ?_⟩
    rw [hdraft]
    exact hread
  exact read_group_eq_ok.mpr ⟨natives, forall₂_of_names hnatives hnames hparts, rfl⟩

/-- A group whose parts correspond is read. -/
theorem read_group_of_parts (hnames : (Entries.names fields).Nodup) {natives : Entries Json}
    {drafts : Entries Draft} (hnatives : natives.names = Entries.names fields)
    (h : PartsCorrespond fields natives drafts) :
    read (.object spec fields) (.group drafts) = .ok (.object natives) := by
  refine read_group_of_nodes hnames hnatives fun field hfield => ?_
  obtain ⟨native, draft, hnative, hdraft, hcorresponds⟩ := h field hfield
  exact ⟨native, draft, hnative, hdraft, hcorresponds.read_eq⟩

/-- A group that opens is loaded as the drafts that its parts load as. -/
theorem load_group_of_nodes (hnames : (Entries.names fields).Nodup)
    (hopened : ∃ draft, opened (.object spec fields) = .ok draft) {natives : Entries Json}
    {drafts : Entries Draft} (hnatives : natives.names = Entries.names fields)
    (hdrafts : drafts.names = Entries.names fields)
    (h : ∀ field ∈ fields, ∃ native draft, natives.get? field.1 = some native ∧
      drafts.get? field.1 = some draft ∧ field.2.load native = .ok draft) :
    load (.object spec fields) (.object natives) = .ok (.group drafts) := by
  have hdistinct : natives.names.Nodup := hnatives ▸ hnames
  have hloads : ∀ field ∈ fields, ∀ native, natives.get? field.1 = some native →
      ∃ draft, field.2.load native = .ok draft := by
    intro field hfield native hnative
    obtain ⟨_, draft, hsame, -, hload⟩ := h field hfield
    rw [hnative, Option.some.injEq] at hsame
    exact ⟨draft, hsame ▸ hload⟩
  obtain ⟨loaded, hload⟩ := (exists_load_object_iff hnames hopened hnatives).mpr hloads
  obtain ⟨base, merged, hstart, hmerged, rfl⟩ := load_object_eq_ok.mp hload
  have hmergedNames : merged.names = Entries.names fields :=
    names_mergeInto_loaders (names_opened hstart) hmerged
  -- Both groups hold under each name what the data under it loads as.
  have hsame : merged = drafts := by
    refine Entries.ext_get? (hmergedNames.trans hdrafts.symm) (hmergedNames ▸ hnames) ?_
    intro name hname
    rw [hmergedNames] at hname
    obtain ⟨field, hfield⟩ := Entries.exists_get? hname
    obtain ⟨native, draft, hnative, hdraft, hpart⟩ := h _ (Entries.mem_of_get? hfield)
    obtain ⟨loaded, hloaded, hget⟩ :=
      get?_mergeInto hdistinct hmerged (get?_loaders_of_get? hfield) hnative
    rw [hpart] at hloaded
    cases hloaded
    rw [hget, hdraft]
  rw [← hsame]
  exact hload

/-- A group that opens is loaded when its parts correspond. -/
theorem load_group_of_parts (hnames : (Entries.names fields).Nodup)
    (hopened : ∃ draft, opened (.object spec fields) = .ok draft) {natives : Entries Json}
    {drafts : Entries Draft} (hnatives : natives.names = Entries.names fields)
    (hdrafts : drafts.names = Entries.names fields) (h : PartsCorrespond fields natives drafts) :
    load (.object spec fields) (.object natives) = .ok (.group drafts) := by
  refine load_group_of_nodes hnames hopened hnatives hdrafts fun field hfield => ?_
  obtain ⟨native, draft, hnative, hdraft, hcorresponds⟩ := h field hfield
  exact ⟨native, draft, hnative, hdraft, hcorresponds.load_eq⟩

/-- Groups correspond when their parts do. -/
theorem corresponds_group (hnames : (Entries.names fields).Nodup)
    (hopened : ∃ draft, opened (.object spec fields) = .ok draft) {natives : Entries Json}
    {drafts : Entries Draft} (hnatives : natives.names = Entries.names fields)
    (hdrafts : drafts.names = Entries.names fields) (h : PartsCorrespond fields natives drafts) :
    Corresponds (.object spec fields) (.object natives) (.group drafts) :=
  ⟨load_group_of_parts hnames hopened hnatives hdrafts h, read_group_of_parts hnames hnatives h⟩

end Field
end SchemaForm
