import SchemaForm.Proofs.Form.Reloading

/-!
# Forms that open

A form opens with its defaults.  Compiling looks at a default from outside only:
the default of a list has to be a list, that of a group an object.  Opening puts
it through the fields of the parts, and a part may not take what is in there.
The default of a text or number field never does harm, since it is shown as it
is when it does not fit.

Main results:

- Theorem `exists_load_iff_takes`: a field that opens loads the data that it takes, and no other.
- Theorem `exists_opened_iff_defaultsFit`: a built field opens when its defaults fit.
- Theorem `Form.exists_opened_iff`: a form opens exactly when the defaults of its lists and groups
  hold what their parts take.
- Theorem `Form.opened_error_countsDefault`: a form that is compiled and does not open.
-/

namespace SchemaForm

open Result

namespace Codec

/-- When the pattern of a codec can be written, data has a text when it has a value. -/
theorem exists_textOfNative_iff {codec : Codec} (hcodec : codec.IsWritable) {field : String}
    {native : Json} :
    (∃ text, codec.textOfNative field native = .ok text) ↔
      Rule.succeeded (codec.ofNative field native) = true := by
  rw [succeeded_iff]
  constructor
  · rintro ⟨text, htext⟩
    obtain ⟨value, hvalue, -⟩ := bind_eq_ok.mp htext
    exact ⟨value, hvalue⟩
  · rintro ⟨value, hvalue⟩
    obtain ⟨text, htext⟩ := exists_encode hcodec value
    exact ⟨text, bind_eq_ok.mpr ⟨value, hvalue, htext⟩⟩

end Codec

namespace Field

/-! ## Data that is taken -/

/-- Whether data has the text of a choice. -/
def hasChoiceText : Json → Bool
  | .string _ | .number _ | .bool _ => true
  | _ => false

mutual

/-- Whether a field takes data.  Each field takes `null`, and what its kind, its codec and its parts
allow. -/
def takes : Field → Json → Bool
  | .boolean _ => fun native => native.isNull || native.asBool?.isSome
  | .string spec => fun native =>
      if isSelect (.string spec) then native.isNull || hasChoiceText native
      else Rule.succeeded (spec.codec.ofNative "" native)
  | .number spec => fun native => Rule.succeeded (spec.codec.ofNative "" native)
  | .array _ item => fun native =>
      match native with
      | .null => true
      | .array natives =>
          if item.attributes.choices.isSome then natives.all hasChoiceText
          else natives.all (takes item)
      | _ => false
  | .object _ fields => fun native =>
      match native with
      | .null => true
      | .object natives =>
          natives.all fun entry => (Entries.get? (takers fields) entry.1).all (· entry.2)
      | _ => false

/-- What each of the named fields takes. -/
def takers : List (String × Field) → List (String × (Json → Bool))
  | [] => []
  | (name, field) :: rest => (name, takes field) :: takers rest

end

mutual

/-- Whether the default of each list and each group holds what the parts take.  The default of an
item of a list is never asked for. -/
def defaultsFit : Field → Bool
  | .array spec item => spec.attributes.default.all (takes (.array spec item))
  | .object spec fields =>
      fieldsDefaultsFit fields && spec.attributes.default.all (takes (.object spec fields))
  | _ => true

/-- Whether the defaults of named fields fit. -/
def fieldsDefaultsFit : List (String × Field) → Bool
  | [] => true
  | (_, field) :: rest => defaultsFit field && fieldsDefaultsFit rest

end

theorem get?_takers (fields : List (String × Field)) (name : String) :
    Entries.get? (takers fields) name = (Entries.get? fields name).map takes := by
  induction fields with
  | nil => rfl
  | cons field rest ih =>
      simp only [takers, Entries.get?_cons, ih]
      split <;> rfl

/-- A group takes an object when each field takes what stands under its name. -/
theorem takes_object_iff {spec : Spec} {fields : List (String × Field)}
    {natives : List (String × Json)} :
    takes (.object spec fields) (.object natives) = true ↔
      ∀ entry ∈ natives, ∀ field, Entries.get? fields entry.1 = some field →
        field.takes entry.2 = true := by
  simp only [takes, List.all_eq_true, get?_takers]
  refine forall₂_congr fun entry _ => ?_
  cases Entries.get? fields entry.1 <;> simp

theorem fieldsDefaultsFit_iff {fields : List (String × Field)} :
    fieldsDefaultsFit fields = true ↔ ∀ field ∈ fields, field.2.defaultsFit = true := by
  induction fields with
  | nil => simp [fieldsDefaultsFit]
  | cons field rest ih =>
      simp only [fieldsDefaultsFit, Bool.and_eq_true, ih, List.forall_mem_cons]

/-! ## Fields without parts -/

/-- Data has the text of a choice when it is a scalar. -/
theorem exists_choiceText_iff {native : Json} :
    (∃ text, choiceText native = .ok text) ↔ hasChoiceText native = true := by
  cases native <;> simp [choiceText, hasChoiceText]

section Leaves

variable {field : Field} {native : Json}

/-- An input field loads what its codec takes. -/
theorem exists_load_input_iff (hinput : field.isInput = true)
    (hcodec : field.spec.codec.IsWritable) :
    (∃ draft, field.load native = .ok draft) ↔
      Rule.succeeded (field.spec.codec.ofNative "" native) = true := by
  rw [load_input hinput, exists_map_eq_ok]
  exact Codec.exists_textOfNative_iff hcodec

/-- A field without parts loads what it takes. -/
theorem exists_load_iff_takes_of_leaf (hkind : field.kind ≠ .array ∧ field.kind ≠ .object)
    (hcodec : field.spec.codec.IsWritable) :
    (∃ draft, field.load native = .ok draft) ↔ field.takes native = true := by
  cases field with
  | boolean spec => cases native <;> simp [load, takes, Json.isNull, Json.asBool?]
  | string spec =>
      by_cases hselect : isSelect (.string spec) = true
      · have hempty : native.isNull = true ↔ native = .null := by
          cases native <;> simp [Json.isNull]
        simp only [load_select hselect, takes, hselect, if_true, Bool.or_eq_true, hempty,
          ← exists_choiceText_iff]
        constructor
        · rintro ⟨draft, ⟨hnull, -⟩ | ⟨text, htext, -⟩⟩
          · exact .inl hnull
          · exact .inr ⟨text, htext⟩
        · rintro (hnull | ⟨text, htext⟩)
          · exact ⟨_, .inl ⟨hnull, rfl⟩⟩
          · exact ⟨_, .inr ⟨text, htext, rfl⟩⟩
      · rw [Bool.not_eq_true] at hselect
        rw [exists_load_input_iff (isInput_string hselect) hcodec]
        simp [takes, hselect, Field.spec]
  | number spec =>
      rw [exists_load_input_iff rfl hcodec]
      simp [takes, Field.spec]
  | array spec item => exact absurd rfl hkind.1
  | object spec fields => exact absurd rfl hkind.2

/-- A field without parts opens. -/
theorem exists_opened_of_leaf (hkind : field.kind ≠ .array ∧ field.kind ≠ .object)
    (hpatterns : field.spec.patterns.IsWritable) : ∃ start, field.opened = .ok start := by
  cases field with
  | boolean spec => exact ⟨_, rfl⟩
  | string spec =>
      simp only [opened]
      split
      · exact ⟨_, rfl⟩
      · exact exists_map_eq_ok.mpr (Spec.exists_defaultText hpatterns)
  | number spec => exact exists_map_eq_ok.mpr (Spec.exists_defaultText hpatterns)
  | array spec item => exact absurd rfl hkind.1
  | object spec fields => exact absurd rfl hkind.2

/-- The defaults of a field without parts fit. -/
theorem defaultsFit_of_leaf (hkind : field.kind ≠ .array ∧ field.kind ≠ .object) :
    field.defaultsFit = true := by
  cases field with
  | array spec item => exact absurd rfl hkind.1
  | object spec fields => exact absurd rfl hkind.2
  | _ => rfl

end Leaves

/-! ## Lists and groups -/

section Parts

variable {spec : Spec} {item : Field} {fields : List (String × Field)}

/-- Data is merged exactly when each of its known entries can be loaded. -/
theorem exists_mergeInto_iff {loaders : Entries (Json → Except DataError Draft)}
    {group : Entries Draft} {natives : List (String × Json)} :
    (∃ merged, mergeInto loaders group natives = .ok merged) ↔
      ∀ entry ∈ natives, ∀ load, loaders.get? entry.1 = some load →
        ∃ draft, load entry.2 = .ok draft := by
  refine ⟨?_, fun h => exists_mergeInto h group⟩
  induction natives generalizing group with
  | nil => simp
  | cons first rest ih =>
      rintro ⟨merged, hmerged⟩
      rw [List.forall_mem_cons]
      rcases mergeInto_cons hmerged with ⟨hunknown, hrest⟩ | ⟨load, draft, hload, hdraft, hrest⟩
      · refine ⟨?_, ih ⟨merged, hrest⟩⟩
        intro load hload
        rw [hunknown] at hload
        cases hload
      · refine ⟨?_, ih ⟨merged, hrest⟩⟩
        intro other hother
        rw [hload, Option.some.injEq] at hother
        exact ⟨draft, hother ▸ hdraft⟩

/-- Data is merged into a group exactly when the group takes it, if its fields load what they
take. -/
theorem exists_mergeInto_iff_takes
    (hfields : ∀ field ∈ fields, ∀ native,
      (∃ draft, field.2.load native = .ok draft) ↔ field.2.takes native = true)
    {group : Entries Draft} {natives : List (String × Json)} :
    (∃ merged, mergeInto (loaders fields) group natives = .ok merged) ↔
      takes (.object spec fields) (.object natives) = true := by
  rw [exists_mergeInto_iff, takes_object_iff]
  refine forall₂_congr fun entry _ => ?_
  rw [get?_loaders]
  cases hfield : Entries.get? fields entry.1 with
  | none => simp
  | some field =>
      simp only [Option.map_some, Option.some.injEq, forall_eq']
      exact hfields _ (Entries.mem_of_get? hfield) entry.2

/-- The fields of a group open together exactly when each of them does. -/
theorem exists_openedFields_iff :
    (∃ drafts, openedFields fields = .ok drafts) ↔
      ∀ field ∈ fields, ∃ start, field.2.opened = .ok start := by
  simp only [openedFields_eq_ok]
  constructor
  · rintro ⟨drafts, hdrafts⟩ field hfield
    obtain ⟨draft, -, -, hdraft⟩ := exists_of_forall₂ hdrafts hfield
    exact ⟨draft.2, hdraft⟩
  · intro h
    apply exists_forall₂
    intro field hfield
    obtain ⟨start, hstart⟩ := h field hfield
    exact ⟨(field.1, start), rfl, hstart⟩

/-- A group that opens loads an object when it takes it, if its fields do so. -/
theorem exists_load_object_iff_takes
    (hopened : ∃ start, opened (.object spec fields) = .ok start)
    (hfields : ∀ field ∈ fields, ∀ native,
      (∃ draft, field.2.load native = .ok draft) ↔ field.2.takes native = true)
    {natives : List (String × Json)} :
    (∃ draft, load (.object spec fields) (.object natives) = .ok draft) ↔
      takes (.object spec fields) (.object natives) = true := by
  obtain ⟨start, hstart⟩ := hopened
  obtain ⟨-, base, -, -, rfl⟩ := opened_object_eq_ok.mp hstart
  have hmerge : (∃ merged, mergeInto (loaders fields) base natives = .ok merged) ↔
      takes (.object spec fields) (.object natives) = true :=
    exists_mergeInto_iff_takes hfields
  rw [← hmerge]
  constructor
  · rintro ⟨draft, hdraft⟩
    obtain ⟨base', merged, hbase, hmerged, -⟩ := load_object_eq_ok.mp hdraft
    rw [hstart] at hbase
    cases hbase
    exact ⟨merged, hmerged⟩
  · rintro ⟨merged, hmerged⟩
    exact ⟨_, load_object_eq_ok.mpr ⟨base, merged, hstart, hmerged, rfl⟩⟩

/-- A list loads an array when it takes it, if its items do so. -/
theorem exists_load_array_iff_takes
    (hitem : ∀ native, (∃ draft, item.load native = .ok draft) ↔ item.takes native = true)
    {natives : List Json} :
    (∃ draft, load (.array spec item) (.array natives) = .ok draft) ↔
      takes (.array spec item) (.array natives) = true := by
  rw [exists_load_array_iff, takes]
  split
  · simp only [exists_choiceText_iff, List.all_eq_true]
  · simp only [hitem, List.all_eq_true]

/-- A list opens when it takes its default. -/
theorem exists_opened_array_iff
    (hdefault : ∀ value ∈ spec.attributes.default, value = .null ∨ ∃ items, value = .array items)
    (hitem : ∀ native, (∃ draft, item.load native = .ok draft) ↔ item.takes native = true) :
    (∃ start, opened (.array spec item) = .ok start) ↔
      spec.attributes.default.all (takes (.array spec item)) = true := by
  cases hvalue : spec.attributes.default with
  | none => simp [opened, hvalue]
  | some value =>
      rw [Option.all_some]
      rcases hdefault value hvalue with rfl | ⟨natives, rfl⟩
      · simp [opened, hvalue, takes]
      · rw [← exists_load_array_iff_takes hitem]
        simp [opened, load, hvalue]

/-- A group opens when its fields do and it takes its default. -/
theorem exists_opened_object_iff
    (hdefault : ∀ value ∈ spec.attributes.default,
      value = .null ∨ ∃ entries, value = .object entries)
    (hfields : ∀ field ∈ fields, (∃ start, field.2.opened = .ok start) → ∀ native,
      ((∃ draft, field.2.load native = .ok draft) ↔ field.2.takes native = true)) :
    (∃ start, opened (.object spec fields) = .ok start) ↔
      (∀ field ∈ fields, ∃ start, field.2.opened = .ok start) ∧
        spec.attributes.default.all (takes (.object spec fields)) = true := by
  have hmerge : ∀ drafts, (∀ field ∈ fields, ∃ start, field.2.opened = .ok start) →
      ((∃ base, mergeDefault (loaders fields) spec drafts = .ok base) ↔
        spec.attributes.default.all (takes (.object spec fields)) = true) := by
    intro drafts hopen
    have hloads := fun field hfield => hfields field hfield (hopen field hfield)
    unfold mergeDefault
    cases hvalue : spec.attributes.default with
    | none => simp
    | some value =>
        rw [Option.all_some]
        rcases hdefault value hvalue with rfl | ⟨entries, rfl⟩
        · simp [takes]
        · exact exists_mergeInto_iff_takes hloads
  constructor
  · rintro ⟨start, hstart⟩
    obtain ⟨drafts, base, hdrafts, hbase, -⟩ := opened_object_eq_ok.mp hstart
    have hopen := exists_openedFields_iff.mp ⟨drafts, hdrafts⟩
    exact ⟨hopen, (hmerge drafts hopen).mp ⟨base, hbase⟩⟩
  · rintro ⟨hopen, htakes⟩
    obtain ⟨drafts, hdrafts⟩ := exists_openedFields_iff.mpr hopen
    obtain ⟨base, hbase⟩ := (hmerge drafts hopen).mpr htakes
    exact ⟨_, opened_object_eq_ok.mpr ⟨drafts, base, hdrafts, hbase, rfl⟩⟩

end Parts

/-! ## Built fields -/

section Fields

variable {registry : Registry} {settings : Settings} {keyed : Prop} {field : Field}

/-- A built field loads exactly the data that it takes, if it is no group or opens. -/
theorem exists_load_iff_takes (hregistry : registry.IsRegular)
    (hpatterns : settings.patterns.IsWritable)
    (hfield : Building.Built registry settings keyed field)
    (hopened : field.kind = .object → ∃ start, field.opened = .ok start) (native : Json) :
    (∃ draft, field.load native = .ok draft) ↔ field.takes native = true := by
  induction hfield generalizing native with
  | boolean => exact exists_load_iff_takes_of_leaf ⟨nofun, nofun⟩ (Spec.isWritable_codec hpatterns)
  | string => exact exists_load_iff_takes_of_leaf ⟨nofun, nofun⟩ (Spec.isWritable_codec hpatterns)
  | number => exact exists_load_iff_takes_of_leaf ⟨nofun, nofun⟩ (Spec.isWritable_codec hpatterns)
  | array _ _ _ hgroup ih =>
      -- No item is a group, so that nothing in the list has to open.
      have hitem := ih fun hobject => absurd hobject (hgroup hregistry)
      cases native with
      | null => simp [load, takes]
      | array natives => exact exists_load_array_iff_takes hitem
      | _ => simp [load, takes]
  | object _ _ _ _ ih =>
      have hopen := hopened rfl
      cases native with
      | null => simp [load, takes]
      | object natives =>
          refine exists_load_object_iff_takes hopen fun field hmem => ?_
          exact ih field hmem fun _ => exists_opened_of_mem hopen hmem
      | _ => simp [load, takes]
  | other hbuild hsettings _ _ _ hmade =>
      obtain ⟨hkind, hsame⟩ := hregistry _ _ hbuild _ _ _ _ _ hmade
      rw [hsettings] at hsame
      exact exists_load_iff_takes_of_leaf hkind (Spec.isWritable_codec (hsame ▸ hpatterns))

/-- A built field opens exactly when the defaults in it fit. -/
theorem exists_opened_iff_defaultsFit (hregistry : registry.IsRegular)
    (hpatterns : settings.patterns.IsWritable)
    (hfield : Building.Built registry settings keyed field) :
    (∃ start, field.opened = .ok start) ↔ field.defaultsFit = true := by
  induction hfield with
  | boolean => exact iff_of_true ⟨_, rfl⟩ rfl
  | string => exact iff_of_true (exists_opened_of_leaf ⟨nofun, nofun⟩ hpatterns) rfl
  | number => exact iff_of_true (exists_opened_of_leaf ⟨nofun, nofun⟩ hpatterns) rfl
  | array _ hdefault hitem hgroup =>
      refine exists_opened_array_iff hdefault fun native => ?_
      -- No item is a group, so that nothing in the list has to open.
      exact exists_load_iff_takes hregistry hpatterns hitem
        (fun hobject => absurd hobject (hgroup hregistry)) native
  | @object header default fields htype hdefault hnames hbuilt ih =>
      have hloads : ∀ field ∈ fields, (∃ start, field.2.opened = .ok start) → ∀ native,
          ((∃ draft, field.2.load native = .ok draft) ↔ field.2.takes native = true) :=
        fun field hmem hopen =>
          exists_load_iff_takes hregistry hpatterns (hbuilt field hmem) fun _ => hopen
      rw [exists_opened_object_iff hdefault hloads, defaultsFit, Bool.and_eq_true,
        fieldsDefaultsFit_iff]
      exact and_congr_left' (forall₂_congr ih)
  | other hbuild hsettings _ _ _ hmade =>
      obtain ⟨hkind, hsame⟩ := hregistry _ _ hbuild _ _ _ _ _ hmade
      rw [hsettings] at hsame
      have hopen := exists_opened_of_leaf hkind (hsame ▸ hpatterns)
      exact iff_of_true hopen (defaultsFit_of_leaf hkind)

end Fields

end Field

namespace Form

/-- A form opens exactly when the defaults of its lists and groups hold what their parts take. -/
theorem exists_opened_iff {registry : Registry} {settings : Settings} {schema : Json} {form : Form}
    (hregistry : registry.IsRegular) (hpatterns : settings.patterns.IsWritable)
    (hform : compile registry settings schema = .ok form) :
    (∃ start, form.opened = .ok start) ↔ form.root.defaultsFit = true :=
  Field.exists_opened_iff_defaultsFit hregistry hpatterns (Building.built_of_compile id hform).1

/-- The form for an appointment opens. -/
theorem exists_opened_appointment :
    ∃ form start, compile Registry.standard {} appointmentSchema = .ok form ∧
      form.opened = .ok start := by
  have hevaluated :
      (passes (compile Registry.standard {} appointmentSchema) fun form =>
        form.root.defaultsFit) = true := by
    decide +kernel
  obtain ⟨form, hform, hfit⟩ := passes_iff.mp hevaluated
  have hiff := exists_opened_iff Registry.isBuiltIn_standard.isRegular
    DatePatterns.isWritable_default hform
  obtain ⟨start, hstart⟩ := hiff.mpr hfit
  exact ⟨form, start, hform, hstart⟩

/-- A schema with a list of integers that starts with a text. -/
def countsDefaultSchema : Json :=
  .object
    [("type", .string "object"),
      ("properties",
        .object
          [("counts",
            .object
              [("type", .string "array"), ("items", .object [("type", .string "integer")]),
                ("default", .array [.string "x"])])])]

/-- A list of integers that starts with a text has a form, and the form does not open. -/
theorem opened_error_countsDefault :
    ∃ form error, compile Registry.standard {} countsDefaultSchema = .ok form ∧
      form.opened = .error error := by
  have hevaluated :
      (passes (compile Registry.standard {} countsDefaultSchema) fun form =>
        !Rule.succeeded form.opened) = true := by
    decide +kernel
  simp only [passes_iff, Bool.not_eq_true', not_succeeded_iff] at hevaluated
  obtain ⟨form, hform, error, herror⟩ := hevaluated
  exact ⟨form, error, hform, herror⟩

end Form
end SchemaForm
