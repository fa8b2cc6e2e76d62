import SchemaForm.Proofs.Form.Canonical

/-!
# Complete data

Data is complete for a form when no object in it leaves out a field.  Loading
may rewrite its values: times lose their seconds, scalars become texts, and
`null` clears a whole group.  Under the default patterns it does so once: what
complete data loads as can be read, and what is read loads as the same draft.  The
groups among the items of lists have to open for it.

Main results:

- Theorem `exists_corresponds_of_load`: what complete data loads as corresponds to some data.
- Theorem `exists_read_of_load`: what complete data loads as can be read and loaded again.
- Theorem `not_exists_read_invoice`: not so where a group among the items of a list does not open.
-/

namespace SchemaForm
namespace Field

open Result

mutual

/-- Whether an object that is given for a group has all fields of the group as keys, and so have the
objects for groups in it and in lists. -/
def isComplete : Field → Json → Bool
  | .array _ item => fun native =>
      match native with
      | .array natives => natives.all (isComplete item)
      | _ => true
  | .object _ fields => fun native =>
      match native with
      | .object natives => isCompleteFor fields natives
      | _ => true
  | .boolean _ | .string _ | .number _ => fun _ => true

/-- Whether each field has complete data under its name. -/
def isCompleteFor : List (String × Field) → Entries Json → Bool
  | [] => fun _ => true
  | (name, field) :: rest => fun natives =>
      (natives.get? name).any (isComplete field) && isCompleteFor rest natives

end

theorem isCompleteFor_iff {fields : List (String × Field)} {natives : Entries Json} :
    isCompleteFor fields natives = true ↔ ∀ field ∈ fields,
      ∃ native, natives.get? field.1 = some native ∧ field.2.isComplete native = true := by
  induction fields with
  | nil => simp [isCompleteFor]
  | cons field rest ih =>
      simp only [isCompleteFor, Bool.and_eq_true, Option.any_eq_true, ih, List.forall_mem_cons]

theorem isComplete_null (field : Field) : field.isComplete .null = true := by
  cases field <;> simp [isComplete]

/-- Where no item of a list is a group, all data but that for a group is complete. -/
theorem isComplete_of_isRegular {patterns : DatePatterns} {field : Field}
    (hfield : field.IsRegular patterns) (hgroup : field.kind ≠ .object) (native : Json) :
    field.isComplete native = true := by
  induction hfield generalizing native with
  | boolean | string | number => rfl
  | array _ hitem ih =>
      cases native with
      | array natives => exact List.all_eq_true.mpr fun value _ => ih hitem value
      | _ => rfl
  | object => exact absurd rfl hgroup

/-! ## Input fields and lists -/

section Parts

variable {spec : Spec} {item : Field} {fields : List (String × Field)} {native : Json}
  {draft : Draft}

/-- The text of proper data in an input field corresponds to some data. -/
theorem exists_corresponds_of_load_input {field : Field} (hinput : field.isInput = true)
    (hpatterns : field.spec.patterns = {}) (hnative : native.Proper)
    (h : field.load native = .ok draft) : ∃ settled, field.Corresponds settled draft := by
  rw [load_input hinput] at h
  obtain ⟨text, htext, rfl⟩ := map_eq_ok.mp h
  obtain ⟨settled, hread, hsettled⟩ :=
    Codec.exists_native_of_text (isDefault_codec hpatterns) hnative htext
  exact ⟨settled, corresponds_input hinput hsettled hread⟩

/-- The choice of a closed list corresponds to some data. -/
theorem exists_corresponds_of_load_select (hselect : isSelect (.string spec) = true)
    (h : load (.string spec) native = .ok draft) :
    ∃ settled, Corresponds (.string spec) settled draft := by
  rcases (load_select hselect).mp h with ⟨-, rfl⟩ | ⟨chosen, -, rfl⟩
  · exact ⟨_, corresponds_select hselect none⟩
  · exact ⟨_, corresponds_select hselect (some chosen)⟩

/-- A loaded list holds choices, or what each of its items loads as; a cleared one has no items. -/
theorem cases_load_array (h : load (.array spec item) native = .ok draft) :
    (item.attributes.choices.isSome = true ∧ ∃ texts, draft = .choices texts) ∨
      (item.attributes.choices.isSome = false ∧ ∃ drafts, draft = .list drafts ∧
        List.Forall₂ (fun native draft => item.load native = .ok draft)
          (native.asArray?.getD []) drafts) := by
  cases native with
  | null =>
      rw [load_null] at h
      cases h
      unfold cleared
      split
      · rename_i hchoices
        exact .inl ⟨hchoices, [], rfl⟩
      · rename_i hchoices
        exact .inr ⟨Bool.eq_false_iff.mpr hchoices, [], rfl, .nil⟩
  | array natives =>
      simp only [load, loadItems] at h
      split at h
      · rename_i hchoices
        obtain ⟨texts, -, rfl⟩ := map_eq_ok.mp h
        exact .inl ⟨hchoices, texts, rfl⟩
      · rename_i hchoices
        obtain ⟨drafts, hdrafts, rfl⟩ := map_eq_ok.mp h
        exact .inr ⟨Bool.eq_false_iff.mpr hchoices, drafts, rfl, eachItem_eq_ok.mp hdrafts⟩
  | _ => simp [load] at h

/-- The items of proper data are proper. -/
theorem proper_of_mem_items (hnative : native.Proper) {value : Json}
    (h : value ∈ native.asArray?.getD []) : value.Proper := by
  cases native with
  | array natives => exact hnative.item h
  | _ => cases h

/-- The items of complete data for a list are complete. -/
theorem isComplete_of_mem_items (hcomplete : isComplete (.array spec item) native = true)
    {value : Json} (h : value ∈ native.asArray?.getD []) : item.isComplete value = true := by
  cases native with
  | array natives => exact List.all_eq_true.mp hcomplete value h
  | _ => cases h

/-! ## Groups -/

/-- A cleared group has the cleared draft of each of its fields. -/
theorem get?_clearedFields (hnames : (Entries.names fields).Nodup) {field : String × Field}
    (hfield : field ∈ fields) :
    Entries.get? (clearedFields fields) field.1 = some field.2.cleared := by
  refine Entries.get?_of_mem ?_ ?_
  · rw [names_clearedFields]
    exact hnames
  · rw [clearedFields_eq_map]
    exact List.mem_map.mpr ⟨field, hfield, rfl⟩

/-- A group that is loaded from complete data has for each field what complete data loads as. -/
theorem exists_loaded_of_load_object (hnames : (Entries.names fields).Nodup)
    (hnative : native.Proper) (hcomplete : isComplete (.object spec fields) native = true)
    (h : load (.object spec fields) native = .ok draft) :
    ∃ drafts : Entries Draft, draft = .group drafts ∧ drafts.names = Entries.names fields ∧
      ∀ field ∈ fields, ∃ node value, drafts.get? field.1 = some node ∧ value.Proper ∧
        field.2.isComplete value = true ∧ field.2.load value = .ok node := by
  cases native with
  | null =>
      rw [load_null] at h
      cases h
      refine ⟨clearedFields fields, rfl, names_clearedFields fields, ?_⟩
      intro field hfield
      exact ⟨field.2.cleared, .null, get?_clearedFields hnames hfield, .null,
        isComplete_null field.2, load_null field.2⟩
  | object natives =>
      obtain ⟨base, drafts, hopened, hmerged, rfl⟩ := load_object_eq_ok.mp h
      refine ⟨drafts, rfl, names_mergeInto_loaders (names_opened hopened) hmerged, ?_⟩
      intro field hfield
      obtain ⟨value, hvalue, hfull⟩ := isCompleteFor_iff.mp hcomplete field hfield
      have hloader := get?_loaders_of_get? (Entries.get?_of_mem hnames hfield)
      obtain ⟨node, hnode, hget⟩ := get?_mergeInto hnative.nodup_names hmerged hloader hvalue
      exact ⟨node, value, hget, hnative.get? hvalue, hfull, hnode⟩
  | _ => simp [load] at h

end Parts

/-! ## Fields -/

/-- What complete data loads as corresponds to some data, if the field opens. -/
theorem exists_corresponds_of_load {field : Field} (hfield : field.IsReloadable) {native : Json}
    {draft : Draft} (hnative : native.Proper) (hcomplete : field.isComplete native = true)
    (hopened : field.kind = .object → ∃ start, field.opened = .ok start)
    (h : field.load native = .ok draft) : ∃ settled, field.Corresponds settled draft := by
  induction field using Field.induction generalizing native draft with
  | boolean spec =>
      cases native with
      | null =>
          cases h
          exact ⟨.bool false, rfl, rfl⟩
      | bool on =>
          cases h
          exact ⟨.bool on, rfl, rfl⟩
      | _ => cases h
  | string spec =>
      by_cases hselect : isSelect (.string spec) = true
      · exact exists_corresponds_of_load_select hselect h
      · have hinput := isInput_string (Bool.eq_false_iff.mpr hselect)
        cases hfield.usesPatterns with
        | string hpatterns => exact exists_corresponds_of_load_input hinput hpatterns hnative h
  | number spec =>
      cases hfield.usesPatterns with
      | number hpatterns => exact exists_corresponds_of_load_input rfl hpatterns hnative h
  | array spec item ih =>
      obtain ⟨hitem, hopen⟩ := isReloadable_item hfield
      rcases cases_load_array h with ⟨hchoices, texts, rfl⟩ | ⟨hchoices, drafts, rfl, hdrafts⟩
      · exact ⟨_, corresponds_choices hchoices texts⟩
      · have hsettled : ∀ draft ∈ drafts, ∃ settled, item.Corresponds settled draft := by
          intro draft hdraft
          obtain ⟨value, hvalue, hload⟩ := exists_of_forall₂ hdrafts.flip hdraft
          exact ih hitem (proper_of_mem_items hnative hvalue)
            (isComplete_of_mem_items hcomplete hvalue) hopen hload
        obtain ⟨natives, hnatives⟩ := exists_forall₂ hsettled
        exact ⟨.array natives, corresponds_list hchoices hnatives.flip⟩
  | object spec fields ih =>
      obtain ⟨hnames, hparts⟩ := isReloadable_fields hfield
      have hopen := hopened rfl
      obtain ⟨drafts, rfl, hdrafts, hloaded⟩ :=
        exists_loaded_of_load_object hnames hnative hcomplete h
      have hsettled : ∀ field ∈ fields, ∃ settled, ∃ node,
          drafts.get? field.1 = some node ∧ field.2.Corresponds settled node := by
        intro field hmem
        obtain ⟨node, value, hnode, hproper, hfull, hload⟩ := hloaded field hmem
        obtain ⟨settled, hsettled⟩ := ih field hmem (hparts field hmem) hproper hfull
          (fun _ => exists_opened_of_mem hopen hmem) hload
        exact ⟨settled, node, hnode, hsettled⟩
      obtain ⟨natives, hnatives, hvalues⟩ := exists_entries hnames hsettled
      refine ⟨.object natives, corresponds_group hnames hopen hnatives hdrafts ?_⟩
      intro field hmem
      obtain ⟨settled, hsettled, node, hnode, hcorresponds⟩ := hvalues field hmem
      exact ⟨settled, node, hsettled, hnode, hcorresponds⟩

/-- A group that loads an object opens. -/
theorem exists_opened_of_load_object {field : Field} {natives : Entries Json} {draft : Draft}
    (hkind : field.kind = .object) (h : field.load (.object natives) = .ok draft) :
    ∃ start, field.opened = .ok start := by
  cases field with
  | object spec fields =>
      obtain ⟨base, -, hbase, -, -⟩ := load_object_eq_ok.mp h
      exact ⟨.group base, hbase⟩
  | _ => cases hkind

end Field

namespace Form

open Result

/-- What complete data loads as can be read, and what is read loads as the same draft. -/
theorem exists_read_of_load {form : Form} {natives : Entries Json} {draft : Draft}
    (hroot : form.root.IsReloadable) (hnative : (Json.object natives).Proper)
    (hcomplete : form.root.isComplete (.object natives) = true)
    (hload : form.load (.object natives) = .ok draft) :
    ∃ value, form.read draft = .ok value ∧ form.load value = .ok draft := by
  have hopened (hkind : form.root.kind = .object) : ∃ start, form.root.opened = .ok start :=
    Field.exists_opened_of_load_object hkind hload
  obtain ⟨value, hvalue⟩ := Field.exists_corresponds_of_load hroot hnative hcomplete hopened hload
  exact ⟨value, hvalue.read_eq, hvalue.load_eq⟩

/-- Complete data of an appointment: a fraction of a second, an integer that is no exact binary
number, numbers and truth values for texts, and unknown keys. -/
def arrangement : List (String × Json) :=
  [("person",
      .object [("name", .number (.integer 5)), ("title", .array [.null]), ("born", .null)]),
    ("start", .string "2024-02-29T09:05:59.75"), ("guests", .number (.integer (-7))),
    ("fee", .number (.integer 18446744073709551615)), ("room", .bool true),
    ("topics", .array [.number (.integer 1)]), ("notes", .array [.bool false, .null]),
    ("online", .null), ("paid", .object [])]

/-- An arrangement loads as a draft that can be read and loaded again. -/
theorem exists_read_arrangement :
    ∃ form draft value, compile Registry.standard {} appointmentSchema = .ok form ∧
      form.root.IsReloadable ∧ form.root.isComplete (.object arrangement) = true ∧
        form.load (.object arrangement) = .ok draft ∧ form.read draft = .ok value ∧
          form.load value = .ok draft := by
  have hregistry := Registry.isBuiltIn_standard.isRegular
  have hschema : appointmentSchema.Proper := by decide +kernel
  have hnative : (Json.object arrangement).Proper := by decide +kernel
  have hevaluated :
      (passes (compile Registry.standard {} appointmentSchema) fun form =>
        form.root.isComplete (.object arrangement) &&
          Rule.succeeded (form.load (.object arrangement))) = true := by
    decide +kernel
  simp only [passes_iff, Bool.and_eq_true, succeeded_iff] at hevaluated
  obtain ⟨form, hform, hcomplete, draft, hdraft⟩ := hevaluated
  have hroot := Building.isReloadable_of_isRegular hregistry hschema rfl hform
  obtain ⟨value, hread, hreload⟩ := exists_read_of_load hroot hnative hcomplete hdraft
  exact ⟨form, draft, value, hform, hroot, hcomplete, hdraft, hread, hreload⟩

/-- Where the rows of an invoice do not open, an invoice with a cleared row loads and is read, but
does not load again. -/
theorem not_exists_read_invoice :
    ∃ form draft, compile Registry.withRows {} (invoiceSchema (.string "x")) = .ok form ∧
      form.root.isComplete (.object [("rows", .array [.null])]) = true ∧
        form.load (.object [("rows", .array [.null])]) = .ok draft ∧
          ¬ ∃ value, form.read draft = .ok value ∧ form.load value = .ok draft := by
  have hevaluated :
      (passes (compile Registry.withRows {} (invoiceSchema (.string "x"))) fun form =>
        form.root.isComplete (.object [("rows", .array [.null])]) &&
          passes (form.load (.object [("rows", .array [.null])])) fun draft =>
            passes (form.read draft) fun value => !Rule.succeeded (form.load value)) = true := by
    decide +kernel
  simp only [passes_iff, Bool.and_eq_true, Bool.not_eq_true', not_succeeded_iff] at hevaluated
  obtain ⟨form, hform, hcomplete, draft, hdraft, value, hvalue, error, herror⟩ := hevaluated
  refine ⟨form, draft, hform, hcomplete, hdraft, ?_⟩
  rintro ⟨other, hother, hreload⟩
  rw [hvalue] at hother
  cases hother
  rw [herror] at hreload
  cases hreload

end Form
end SchemaForm
