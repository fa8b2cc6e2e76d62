import SchemaForm.Proofs.Form.Exchange
import SchemaForm.Proofs.Json.Decidable

/-!
# Canonical data

Data is canonical for a field when it has the form in which the field is read.
Under the default patterns it survives loading and reading unchanged, and a
draft in the shape of the form reads as canonical data only, whatever its texts
are.  So what was read from an edited draft can be loaded again without loss.  A
list of groups can only be loaded where the groups open.

Main results:

- Theorem `exists_corresponds_of_canonical`: canonical data corresponds to a draft.
- Theorem `canonical_of_read`: a draft in the shape of its field reads as canonical data.
- Theorem `normalize_eq_self_of_canonical`: normalizing keeps canonical data.
- Theorem `exists_reload_of_read`: data that was read from a draft loads again and reads the same.
- Theorem `normalize_invoice_ne`, Theorem `not_exists_reload_invoice`: neither is so where a group
  among the items of a list does not open.
-/

namespace SchemaForm
namespace Field

open Result

/-- The data in the form in which a field is read.  A group has its fields in order. -/
inductive Canonical : Field → Json → Prop where
  | boolean (spec : Spec) (on : Bool) : Canonical (.boolean spec) (.bool on)
  | select {spec : Spec} (hselect : isSelect (.string spec) = true) (chosen : Option String) :
      Canonical (.string spec) (.ofString? chosen)
  | string {spec : Spec} {native : Json} (hselect : isSelect (.string spec) = false)
      (hnative : spec.codec.Canonical native) : Canonical (.string spec) native
  | number {spec : Spec} {native : Json} (hnative : spec.codec.Canonical native) :
      Canonical (.number spec) native
  | choices {spec : Spec} {item : Field} (hchoices : item.attributes.choices.isSome = true)
      (texts : List String) : Canonical (.array spec item) (.ofStrings texts)
  | list {spec : Spec} {item : Field} {natives : List Json}
      (hchoices : item.attributes.choices.isSome = false)
      (hitems : ∀ native ∈ natives, Canonical item native) :
      Canonical (.array spec item) (.array natives)
  | group {spec : Spec} {fields : List (String × Field)} {natives : List (String × Json)}
      (hnames : Entries.names natives = Entries.names fields)
      (hfields : ∀ field ∈ fields, ∀ native, Entries.get? natives field.1 = some native →
        Canonical field.2 native) :
      Canonical (.object spec fields) (.object natives)

mutual

/-- Whether a draft has the shape of a field.  Its kind is that of the field and its parts have the
shapes of theirs; a group has a node for each field and maybe others. -/
def fits : Field → Draft → Bool
  | .array spec item => fun draft =>
      draft.kind == (Field.array spec item).draftKind &&
        match draft with
        | .list items => items.all (fits item)
        | _ => true
  | .object spec fields => fun draft =>
      draft.kind == (Field.object spec fields).draftKind &&
        match draft with
        | .group entries => fitsFields fields entries
        | _ => true
  | field => fun draft => draft.kind == field.draftKind

/-- Whether a group has for each field a node of its shape. -/
def fitsFields : List (String × Field) → Entries Draft → Bool
  | [] => fun _ => true
  | (name, field) :: rest => fun entries =>
      (entries.get? name).any (fits field) && fitsFields rest entries

end

/-- A field with the default patterns has a codec with these. -/
theorem isDefault_codec {spec : Spec} (h : spec.patterns = {}) : spec.codec.IsDefault := by
  unfold Spec.codec
  rw [h]
  exact Codec.isDefault_ofField _ _

/-! ## Canonical data corresponds to drafts -/

/-- Canonical data of an input field corresponds to its text. -/
theorem exists_corresponds_of_canonical_input {field : Field} (hinput : field.isInput = true)
    (hpatterns : field.spec.patterns = {}) {native : Json}
    (hnative : field.spec.codec.Canonical native) : ∃ draft, field.Corresponds native draft := by
  obtain ⟨text, htext, hread⟩ :=
    Codec.exists_text_of_canonical (isDefault_codec hpatterns) hnative ""
  exact ⟨.text text, corresponds_input hinput htext hread⟩

/-- Canonical data of a field that opens corresponds to a draft. -/
theorem exists_corresponds_of_canonical {field : Field} (hfield : field.IsReloadable)
    {native : Json} (hnative : field.Canonical native)
    (hopened : field.kind = .object → ∃ draft, field.opened = .ok draft) :
    ∃ draft, field.Corresponds native draft := by
  induction field using Field.induction generalizing native with
  | boolean spec =>
      cases hnative with
      | boolean _ on => exact ⟨.toggle on, rfl, rfl⟩
  | string spec =>
      cases hnative with
      | select hselect chosen => exact ⟨.choice chosen, corresponds_select hselect chosen⟩
      | string hselect hcanonical =>
          cases hfield.usesPatterns with
          | string hpatterns =>
              exact exists_corresponds_of_canonical_input (isInput_string hselect) hpatterns
                hcanonical
  | number spec =>
      have hinput : isInput (.number spec) = true := rfl
      cases hnative with
      | number hcanonical =>
          cases hfield.usesPatterns with
          | number hpatterns =>
              exact exists_corresponds_of_canonical_input hinput hpatterns hcanonical
  | array spec item ih =>
      obtain ⟨hitem, hopen⟩ := isReloadable_item hfield
      cases hnative with
      | choices hchoices texts => exact ⟨.choices texts, corresponds_choices hchoices texts⟩
      | list hchoices hitems =>
          obtain ⟨drafts, hdrafts⟩ := exists_forall₂ fun native hmem =>
            ih hitem (hitems native hmem) hopen
          exact ⟨.list drafts, corresponds_list hchoices hdrafts⟩
  | object spec fields ih =>
      obtain ⟨hnames, hparts⟩ := isReloadable_fields hfield
      have hopen := hopened rfl
      cases hnative with
      | @group _ _ natives hnatives hfields =>
          have hcanonical : ∀ field ∈ fields, ∃ draft, ∃ native,
              Entries.get? natives field.1 = some native ∧ field.2.Corresponds native draft := by
            intro field hmem
            have hname : field.1 ∈ Entries.names natives := by
              rw [hnatives]
              exact List.mem_map.mpr ⟨field, hmem, rfl⟩
            obtain ⟨native, hnative⟩ := Entries.exists_get? hname
            obtain ⟨draft, hdraft⟩ := ih field hmem (hparts field hmem)
              (hfields field hmem native hnative) fun _ => exists_opened_of_mem hopen hmem
            exact ⟨draft, native, hnative, hdraft⟩
          obtain ⟨drafts, hdrafts, hvalues⟩ := exists_entries hnames hcanonical
          refine ⟨.group drafts, corresponds_group hnames hopen hnatives hdrafts ?_⟩
          intro field hmem
          obtain ⟨draft, hdraft, native, hnative, hcorresponds⟩ := hvalues field hmem
          exact ⟨native, draft, hnative, hdraft, hcorresponds⟩

/-! ## Drafts read as canonical data -/

theorem draftKind_string (spec : Spec) :
    (Field.string spec).draftKind = if isSelect (.string spec) then "choice" else "text" := by
  unfold draftKind cleared
  split <;> rfl

theorem draftKind_array (spec : Spec) (item : Field) :
    (Field.array spec item).draftKind =
      if item.attributes.choices.isSome then "choices" else "list" := by
  unfold draftKind cleared
  split <;> rfl

/-- A closed list has a choice and another text field a text. -/
theorem cases_fits_string {spec : Spec} {draft : Draft} (h : fits (.string spec) draft = true) :
    (isSelect (.string spec) = true ∧ ∃ chosen, draft = .choice chosen) ∨
      (isSelect (.string spec) = false ∧ ∃ text, draft = .text text) := by
  simp only [fits, draftKind_string, beq_iff_eq] at h
  by_cases hselect : isSelect (.string spec) = true
  · rw [if_pos hselect] at h
    left
    cases draft with
    | choice chosen => exact ⟨hselect, chosen, rfl⟩
    | _ => simp [Draft.kind] at h
  · rw [if_neg hselect] at h
    right
    cases draft with
    | text text => exact ⟨Bool.eq_false_iff.mpr hselect, text, rfl⟩
    | _ => simp [Draft.kind] at h

/-- A list has choices, or a list of nodes in the shape of its items. -/
theorem cases_fits_array {spec : Spec} {item : Field} {draft : Draft}
    (h : fits (.array spec item) draft = true) :
    (item.attributes.choices.isSome = true ∧ ∃ chosen, draft = .choices chosen) ∨
      (item.attributes.choices.isSome = false ∧
        ∃ items, draft = .list items ∧ ∀ node ∈ items, item.fits node = true) := by
  simp only [fits, draftKind_array, Bool.and_eq_true, beq_iff_eq] at h
  obtain ⟨hkind, hparts⟩ := h
  by_cases hchoices : item.attributes.choices.isSome = true
  · rw [if_pos hchoices] at hkind
    left
    cases draft with
    | choices chosen => exact ⟨hchoices, chosen, rfl⟩
    | _ => simp [Draft.kind] at hkind
  · rw [if_neg hchoices] at hkind
    right
    cases draft with
    | list items =>
        exact ⟨Bool.eq_false_iff.mpr hchoices, items, rfl, List.all_eq_true.mp hparts⟩
    | _ => simp [Draft.kind] at hkind

theorem fitsFields_iff {fields : List (String × Field)} {entries : Entries Draft} :
    fitsFields fields entries = true ↔
      ∀ field ∈ fields, ∃ node, entries.get? field.1 = some node ∧ field.2.fits node = true := by
  induction fields with
  | nil => simp [fitsFields]
  | cons field rest ih =>
      simp only [fitsFields, Bool.and_eq_true, Option.any_eq_true, ih, List.forall_mem_cons]

/-- A group has a node in the shape of each of its fields. -/
theorem cases_fits_object {spec : Spec} {fields : List (String × Field)} {draft : Draft}
    (h : fits (.object spec fields) draft = true) :
    ∃ entries, draft = .group entries ∧ ∀ field ∈ fields,
      ∃ node, Entries.get? entries field.1 = some node ∧ field.2.fits node = true := by
  simp only [fits, Bool.and_eq_true, beq_iff_eq] at h
  obtain ⟨hkind, hparts⟩ := h
  cases draft with
  | group entries => exact ⟨entries, rfl, fitsFields_iff.mp hparts⟩
  | _ => simp [Draft.kind, draftKind, cleared] at hkind

/-- A draft in the shape of its field reads as canonical data, whatever its texts are. -/
theorem canonical_of_read {field : Field} (hnames : field.HasDistinctNames)
    (hpatterns : field.UsesPatterns {}) {draft : Draft} {native : Json}
    (hdraft : field.fits draft = true) (h : field.read draft = .ok native) :
    field.Canonical native := by
  induction hpatterns generalizing draft native with
  | boolean spec =>
      cases draft with
      | toggle on =>
          cases h
          exact .boolean spec on
      | _ => cases h
  | string hpatterns =>
      rcases cases_fits_string hdraft with ⟨hselect, chosen, rfl⟩ | ⟨hselect, text, rfl⟩
      · cases h
        exact .select hselect chosen
      · exact .string hselect (Codec.canonical_of_nativeOfText (isDefault_codec hpatterns) h)
  | number hpatterns =>
      cases draft with
      | text text => exact .number (Codec.canonical_of_nativeOfText (isDefault_codec hpatterns) h)
      | _ => cases h
  | array _ ih =>
      rcases cases_fits_array hdraft with ⟨hchoices, chosen, rfl⟩ | ⟨hchoices, items, rfl, hitems⟩
      · cases h
        exact .choices hchoices chosen
      · obtain ⟨natives, hnatives, rfl⟩ := read_list_eq_ok.mp h
        refine .list hchoices ?_
        intro native hnative
        obtain ⟨node, hmem, hread⟩ := exists_of_forall₂ hnatives.flip hnative
        cases hnames with
        | array hitem => exact ih hitem (hitems node hmem) hread
  | @object spec fields _ ih =>
      cases hnames with
      | object hnames hparts =>
          obtain ⟨entries, rfl, hnodes⟩ := cases_fits_object hdraft
          obtain ⟨natives, hnatives, rfl⟩ := read_group_eq_ok.mp h
          have hsame : Entries.names natives = Entries.names fields := names_of_forall₂ hnatives
          refine .group hsame ?_
          intro field hmem native hnative
          obtain ⟨node, hnode, hfits⟩ := hnodes field hmem
          obtain ⟨value, hvalue, hname, hread⟩ := exists_of_forall₂ hnatives hmem
          have hfound : Entries.get? natives field.1 = some value.2 := by
            rw [← hname]
            exact Entries.get?_of_mem (hsame ▸ hnames) hvalue
          rw [hnative] at hfound
          cases hfound
          rw [hnode] at hread
          exact ih field hmem (hparts field hmem) hfits hread

end Field

namespace Form

open Result

/-! ## A form with fields of all kinds -/

/-- A schema with input fields of all formats, closed lists, a list and a group with a default. -/
def appointmentSchema : Json :=
  .object
    [("title", .string "Appointment"), ("type", .string "object"),
      ("properties",
        .object
          [("person",
              .object
                [("type", .string "object"),
                  ("properties",
                    .object
                      [("name", .object [("type", .string "string")]),
                        ("born",
                          .object [("type", .string "string"), ("format", .string "date")])]),
                  ("default", .object [("name", .string "N.N.")])]),
            ("start", .object [("type", .string "string"), ("format", .string "date-time")]),
            ("guests", .object [("type", .string "integer")]),
            ("fee", .object [("type", .string "number")]),
            ("room", .object [("enum", .array [.string "north", .string "south"])]),
            ("topics",
              .object
                [("type", .string "array"),
                  ("items", .object [("enum", .array [.string "a", .string "b"])])]),
            ("notes",
              .object
                [("type", .string "array"), ("items", .object [("type", .string "string")])]),
            ("online", .object [("type", .string "boolean")])])]

/-- A draft of an appointment as somebody may enter it, with a node that the form does not know. -/
def appointmentDraft : Draft :=
  .group
    [("online", .toggle true), ("guests", .text " -0007 "), ("fee", .text "+25e-1"),
      ("person", .group [("born", .text "3.4.-44"), ("name", .text "")]),
      ("start", .text "29.2.2024 9:05"), ("room", .choice (some "attic")),
      ("topics", .choices ["b", "c"]), ("notes", .list [.text " ", .text ""]),
      ("unknown", .toggle false)]

/-- The data that the draft of an appointment stands for. -/
def appointment : Json :=
  .object
    [("person", .object [("name", .null), ("born", .string "-0044-04-03")]),
      ("start", .string "2024-02-29T09:05:00"), ("guests", .number (.integer (-7))),
      ("fee", .number (.float (Binary64.ofRatio false 5 2))), ("room", .string "attic"),
      ("topics", .array [.string "b", .string "c"]), ("notes", .array [.string " ", .null]),
      ("online", .bool true)]

/-- The form of appointments opens and reads the draft of an appointment. -/
theorem compile_appointmentSchema :
    ∃ form, compile Registry.standard {} appointmentSchema = .ok form ∧
      (∃ draft, form.opened = .ok draft) ∧ form.root.fits appointmentDraft = true ∧
        form.read appointmentDraft = .ok appointment := by
  have hevaluated :
      (match compile Registry.standard {} appointmentSchema with
        | .ok form =>
            Rule.succeeded form.opened && form.root.fits appointmentDraft &&
              match form.read appointmentDraft with
              | .ok native => decide (native = appointment)
              | .error _ => false
        | .error _ => false) = true := by
    decide +kernel
  split at hevaluated
  · rename_i form hform
    simp only [Bool.and_eq_true] at hevaluated
    obtain ⟨⟨hopened, hfits⟩, hread⟩ := hevaluated
    split at hread
    · rename_i native hnative
      rw [of_decide_eq_true hread] at hnative
      exact ⟨form, hform, Result.exists_of_succeeded hopened, hfits, hnative⟩
    · cases hread
  · cases hevaluated

/-! ## A form with a list of groups -/

/-- A schema with a list of groups, each of which has a count and the given default. -/
def invoiceSchema (default : Json) : Json :=
  .object
    [("type", .string "object"),
      ("properties",
        .object
          [("rows",
            .object
              [("type", .string "array"), ("format", .string "rows"),
                ("items",
                  .object
                    [("type", .string "object"),
                      ("properties", .object [("count", .object [("type", .string "integer")])]),
                      ("default", .object [("count", default)])])])])]

/-- A draft of an invoice with a single row. -/
def invoiceDraft : Draft :=
  .group [("rows", .list [.group [("count", .text "1")]])]

/-- The data that the draft of an invoice stands for. -/
def invoice : Json :=
  .object [("rows", .array [.object [("count", .number (.integer 1))]])]

/-- The draft of an invoice reads as canonical data, whatever the default of its rows is. -/
theorem canonical_invoice {default : Json} {form : Form} (hschema : (invoiceSchema default).Proper)
    (hform : compile Registry.withRows {} (invoiceSchema default) = .ok form)
    (hfits : form.root.fits invoiceDraft = true) (hread : form.read invoiceDraft = .ok invoice) :
    form.root.Canonical invoice :=
  Field.canonical_of_read
    (Building.hasDistinctNames_of_compile Registry.keepsNamesDistinct_withRows hschema hform)
    (Building.usesPatterns_of_compile Registry.usesPatterns_withRows hform) hfits hread

/-- With a count as its default, a row opens, so that the form loads what it reads. -/
theorem compile_invoiceSchema :
    ∃ form, compile Registry.withRows {} (invoiceSchema (.number (.integer 7))) = .ok form ∧
      (∃ start, form.opened = .ok start) ∧ form.root.IsReloadable ∧
        form.root.Canonical invoice := by
  have hschema : (invoiceSchema (.number (.integer 7))).Proper := by decide +kernel
  have hevaluated :
      (passes (compile Registry.withRows {} (invoiceSchema (.number (.integer 7)))) fun form =>
        Rule.succeeded form.opened && form.root.hasOpenItems && form.root.fits invoiceDraft &&
          passes (form.read invoiceDraft) fun native => decide (native = invoice)) = true := by
    decide +kernel
  simp only [passes_iff, Bool.and_eq_true, succeeded_iff, decide_eq_true_eq] at hevaluated
  obtain ⟨form, hform, ⟨⟨hopened, hitems⟩, hfits⟩, _, hread, rfl⟩ := hevaluated
  have hroot : form.root.IsReloadable :=
    { hasDistinctNames :=
        Building.hasDistinctNames_of_compile Registry.keepsNamesDistinct_withRows hschema hform
      usesPatterns := Building.usesPatterns_of_compile Registry.usesPatterns_withRows hform
      itemsOpen := Field.itemsOpen_of_hasOpenItems hitems }
  exact ⟨form, hform, hopened, hroot, canonical_invoice hschema hform hfits hread⟩

/-- With a text as the default of a count, a row does not open, and no invoice with rows can be
loaded. The form opens all the same. -/
theorem compile_invoiceSchema_text :
    ∃ form error, compile Registry.withRows {} (invoiceSchema (.string "x")) = .ok form ∧
      (∃ start, form.opened = .ok start) ∧ form.root.fits invoiceDraft = true ∧
        form.read invoiceDraft = .ok invoice ∧ form.root.Canonical invoice ∧
          form.load invoice = .error error := by
  have hschema : (invoiceSchema (.string "x")).Proper := by decide +kernel
  have hevaluated :
      (passes (compile Registry.withRows {} (invoiceSchema (.string "x"))) fun form =>
        Rule.succeeded form.opened && form.root.fits invoiceDraft &&
          (passes (form.read invoiceDraft) fun native => decide (native = invoice)) &&
            !Rule.succeeded (form.load invoice)) = true := by
    decide +kernel
  simp only [passes_iff, Bool.and_eq_true, Bool.not_eq_true', succeeded_iff, not_succeeded_iff,
    decide_eq_true_eq] at hevaluated
  obtain ⟨form, hform, ⟨⟨hopened, hfits⟩, _, hread, rfl⟩, error, hload⟩ := hevaluated
  have hcanonical := canonical_invoice hschema hform hfits hread
  exact ⟨form, error, hform, hopened, hfits, hread, hcanonical, hload⟩

/-! ## Loading and reading -/

section

variable {form : Form} {native : Json}

/-- Loading canonical data and reading it back changes nothing. -/
theorem normalize_eq_self_of_canonical (hroot : form.root.IsReloadable)
    (hopened : ∃ draft, form.opened = .ok draft) (hnative : form.root.Canonical native) :
    form.normalize native = .ok native := by
  obtain ⟨draft, hdraft⟩ := Field.exists_corresponds_of_canonical hroot hnative fun _ => hopened
  rw [normalize_eq hdraft.load_eq]
  exact hdraft.read_eq

/-- The data of an invoice is canonical and kept, where its rows open. -/
theorem normalize_invoice :
    ∃ form, compile Registry.withRows {} (invoiceSchema (.number (.integer 7))) = .ok form ∧
      (∃ draft, form.opened = .ok draft) ∧ form.root.IsReloadable ∧ form.root.Canonical invoice ∧
        form.normalize invoice = .ok invoice := by
  obtain ⟨form, hform, hopened, hroot, hcanonical⟩ := compile_invoiceSchema
  exact ⟨form, hform, hopened, hroot, hcanonical,
    normalize_eq_self_of_canonical hroot hopened hcanonical⟩

/-- Where the rows of an invoice do not open, its data is canonical and still not kept, although the
form opens. -/
theorem normalize_invoice_ne :
    ∃ form, compile Registry.withRows {} (invoiceSchema (.string "x")) = .ok form ∧
      (∃ draft, form.opened = .ok draft) ∧ form.root.Canonical invoice ∧
        form.normalize invoice ≠ .ok invoice := by
  obtain ⟨form, error, hform, hopened, -, -, hcanonical, hload⟩ := compile_invoiceSchema_text
  refine ⟨form, hform, hopened, hcanonical, fun hkept => ?_⟩
  simp only [normalize, hload] at hkept
  cases hkept

/-- Data that was read from a draft in the shape of the form loads again, and what it loads as
reads as the same data. -/
theorem exists_reload_of_read {draft : Draft} (hroot : form.root.IsReloadable)
    (hopened : ∃ start, form.opened = .ok start) (hdraft : form.root.fits draft = true)
    (hread : form.read draft = .ok native) :
    ∃ reloaded, form.load native = .ok reloaded ∧ form.read reloaded = .ok native := by
  have hcanonical :=
    Field.canonical_of_read hroot.hasDistinctNames hroot.usesPatterns hdraft hread
  obtain ⟨reloaded, hreloaded⟩ :=
    Field.exists_corresponds_of_canonical hroot hcanonical fun _ => hopened
  exact ⟨reloaded, hreloaded.load_eq, hreloaded.read_eq⟩

/-- The data that the draft of an appointment stands for is reloaded without loss. -/
theorem exists_reload_appointment :
    ∃ form reloaded, compile Registry.standard {} appointmentSchema = .ok form ∧
      form.root.IsReloadable ∧ (∃ start, form.opened = .ok start) ∧
        form.root.fits appointmentDraft = true ∧ form.read appointmentDraft = .ok appointment ∧
          form.load appointment = .ok reloaded ∧ form.read reloaded = .ok appointment := by
  have hregistry := Registry.isBuiltIn_standard.isRegular
  have hschema : appointmentSchema.Proper := by decide +kernel
  obtain ⟨form, hform, hopened, hfits, hread⟩ := compile_appointmentSchema
  have hroot := Building.isReloadable_of_isRegular hregistry hschema rfl hform
  obtain ⟨reloaded, hload, hreload⟩ := exists_reload_of_read hroot hopened hfits hread
  exact ⟨form, reloaded, hform, hroot, hopened, hfits, hread, hload, hreload⟩

/-- Where the rows of an invoice do not open, what is read from the draft of an invoice does not
load again. -/
theorem not_exists_reload_invoice :
    ∃ form, compile Registry.withRows {} (invoiceSchema (.string "x")) = .ok form ∧
      (∃ start, form.opened = .ok start) ∧ form.root.fits invoiceDraft = true ∧
        form.read invoiceDraft = .ok invoice ∧
          ¬ ∃ reloaded, form.load invoice = .ok reloaded ∧ form.read reloaded = .ok invoice := by
  obtain ⟨form, error, hform, hopened, hfits, hread, -, hload⟩ := compile_invoiceSchema_text
  refine ⟨form, hform, hopened, hfits, hread, ?_⟩
  rintro ⟨reloaded, hreloaded, -⟩
  rw [hload] at hreloaded
  cases hreloaded

end

end Form
end SchemaForm
