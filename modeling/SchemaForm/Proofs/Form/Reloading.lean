import SchemaForm.Proofs.Building.Required
import SchemaForm.Proofs.Codec.Writable
import SchemaForm.Proofs.Form.Canonical
import SchemaForm.Proofs.Form.Validated

/-!
# Loading what a checked draft reads as

A draft without findings can be read.  Whether what it reads as can be loaded
again depends on the choices in it.  Checking and reading take a choice at every
text field and choices at every list, but loading a list asks whether its items
have choices, and other fields ask for data that their codec can take.  Under
patterns that can be written these are the only nodes for which it may fail.

Main results:

- Theorem `loadsChoices_of_fits`: nodes of the kinds of their fields ask for nothing.
- Theorem `exists_load_iff`: a checked draft loads again when the data of its choices does.
- Theorem `Form.exists_load_iff_of_findings`: the same for whole forms.
- Theorem `Form.load_error_of_findings`: choices without findings that do not load again.
-/

namespace SchemaForm
namespace Field

open Result

/-! ## Choices -/

mutual

/-- Whether the data of each choice in a draft can be loaded by the field of the choice.  The items
of a list with choices are choices themselves. -/
def loadsChoices : Field → Draft → Bool
  | .string spec => fun draft =>
      match draft with
      | .choice chosen => Rule.succeeded (load (.string spec) (.ofString? chosen))
      | _ => true
  | .array spec item => fun draft =>
      match draft with
      | .choices chosen => Rule.succeeded (load (.array spec item) (.ofStrings chosen))
      | .list items => item.attributes.choices.isSome || items.all (loadsChoices item)
      | _ => true
  | .object _ fields => fun draft =>
      match draft with
      | .group entries => fieldsLoadChoices fields entries
      | _ => true
  | _ => fun _ => true

/-- Whether the data of each choice in a group can be loaded. -/
def fieldsLoadChoices : List (String × Field) → Entries Draft → Bool
  | [] => fun _ => true
  | (name, field) :: rest => fun entries =>
      (entries.get? name).all (loadsChoices field) && fieldsLoadChoices rest entries

end

theorem fieldsLoadChoices_iff {fields : List (String × Field)} {entries : Entries Draft} :
    fieldsLoadChoices fields entries = true ↔
      ∀ field ∈ fields, (entries.get? field.1).all field.2.loadsChoices = true := by
  induction fields with
  | nil => simp [fieldsLoadChoices]
  | cons field rest ih =>
      simp only [fieldsLoadChoices, Bool.and_eq_true, ih, List.forall_mem_cons]

@[simp]
theorem loadsChoices_list (spec : Spec) (item : Field) (items : List Draft) :
    loadsChoices (.array spec item) (.list items) =
      (item.attributes.choices.isSome || items.all item.loadsChoices) := by
  simp [loadsChoices]

@[simp]
theorem loadsChoices_group (spec : Spec) (fields : List (String × Field))
    (entries : Entries Draft) :
    loadsChoices (.object spec fields) (.group entries) = fieldsLoadChoices fields entries := by
  simp [loadsChoices]

/-- Where every node has the kind of its field there are only choices that load. -/
theorem loadsChoices_of_fits {patterns : DatePatterns} {field : Field}
    (hfield : field.IsRegular patterns) {draft : Draft} (h : field.fits draft = true) :
    field.loadsChoices draft = true := by
  induction hfield generalizing draft with
  | boolean => simp [loadsChoices]
  | string =>
      rcases cases_fits_string h with ⟨hselect, chosen, rfl⟩ | ⟨-, text, rfl⟩
      · exact succeeded_iff.mpr ⟨_, (corresponds_select hselect chosen).load_eq⟩
      · rfl
  | number => simp [loadsChoices]
  | array _ _ ih =>
      rcases cases_fits_array h with ⟨hchoices, chosen, rfl⟩ | ⟨-, items, rfl, hitems⟩
      · exact succeeded_iff.mpr ⟨_, (corresponds_choices hchoices chosen).load_eq⟩
      · rw [loadsChoices_list, Bool.or_eq_true, List.all_eq_true]
        exact .inr fun item hitem => ih (hitems item hitem)
  | object _ _ ih =>
      obtain ⟨entries, rfl, hentries⟩ := cases_fits_object h
      rw [loadsChoices_group, fieldsLoadChoices_iff]
      intro field hfield
      obtain ⟨node, hnode, hfits⟩ := hentries field hfield
      rw [hnode, Option.all_some]
      exact ih field hfield hfits

/-! ## Texts -/

section Texts

variable {spec : Spec} {around : Surroundings} {text : String} {native : Json}

/-- The data of a text that is not empty has the text of a choice. -/
theorem exists_choiceText_of_nativeOfText {codec : Codec} (htext : text ≠ "")
    (h : codec.nativeOfText text = .ok native) : ∃ chosen, choiceText native = .ok chosen := by
  rcases Codec.nativeOfText_eq_ok.mp h with ⟨hempty, -⟩ | ⟨-, scalar, hscalar, rfl⟩
  · exact absurd hempty htext
  · cases scalar with
    | number x =>
        -- A number that is not finite would be `null` as data.
        rw [Scalar.toNative, Json.ofBinary64, if_pos (Codec.isFinite_of_readText hscalar)]
        exact ⟨_, rfl⟩
    | _ => exact ⟨_, rfl⟩

/-- The data of a text loads again into an input field or a closed list. -/
theorem exists_load_of_text {field : Field} (hcodec : field.spec.codec.IsWritable)
    (h : field.read (.text text) = .ok native) : ∃ draft, field.load native = .ok draft := by
  by_cases hinput : field.isInput = true
  · rw [read_input hinput] at h
    obtain ⟨written, hwritten⟩ := Codec.exists_text_of_nativeOfText hcodec h ""
    exact ⟨.text written, by rw [load_input hinput, hwritten]; rfl⟩
  · cases field with
    | string spec =>
        have hselect : isSelect (.string spec) = true := by simpa [isInput] using hinput
        by_cases htext : text = ""
        · subst htext
          cases h
          exact ⟨_, load_null _⟩
        · obtain ⟨chosen, hchosen⟩ := exists_choiceText_of_nativeOfText htext h
          exact ⟨_, (load_select hselect).mpr (.inr ⟨chosen, hchosen, rfl⟩)⟩
    | number spec => exact absurd rfl hinput
    | _ => cases h

/-- A required field without rules of its own does not accept the empty text. -/
theorem ne_empty_of_checkText {field : Field} (hrules : field.spec.rules = [])
    (hrequired : field.header.required = true) (h : checkText around field text = []) :
    text ≠ "" := by
  rintro rfl
  have hblank : field.spec.blankAllowed = false := blankAllowed_of_required hrequired
  rw [checkText_empty_iff hrules, hblank] at h
  cases h

end Texts

/-! ## Lists -/

section Lists

variable {spec : Spec} {item : Field}

/-- What a property says of related values it says of the whole lists. -/
theorem forall_iff_of_forall₂ {α β : Type} {related : α → β → Prop} {first : α → Prop}
    {second : β → Prop} {items : List α} {values : List β} (h : List.Forall₂ related items values)
    (hiff : ∀ item ∈ items, ∀ value, related item value → (second value ↔ first item)) :
    (∀ value ∈ values, second value) ↔ ∀ item ∈ items, first item := by
  induction h with
  | nil => simp
  | cons hfirst _ ih =>
      rw [List.forall_mem_cons, List.forall_mem_cons, hiff _ List.mem_cons_self _ hfirst,
        ih fun item hitem => hiff item (List.mem_cons_of_mem _ hitem)]

/-- A list is worked through when each of its items is. -/
theorem exists_eachItem_iff {α β : Type} {f : α → Except DataError β} {items : List α} :
    (∃ values, eachItem f 0 items = .ok values) ↔ ∀ item ∈ items, ∃ value, f item = .ok value := by
  simp only [eachItem_eq_ok]
  constructor
  · rintro ⟨values, hvalues⟩ item hitem
    obtain ⟨value, -, hvalue⟩ := exists_of_forall₂ hvalues hitem
    exact ⟨value, hvalue⟩
  · exact exists_forall₂

/-- A list loads when its items do, as choices or as items. -/
theorem exists_load_array_iff {natives : List Json} :
    (∃ draft, load (.array spec item) (.array natives) = .ok draft) ↔
      if item.attributes.choices.isSome then
        ∀ native ∈ natives, ∃ text, choiceText native = .ok text
      else ∀ native ∈ natives, ∃ draft, item.load native = .ok draft := by
  simp only [load, loadItems]
  split
  · rw [exists_map_eq_ok, exists_eachItem_iff]
  · rw [exists_map_eq_ok, exists_eachItem_iff]

end Lists

/-! ## Fields -/

section Fields

variable {registry : Registry} {settings : Settings} {keyed : Prop} {around : Surroundings}

/-- A checked item of a list with choices is read as the text of a choice: it is a text field, and
required, so that it is not blank. -/
theorem exists_choiceText_of_findings {item : Field} (hregistry : registry.IsBuiltIn)
    (hitem : Building.Built registry settings keyed item)
    (hchoices : item.attributes.choices.isSome = true) (hrequired : item.header.required = true)
    {path : String} {draft : Draft} {native : Json}
    (hfindings : item.findings around path draft = [])
    (hread : item.read draft = .ok native) : ∃ text, choiceText native = .ok text := by
  cases hitem with
  | string htype =>
      cases draft with
      | text text =>
          simp only [findings, located_eq_nil] at hfindings
          have htext := ne_empty_of_checkText rfl hrequired hfindings
          exact exists_choiceText_of_nativeOfText htext hread
      | choice chosen =>
          simp only [findings, located_eq_nil] at hfindings
          have htext := ne_empty_of_checkText rfl hrequired hfindings
          cases chosen with
          | none => exact absurd rfl htext
          | some text =>
              cases hread
              exact ⟨text, rfl⟩
      | _ => cases hfindings
  | other hbuild => exact absurd hbuild (hregistry.not_mem_custom _ _)
  | _ => cases hchoices

/-- A draft without findings loads again when the data of its choices does. -/
theorem exists_load_iff (hregistry : registry.IsBuiltIn) (hkeyed : keyed)
    (hpatterns : settings.patterns.IsWritable) {field : Field}
    (hfield : Building.Built registry settings keyed field) (hitems : field.ItemsRequired)
    (hopened : field.kind = .object → ∃ start, field.opened = .ok start) {path : String}
    {draft : Draft} {native : Json} (hfindings : field.findings around path draft = [])
    (hread : field.read draft = .ok native) :
    (∃ reloaded, field.load native = .ok reloaded) ↔ field.loadsChoices draft = true := by
  induction hfield generalizing path draft native with
  | boolean =>
      cases draft with
      | toggle on =>
          cases hread
          exact iff_of_true ⟨_, rfl⟩ rfl
      | _ => cases hread
  | string htype =>
      cases draft with
      | text text =>
          exact iff_of_true (exists_load_of_text (Spec.isWritable_codec hpatterns) hread) rfl
      | choice chosen =>
          cases hread
          exact succeeded_iff.symm
      | _ => cases hread
  | number htype =>
      cases draft with
      | text text =>
          exact iff_of_true (exists_load_of_text (Spec.isWritable_codec hpatterns) hread) rfl
      | _ => cases hread
  | @array _ _ _ _ item _ _ hitem hgroup ih =>
      cases draft with
      | choices chosen =>
          cases hread
          exact succeeded_iff.symm
      | list items =>
          obtain ⟨natives, hnatives, rfl⟩ := read_list_eq_ok.mp hread
          cases hitems with
          | array hrequired hinner =>
              have hchecked : ∀ draft ∈ items, ∃ place, item.findings around place draft = [] := by
                simp only [findings, List.append_eq_nil_iff] at hfindings
                exact forall_findingsOfItems hfindings.1
              rw [exists_load_array_iff, loadsChoices_list]
              split
              · rename_i hchoices
                refine iff_of_true (fun native hnative => ?_) (by rw [hchoices, Bool.true_or])
                obtain ⟨draft, hdraft, hnode⟩ := exists_of_forall₂ hnatives.flip hnative
                obtain ⟨place, hplace⟩ := hchecked draft hdraft
                exact exists_choiceText_of_findings hregistry hitem hchoices hrequired hplace hnode
              · rename_i hchoices
                -- No item is a group, so that nothing in it has to open.
                have hkind := hgroup hregistry.isRegular
                rw [Bool.eq_false_iff.mpr hchoices, Bool.false_or, List.all_eq_true]
                refine forall_iff_of_forall₂ hnatives fun draft hdraft native hnode => ?_
                obtain ⟨place, hplace⟩ := hchecked draft hdraft
                exact ih hinner (fun hobject => absurd hobject hkind) hplace hnode
      | _ => cases hread
  | @object _ _ fields _ _ hnames hbuilt ih =>
      cases draft with
      | group entries =>
          obtain ⟨natives, hnatives, rfl⟩ := read_group_eq_ok.mp hread
          cases hitems with
          | object hinner =>
              have hopen := hopened rfl
              have hsame : Entries.names natives = Entries.names fields :=
                names_of_forall₂ hnatives
              have hdistinct : (Entries.names natives).Nodup := hsame ▸ hnames hkeyed
              simp only [findings] at hfindings
              rw [exists_load_object_iff (hnames hkeyed) hopen hsame, loadsChoices_group,
                fieldsLoadChoices_iff]
              refine forall₂_congr fun field hfield => ?_
              obtain ⟨value, hvalue, hname, hnode⟩ := exists_of_forall₂ hnatives hfield
              obtain ⟨place, hplace⟩ := forall_findingsOfFields hfindings field hfield
              have hget : Entries.get? natives field.1 = some value.2 :=
                hname ▸ Entries.get?_of_mem hdistinct hvalue
              simp only [hget, Option.some.injEq, forall_eq']
              cases hdraft : Entries.get? entries field.1 with
              | none =>
                  rw [hdraft] at hnode
                  have hnull : Json.null = value.2 := Except.ok.inj hnode
                  rw [← hnull]
                  exact iff_of_true ⟨_, load_null field.2⟩ rfl
              | some draft =>
                  rw [hdraft] at hnode hplace
                  exact ih field hfield (hinner field hfield)
                    (fun _ => exists_opened_of_mem hopen hfield) hplace hnode
      | _ => cases hread
  | other hbuild => exact absurd hbuild (hregistry.not_mem_custom _ _)

end Fields

end Field

namespace Form

open Result

/-- Under patterns that can be written, a draft without findings loads again exactly when the data
of its choices does, as it does when every node has the kind of its field. -/
theorem exists_load_iff_of_findings {registry : Registry} {settings : Settings} {schema : Json}
    {form : Form} {around : Surroundings} {draft : Draft} {native : Json}
    (hregistry : registry.IsBuiltIn) (hschema : schema.Proper)
    (hpatterns : settings.patterns.IsWritable)
    (hform : compile registry settings schema = .ok form)
    (hopened : ∃ start, form.opened = .ok start) (hfindings : form.findings around draft = [])
    (hread : form.read draft = .ok native) :
    ((∃ reloaded, form.load native = .ok reloaded) ↔ form.root.loadsChoices draft = true) ∧
      (form.root.fits draft = true → form.root.loadsChoices draft = true) := by
  obtain ⟨hroot, -⟩ := Building.built_of_compile id hform
  obtain ⟨hregular, -⟩ := Building.regular_of_compile hregistry.isRegular hschema hform
  have hitems := Building.itemsRequired_of_compile hregistry hform
  exact ⟨Field.exists_load_iff hregistry hschema hpatterns hroot hitems (fun _ => hopened) hfindings
    hread, Field.loadsChoices_of_fits hregular⟩

/-- The draft of a visit, with a list of items for a list of choices, loads again. -/
theorem exists_reload_visitDraft :
    ∃ form native reloaded, compile datedRegistry {} visitSchema = .ok form ∧
      form.findings ⟨fun _ => false, fun _ => false, true, id⟩ visitDraft = [] ∧
        form.read visitDraft = .ok native ∧ form.load native = .ok reloaded := by
  have hregistry : datedRegistry.IsBuiltIn := Registry.isBuiltIn_standard.register _ _ _
  have hschema : visitSchema.Proper := by decide +kernel
  have hevaluated :
      (passes (compile datedRegistry {} visitSchema) fun form =>
        Rule.succeeded form.opened &&
          (form.findings ⟨fun _ => false, fun _ => false, true, id⟩ visitDraft).isEmpty &&
            Rule.succeeded (form.read visitDraft) && form.root.loadsChoices visitDraft) = true := by
    decide +kernel
  simp only [passes_iff, Bool.and_eq_true, succeeded_iff, List.isEmpty_iff] at hevaluated
  obtain ⟨form, hform, ⟨⟨hopened, hfindings⟩, native, hread⟩, hchoices⟩ := hevaluated
  obtain ⟨hiff, -⟩ := exists_load_iff_of_findings hregistry hschema
    DatePatterns.isWritable_default hform hopened hfindings hread
  obtain ⟨reloaded, hload⟩ := hiff.mpr hchoices
  exact ⟨form, native, reloaded, hform, hfindings, hread, hload⟩

/-- A schema with a list of integers. -/
def countsSchema : Json :=
  .object
    [("type", .string "object"),
      ("properties",
        .object
          [("counts",
            .object
              [("type", .string "array"), ("items", .object [("type", .string "integer")])])])]

/-- Choices at a list of integers have no findings and are read, but their texts are no
integers. -/
theorem load_error_of_findings :
    ∃ form native error, compile Registry.standard {} countsSchema = .ok form ∧
      Rule.succeeded form.opened = true ∧
        form.findings ⟨fun _ => false, fun _ => false, true, id⟩
            (.group [("counts", .choices ["1"])]) = [] ∧
          form.read (.group [("counts", .choices ["1"])]) = .ok native ∧
            form.load native = .error error := by
  have hevaluated :
      (passes (compile Registry.standard {} countsSchema) fun form =>
        Rule.succeeded form.opened &&
          (form.findings ⟨fun _ => false, fun _ => false, true, id⟩
            (.group [("counts", .choices ["1"])])).isEmpty &&
              passes (form.read (.group [("counts", .choices ["1"])])) fun native =>
                !Rule.succeeded (form.load native)) = true := by
    decide +kernel
  simp only [passes_iff, Bool.and_eq_true, List.isEmpty_iff, Bool.not_eq_true'] at hevaluated
  obtain ⟨form, hform, ⟨hopened, hfindings⟩, native, hread, hload⟩ := hevaluated
  cases hloaded : form.load native with
  | error error => exact ⟨form, native, error, hform, hopened, hfindings, hread, hloaded⟩
  | ok reloaded =>
      rw [hloaded] at hload
      cases hload

end Form
end SchemaForm
