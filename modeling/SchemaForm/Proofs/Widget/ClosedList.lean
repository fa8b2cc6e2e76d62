import SchemaForm.Proofs.Building.Required
import SchemaForm.Proofs.Field.Part
import SchemaForm.Proofs.Form.Normalized
import SchemaForm.Proofs.Form.ShapeFree
import SchemaForm.Proofs.Form.Typed
import SchemaForm.Proofs.Widget.Start

/-!
# Closed lists

A closed list accepts the texts that it offers, as long as they are not blank.  A blank
choice, be it none or the empty text, is a matter of the field: it may be blank when it is
neither required nor has a default that counts as true, whether the empty text is among the
choices or not.  The items of a list are required, so that a list of choices has no blanks.

Main results:

- Theorem `checkText_choice_iff`: the texts that a field with choices accepts.
- Theorem `findings_choice_iff`, Theorem `findings_choices_iff`: the choices without findings.
- Theorem `Form.findings_closedList_iff`: what the closed lists in a form accept.
- Theorem `Form.findings_blank_color`: a blank choice that is not offered and has no findings.
-/

namespace SchemaForm

namespace Widget

/-- The texts that a widget offers for a single choice. -/
def singleOptions? : Widget → Option (List String)
  | .select choices => some choices.options
  | _ => none

theorem singleOptions?_eq_some {widget : Widget} {options : List String} :
    widget.singleOptions? = some options ↔
      ∃ choices, widget = .select choices ∧ choices.options = options := by
  cases widget <;> simp [singleOptions?]

/-- The texts that a widget offers for several choices. -/
def severalOptions? : Widget → Option (List String)
  | .multiSelect _ options _ => some options
  | _ => none

theorem severalOptions?_eq_some {widget : Widget} {options : List String} :
    widget.severalOptions? = some options ↔
      ∃ name selected, widget = .multiSelect name options selected := by
  cases widget with
  | multiSelect name offered selected =>
      simp only [severalOptions?, Option.some.injEq, multiSelect.injEq]
      constructor
      · rintro rfl
        exact ⟨name, selected, rfl, rfl, rfl⟩
      · rintro ⟨_, _, -, hoptions, -⟩
        exact hoptions
  | input | select | switch | list | group => simp [severalOptions?]

end Widget

namespace Field

/-- Fields in which the texts with choices have no rules of their own. -/
inductive HasFreeChoices : Field → Prop where
  | boolean (spec : Spec) : HasFreeChoices (.boolean spec)
  | string {spec : Spec} (hrules : spec.attributes.choices.isSome = true → spec.rules = []) :
      HasFreeChoices (.string spec)
  | number (spec : Spec) : HasFreeChoices (.number spec)
  | array {spec : Spec} {item : Field} (hitem : HasFreeChoices item) :
      HasFreeChoices (.array spec item)
  | object {spec : Spec} {fields : List (String × Field)}
      (hfields : ∀ entry ∈ fields, HasFreeChoices entry.2) : HasFreeChoices (.object spec fields)

/-- The field whose texts are chosen: that of the items of a list, or the field itself. -/
def chosenField : Field → Field
  | .array _ item => item
  | field => field

variable {part field : Field}

/-! ## Parts of fields -/

/-- The choices of a part are choices of the whole. -/
theorem HasFreeChoices.of_isPart (h : field.HasFreeChoices) (hpart : part.IsPart field) :
    part.HasFreeChoices := by
  refine hpart.inherits (fun _ _ hlist => ?_) (fun _ _ hgroup => ?_) h
  · cases hlist with
    | array hitem => exact hitem
  · cases hgroup with
    | object hfields => exact hfields

/-- The lists in a part are lists in the whole. -/
theorem ItemsRequired.of_isPart (h : field.ItemsRequired) (hpart : part.IsPart field) :
    part.ItemsRequired := by
  refine hpart.inherits (fun _ _ hlist => ?_) (fun _ _ hgroup => ?_) h
  · cases hlist with
    | array _ hitem => exact hitem
  · cases hgroup with
    | object hfields => exact hfields

/-! ## Choices -/

/-- The items of a list of choices are required texts without rules of their own. -/
theorem exists_string_of_choices {spec : Spec} {item : Field} {choices : List String}
    (htyped : IsTyped (.array spec item)) (hitems : ItemsRequired (.array spec item))
    (hfree : HasFreeChoices (.array spec item))
    (hchoices : item.attributes.choices = some choices) :
    ∃ text, item = .string text ∧ text.rules = [] ∧ text.header.required = true := by
  have hsome : item.attributes.choices.isSome = true := by rw [hchoices]; rfl
  cases htyped with
  | array _ _ htype =>
      have hkind := htype.kind_of_choices hsome
      cases item with
      | string text =>
          cases hfree with
          | array hfree =>
              cases hfree with
              | string hrules =>
                  cases hitems with
                  | array hrequired _ => exact ⟨text, rfl, hrules hsome, hrequired⟩
      | boolean | number | array | object => cases hkind

section Choices

variable {spec : Spec} {choices : List String}

/-- A text without other restrictions has no violations when it is blank and may be so, or is not
blank and one of the choices. -/
theorem checkText_choice_iff (hrules : spec.rules = []) (hplain : spec.isUnrestricted = true)
    (hchoices : spec.attributes.choices = some choices)
    (hclosed : spec.attributes.suggester = false) (around : Surroundings) (text : String) :
    checkText around (.string spec) text = [] ↔
      text = "" ∧ spec.blankAllowed = true ∨ text ≠ "" ∧ text ∈ choices := by
  have hown : (Field.string spec).spec.rules = [] := hrules
  by_cases htext : text = ""
  · subst htext
    rw [checkText_empty_iff hown]
    simp [Field.spec]
  · have hselect : isSelect (.string spec) = true := by simp [isSelect, hchoices, hclosed]
    have hoptions : (Field.string spec).attributes.choices = some choices := hchoices
    have hplain : (Field.string spec).spec.isUnrestricted = true := hplain
    rw [checkText_unrestricted_iff hplain htext]
    simp [hown, choiceViolations, hselect, hoptions, htext]

/-- A choice of a closed list has no findings when it is blank and the field may be so, or is a text
of the list that is not blank. -/
theorem findings_choice_iff (hselect : isSelect (.string spec) = true)
    (hrules : spec.attributes.choices.isSome = true → spec.rules = [])
    (hplain : spec.isUnrestricted = true) (around : Surroundings) (path : String)
    (chosen : Option String) :
    findings around (.string spec) path (.choice chosen) = [] ↔
      chosen.getD "" = "" ∧ (Widget.choiceListOf (.string spec)).blankAllowed = true ∧
          spec.defaultIsOn = false ∨
        ∃ text ∈ (Widget.choiceListOf (.string spec)).options, text ≠ "" ∧ chosen = some text := by
  simp only [isSelect, Bool.and_eq_true, Bool.not_eq_true'] at hselect
  obtain ⟨hsome, hclosed⟩ := hselect
  obtain ⟨choices, hchoices⟩ := Option.isSome_iff_exists.mp hsome
  rw [findings, located_eq_nil, checkText_choice_iff (hrules hsome) hplain hchoices hclosed]
  have hblank : spec.blankAllowed = true ↔
      (Widget.choiceListOf (.string spec)).blankAllowed = true ∧ spec.defaultIsOn = false := by
    simp [Spec.blankAllowed, Widget.choiceListOf, Spec.defaultIsOn, header, Field.spec]
  have hoptions : (Widget.choiceListOf (.string spec)).options = choices := by
    simp [Widget.choiceListOf, attributes, Field.spec, hchoices]
  rw [hblank, hoptions]
  refine or_congr_right ?_
  cases chosen with
  | none => simp
  | some text =>
      simp only [Option.getD_some, Option.some.injEq]
      constructor
      · rintro ⟨hne, hmem⟩
        exact ⟨text, hmem, hne, rfl⟩
      · rintro ⟨_, hmem, hne, rfl⟩
        exact ⟨hne, hmem⟩

/-- Choices of a list have no findings when they are texts of the list that are not blank, and not
too few or too many. -/
theorem findings_choices_iff {item : Spec} (hrules : item.rules = [])
    (hrequired : item.header.required = true) (hplain : item.isUnrestricted = true)
    (hchoices : item.attributes.choices = some choices)
    (hclosed : item.attributes.suggester = false) (around : Surroundings) (path : String)
    (chosen : List String) :
    findings around (.array spec (.string item)) path (.choices chosen) = [] ↔
      (∀ text ∈ chosen, text ≠ "" ∧ text ∈ choices) ∧
        (∀ least ∈ spec.attributes.minItems, least ≤ chosen.length) ∧
          ∀ most ∈ spec.attributes.maxItems, chosen.length ≤ most := by
  have hblank := blankAllowed_of_required hrequired
  rw [findings, List.append_eq_nil_iff, findingsOfItems_located_eq_nil, countFindings_eq_nil_iff]
  simp only [checkText_choice_iff hrules hplain hchoices hclosed, hblank, Bool.false_eq_true,
    and_false, false_or]

end Choices

end Field

/-! ## Registries and forms -/

/-- The builders beside those for the five kinds give texts with choices no rules of their own. -/
def Registry.MakesFreeChoices (registry : Registry) : Prop :=
  registry.Keeps False fun _ _ _ field => field.HasFreeChoices

/-- Where there are no other builders the texts with choices have no rules of their own. -/
theorem Registry.IsBuiltIn.makesFreeChoices {registry : Registry} (h : registry.IsBuiltIn) :
    registry.MakesFreeChoices :=
  h.keeps False _

namespace Building

variable {registry : Registry} {settings : Settings} {field : Field}

/-- The texts with choices in built fields have no rules of their own. -/
theorem hasFreeChoices_of_built (hregistry : registry.MakesFreeChoices)
    (h : Built registry settings False field) : field.HasFreeChoices := by
  induction h with
  | boolean => exact .boolean _
  | string => exact .string fun _ => rfl
  | number => exact .number _
  | array _ _ _ _ ih => exact .array ih
  | object _ _ _ _ ih => exact .object ih
  | other hbuild _ hproper _ htypes hfield ih =>
      exact hregistry _ _ hbuild _ _ _ _ _ hproper ih htypes hfield

/-- The texts with choices in a form have no rules of their own, if so it is with the other
builders. -/
theorem hasFreeChoices_of_compile (hregistry : registry.MakesFreeChoices) {schema : Json}
    {form : Form} (h : Form.compile registry settings schema = .ok form) :
    form.root.HasFreeChoices :=
  hasFreeChoices_of_built hregistry (built_of_compile False.elim h).1

end Building

namespace Form

open Result

/-- The closed lists in a form, if nothing else restricts their texts, accept the texts that they
offer and that are not blank.  A single choice may also be blank when the widget allows it and the
default does not count as true.  The number of several choices is to be within its bounds.  The
builders for kinds see to it that only texts offer choices, that these have no rules of their own
and that the items of lists are required. -/
theorem findings_closedList_iff {registry : Registry} {settings : Settings} {schema : Json}
    {form : Form} {field : Field} (hform : compile registry settings schema = .ok form)
    (htexts : form.root.OffersForTexts) (hrequired : form.root.ItemsRequired)
    (hfree : form.root.HasFreeChoices) (hfield : field.IsPart form.root)
    (hplain : field.chosenField.spec.isUnrestricted = true) (around : Surroundings)
    (path : String) :
    (∀ list, Widget.ofField field = .ok (.select list) → ∀ chosen,
        field.findings around path (.choice chosen) = [] ↔
          chosen.getD "" = "" ∧ list.blankAllowed = true ∧ field.spec.defaultIsOn = false ∨
            ∃ text ∈ list.options, text ≠ "" ∧ chosen = some text) ∧
      ∀ name options selected, Widget.ofField field = .ok (.multiSelect name options selected) →
        field.chosenField.attributes.suggester = false → ∀ chosen,
          field.findings around path (.choices chosen) = [] ↔
            (∀ text ∈ chosen, text ≠ "" ∧ text ∈ options) ∧
              (∀ least ∈ field.attributes.minItems, least ≤ chosen.length) ∧
                ∀ most ∈ field.attributes.maxItems, chosen.length ≤ most := by
  have htypes := (Building.isTyped_of_compile hform htexts).of_isPart hfield
  have hitems := hrequired.of_isPart hfield
  have hchoices := hfree.of_isPart hfield
  constructor
  · intro list hwidget chosen
    cases Widget.shows_of_ofField hwidget with
    | select hselect =>
        cases hchoices with
        | string hrules =>
            exact Field.findings_choice_iff hselect hrules hplain around path chosen
  · intro name options selected hwidget hclosed chosen
    cases Widget.shows_of_ofField hwidget with
    | multiSelect hsome =>
        obtain ⟨text, rfl, hrules, hrequired⟩ :=
          Field.exists_string_of_choices htypes hitems hchoices hsome
        exact Field.findings_choices_iff hrules hrequired hplain hsome hclosed around path chosen

/-- A schema with one color and with a list of some colors. -/
def colorSchema : Json :=
  .object
    [("type", .string "object"),
      ("properties",
        .object
          [("color",
              .object
                [("type", .string "string"), ("enum", .array [.string "red", .string "green"])]),
            ("colors",
              .object
                [("type", .string "array"), ("minItems", .number (.integer 1)),
                  ("items",
                    .object
                      [("type", .string "string"),
                        ("enum", .array [.string "red", .string "green"])])])])]

/-- Each of two colors may be chosen, and both of them together. -/
theorem findings_colorSchema :
    ∃ form color colors, compile Registry.standard {} colorSchema = .ok form ∧
      descend form.root ["color"] = some color ∧ descend form.root ["colors"] = some colors ∧
        ∀ around path, color.findings around path (.choice (some "red")) = [] ∧
          colors.findings around path (.choices ["red", "green"]) = [] := by
  have hevaluated :
      (passes (compile Registry.standard {} colorSchema) fun form =>
        ((descend form.root ["color"]).any fun color =>
          color.chosenField.spec.isUnrestricted &&
            passes (Widget.ofField color) fun widget =>
              widget.singleOptions? == some ["red", "green"]) &&
        (descend form.root ["colors"]).any fun colors =>
          colors.chosenField.spec.isUnrestricted && !colors.chosenField.attributes.suggester &&
            colors.attributes.minItems == some 1 && colors.attributes.maxItems == none &&
              passes (Widget.ofField colors) fun widget =>
                widget.severalOptions? == some ["red", "green"]) = true := by
    decide +kernel
  simp only [passes_iff, Bool.and_eq_true, Bool.not_eq_true', Option.any_eq_true, beq_iff_eq,
    Widget.singleOptions?_eq_some, Widget.severalOptions?_eq_some] at hevaluated
  obtain ⟨form, hform, ⟨color, hcolor, hplain, _, hwidget, list, rfl, hoptions⟩, colors, hcolors,
    ⟨⟨⟨hplains, hclosed⟩, hleast⟩, hmost⟩, _, hwidgets, name, selected, rfl⟩ := hevaluated
  have hbuiltIn := Registry.isBuiltIn_standard
  have htexts := Building.offersForTexts_of_compile hbuiltIn.offersForTexts hform
  have hrequired := Building.itemsRequired_of_compile hbuiltIn hform
  have hfree := Building.hasFreeChoices_of_compile hbuiltIn.makesFreeChoices hform
  refine ⟨form, color, colors, hform, hcolor, hcolors, fun around path => ⟨?_, ?_⟩⟩
  · obtain ⟨hsingle, -⟩ := findings_closedList_iff hform htexts hrequired hfree
      (isPart_of_descend hcolor) hplain around path
    exact (hsingle list hwidget (some "red")).mpr (.inr ⟨"red", by simp [hoptions], by decide, rfl⟩)
  · obtain ⟨-, hseveral⟩ := findings_closedList_iff hform htexts hrequired hfree
      (isPart_of_descend hcolors) hplains around path
    refine (hseveral name _ selected hwidgets hclosed ["red", "green"]).mpr ⟨by decide, ?_, ?_⟩
    · simp [hleast]
    · simp [hmost]

/-- The empty text is not among the colors, and still has no findings where no color is required. -/
theorem findings_blank_color :
    ∃ form color list, compile Registry.standard {} colorSchema = .ok form ∧
      descend form.root ["color"] = some color ∧
        color.chosenField.spec.isUnrestricted = true ∧
          Widget.ofField color = .ok (.select list) ∧ "" ∉ list.options ∧
            color.findings ⟨fun _ => false, fun _ => false, true, id⟩ "color"
              (.choice (some "")) = [] := by
  have hevaluated :
      (passes (compile Registry.standard {} colorSchema) fun form =>
        (descend form.root ["color"]).any fun color =>
          color.chosenField.spec.isUnrestricted &&
            (color.findings ⟨fun _ => false, fun _ => false, true, id⟩ "color"
              (.choice (some ""))).isEmpty &&
              passes (Widget.ofField color) fun widget =>
                widget.singleOptions? == some ["red", "green"]) = true := by
    decide +kernel
  simp only [passes_iff, Bool.and_eq_true, Option.any_eq_true, List.isEmpty_iff, beq_iff_eq,
    Widget.singleOptions?_eq_some] at hevaluated
  obtain ⟨form, hform, color, hcolor, ⟨hplain, hfindings⟩, _, hwidget, list, rfl, hoptions⟩ :=
    hevaluated
  exact ⟨form, color, list, hform, hcolor, hplain, hwidget, by simp [hoptions], hfindings⟩

end Form
end SchemaForm
