import SchemaForm.Proofs.Building.WellFormed
import SchemaForm.Proofs.Form.Complete
import SchemaForm.Proofs.Form.Normalized
import SchemaForm.Proofs.Form.ShapeFree
import SchemaForm.Proofs.Location

/-!
# Findings in a cleared form

Clearing a form leaves the empty text in each input field and no items in each
list.  Checking it then complains about the fields that must be filled in, each at
its own place, and about no others.

Main results:

- Theorem `checkText_empty_number_iff`: a number field accepts the empty text when it may be blank.
- Theorem `mem_paths_cleared_iff`: where a cleared field has findings.
- Theorem `Form.mem_paths_cleared_iff_descend`: a cleared form has findings exactly at the fields
  that must be filled in.
-/

namespace SchemaForm

open Result

namespace Field

/-- Whether a field must be filled in: an input field that is required or has a default that counts
as true, and a list that asks for at least one item. -/
def mustBeFilled : Field → Bool
  | .string spec | .number spec =>
      spec.header.required || spec.attributes.default.any Json.isTruthy
  | .array spec _ => spec.attributes.minItems.any (1 ≤ ·)
  | .boolean _ | .object _ _ => false

variable {around : Surroundings} {spec : Spec} {fields : List (String × Field)}

/-! ## Findings in empty nodes -/

/-- A rule of a number field rejects the empty text. -/
theorem check_empty_of_numberRules {type : String} {bounds : Option Bounds} {rule : Rule}
    (hrule : rule ∈ Building.numberRules type bounds) : rule.check around "" ≠ none := by
  intro h
  obtain ⟨x, hx⟩ := exists_number?_of_check hrule h
  exact ne_empty_of_number? hx rfl

/-- A number field accepts the empty text exactly when it may be blank. -/
theorem checkText_empty_number_iff {type : String} {bounds : Option Bounds}
    (hrules : spec.rules = Building.numberRules type bounds) :
    checkText around (.number spec) "" = [] ↔ spec.blankAllowed = true := by
  constructor
  · intro h
    by_contra hblank
    have hfirst : (if type = "integer" then Rule.integer else .number) ∈
        Building.numberRules type bounds := List.mem_cons_self
    have hrule : (if type = "integer" then Rule.integer else .number) ∈
        effectiveRules (.number spec) := by
      simp only [effectiveRules, Field.spec, hrules, List.mem_append]
      exact .inl (.inr hfirst)
    have hempty : "".isEmpty = true := rfl
    simp only [checkText, hempty, if_true, Field.spec, hblank] at h
    exact check_empty_of_numberRules hfirst (Rule.check_of_checkAll h hrule)
  · intro h
    exact checkText_blank around h

/-- An input field may be blank unless it is required or its default counts as true. -/
theorem blankAllowed_eq_false_iff :
    spec.blankAllowed = false ↔
      (spec.header.required || spec.attributes.default.any Json.isTruthy) = true := by
  rw [Spec.blankAllowed, Bool.not_eq_false']

/-- Violations of a text are found at the place of the text. -/
theorem mem_paths_located {start path : String} {violations : List Violation} :
    path ∈ (located start violations).map Finding.path ↔ violations ≠ [] ∧ start = path := by
  simp only [located, List.map_map, List.mem_map, Function.comp_apply]
  constructor
  · rintro ⟨violation, hviolation, rfl⟩
    exact ⟨List.ne_nil_of_mem hviolation, rfl⟩
  · rintro ⟨hne, rfl⟩
    obtain ⟨violation, hviolation⟩ := List.exists_mem_of_ne_nil _ hne
    exact ⟨violation, hviolation, rfl⟩

/-- A list without items has a finding when it asks for at least one. -/
theorem mem_paths_countFindings {start path : String} :
    path ∈ (countFindings spec start 0).map Finding.path ↔
      spec.attributes.minItems.any (1 ≤ ·) = true ∧ start = path := by
  have hnil : countFindings spec start 0 = [] ↔
      spec.attributes.minItems.any (1 ≤ ·) = false := by
    rw [countFindings_eq_nil_iff]
    cases spec.attributes.minItems <;> simp
  constructor
  · intro h
    obtain ⟨finding, hfinding, rfl⟩ := List.mem_map.mp h
    refine ⟨?_, (of_mem_countFindings hfinding).1.symm⟩
    rw [← Bool.not_eq_false, ← hnil]
    exact List.ne_nil_of_mem hfinding
  · rintro ⟨hleast, rfl⟩
    rw [← Bool.not_eq_false, ← hnil] at hleast
    obtain ⟨finding, hfinding⟩ := List.exists_mem_of_ne_nil _ hleast
    exact List.mem_map.mpr ⟨finding, hfinding, (of_mem_countFindings hfinding).1⟩

/-! ## Cleared fields -/

/-- Without parts to go down to, a place is the field itself. -/
theorem descend_of_ne_object {field target : Field} (hfield : field.kind ≠ .object)
    {names : List String} :
    Form.descend field names = some target ↔ names = [] ∧ field = target := by
  cases names with
  | nil => simp [Form.descend]
  | cons name names =>
      simp only [Form.descend_cons, reduceCtorEq, false_and, iff_false]
      rintro ⟨spec, fields, child, rfl, -⟩
      exact hfield rfl

/-- A field without parts to go down to must be filled in at its own place or nowhere. -/
theorem exists_descend_of_ne_object {field : Field} (hfield : field.kind ≠ .object)
    {start path : String} :
    (∃ names target, Form.descend field names = some target ∧ target.mustBeFilled = true ∧
        Location.along start names = path) ↔
      field.mustBeFilled = true ∧ start = path := by
  simp only [descend_of_ne_object hfield]
  constructor
  · rintro ⟨names, target, ⟨rfl, rfl⟩, hfilled, hpath⟩
    exact ⟨hfilled, hpath⟩
  · rintro ⟨hfilled, hpath⟩
    exact ⟨[], field, ⟨rfl, rfl⟩, hfilled, hpath⟩

/-- The fields that must be filled in below a group lie below its fields. -/
theorem exists_descend_object_iff (hnames : (Entries.names fields).Nodup) {start path : String} :
    (∃ names target, Form.descend (.object spec fields) names = some target ∧
        target.mustBeFilled = true ∧ Location.along start names = path) ↔
      ∃ field ∈ fields, ∃ names target, Form.descend field.2 names = some target ∧
        target.mustBeFilled = true ∧
          Location.along (Location.below start field.1) names = path := by
  constructor
  · rintro ⟨names, target, htarget, hfilled, hpath⟩
    cases names with
    | nil =>
        cases htarget
        cases hfilled
    | cons name names =>
        obtain ⟨_, _, child, ⟨⟩, hchild, htarget⟩ := Form.descend_cons.mp htarget
        exact ⟨_, Entries.mem_of_get? hchild, names, target, htarget, hfilled, hpath⟩
  · rintro ⟨⟨name, child⟩, hfield, names, target, htarget, hfilled, hpath⟩
    have hchild := Entries.get?_of_mem hnames hfield
    exact ⟨name :: names, target,
      Form.descend_cons.mpr ⟨spec, fields, child, rfl, hchild, htarget⟩, hfilled, hpath⟩

/-- A cleared field has findings exactly at the fields below it that must be filled in. -/
theorem mem_paths_cleared_iff {registry : Registry} {settings : Settings} {keyed : Prop}
    (hregistry : registry.IsBuiltIn) (hkeyed : keyed) {field : Field}
    (hfield : Building.Built registry settings keyed field) (start path : String) :
    path ∈ (field.findings around start field.cleared).map Finding.path ↔
      ∃ names target, Form.descend field names = some target ∧ target.mustBeFilled = true ∧
        Location.along start names = path := by
  induction hfield generalizing start with
  | boolean =>
      rw [exists_descend_of_ne_object (by simp [kind])]
      simp [cleared, findings, mustBeFilled]
  | @string header default format choices maxLength restriction htype =>
      rw [exists_descend_of_ne_object (by simp [kind]), mustBeFilled, ← blankAllowed_eq_false_iff]
      -- The cleared draft is a choice or a text, but the empty text is checked in both.
      have hcleared : ∀ spec, findings around (.string spec) start (cleared (.string spec)) =
          located start (checkText around (.string spec) "") := by
        intro spec
        rw [cleared]
        split <;> rfl
      rw [hcleared, mem_paths_located, ne_eq, checkText_empty_iff rfl, Bool.not_eq_true]
      rfl
  | number htype =>
      rw [exists_descend_of_ne_object (by simp [kind]), mustBeFilled, ← blankAllowed_eq_false_iff,
        cleared, findings_input rfl, mem_paths_located, ne_eq, checkText_empty_number_iff rfl,
        Bool.not_eq_true]
  | @array header default minItems maxItems item htype hdefault hitem hgroup ih =>
      rw [exists_descend_of_ne_object (by simp [kind]), mustBeFilled, ← mem_paths_countFindings,
        cleared]
      split <;> rfl
  | @object header default fields htype hdefault hnames hfields ih =>
      rw [exists_descend_object_iff (hnames hkeyed)]
      simp only [cleared, findings, List.mem_map, mem_findingsOfFields]
      constructor
      · rintro ⟨finding, ⟨field, hfield, hfinding⟩, rfl⟩
        rw [get?_clearedFields (hnames hkeyed) hfield, Option.getD_some] at hfinding
        exact ⟨field, hfield, (ih field hfield _).mp (List.mem_map_of_mem hfinding)⟩
      · rintro ⟨field, hfield, hbelow⟩
        obtain ⟨finding, hfinding, hpath⟩ := List.mem_map.mp ((ih field hfield _).mpr hbelow)
        refine ⟨finding, ⟨field, hfield, ?_⟩, hpath⟩
        rwa [get?_clearedFields (hnames hkeyed) hfield, Option.getD_some]
  | other hbuild => exact absurd hbuild (hregistry.not_mem_custom _ _)

end Field

namespace Form

/-- Checking a cleared form finds something exactly at the places of the fields that must be filled
in: input fields that are required or whose default counts as true, and lists that ask for at least
one item. -/
theorem mem_paths_cleared_iff_descend {registry : Registry} {settings : Settings} {schema : Json}
    {form : Form} (hregistry : registry.IsBuiltIn) (hschema : schema.Proper)
    (hform : compile registry settings schema = .ok form) (around : Surroundings)
    (path : String) :
    path ∈ (form.findings around form.root.cleared).map Finding.path ↔
      ∃ names field, descend form.root names = some field ∧ field.mustBeFilled = true ∧
        Location.along "" names = path :=
  Field.mem_paths_cleared_iff hregistry hschema (Building.built_of_compile id hform).1 "" path

/-- A schema whose group has a required field and lists with and without a least number of items. -/
def bookingSchema : Json :=
  .object
    [("type", .string "object"),
      ("properties",
        .object
          [("guest",
              .object
                [("type", .string "object"),
                  ("properties",
                    .object
                      [("name", .object [("type", .string "string")]),
                        ("phones",
                          .object
                            [("type", .string "array"),
                              ("items", .object [("type", .string "string")]),
                              ("minItems", .number (.integer 1))])]),
                  ("required", .array [.string "name"])]),
            ("nights",
              .object [("type", .string "integer"), ("default", .number (.integer 2))]),
            ("notes",
              .object
                [("type", .string "array"), ("items", .object [("type", .string "string")])])])]

/-- A cleared booking lacks the name and the phones of the guest and the nights. -/
theorem mem_paths_cleared_bookingSchema :
    ∃ form, compile Registry.standard {} bookingSchema = .ok form ∧
      ∀ path ∈ ["guest.name", "guest.phones", "nights"],
        path ∈ (form.findings ⟨fun _ => false, fun _ => false, true, id⟩
          form.root.cleared).map Finding.path := by
  have hschema : bookingSchema.Proper := by decide +kernel
  have hevaluated :
      (passes (compile Registry.standard {} bookingSchema) fun form =>
        [["guest", "name"], ["guest", "phones"], ["nights"]].all fun names =>
          (descend form.root names).any Field.mustBeFilled) = true := by
    decide +kernel
  simp only [passes_iff, List.all_eq_true, Option.any_eq_true] at hevaluated
  obtain ⟨form, hform, hplaces⟩ := hevaluated
  refine ⟨form, hform, fun path hpath => ?_⟩
  rw [mem_paths_cleared_iff_descend Registry.isBuiltIn_standard hschema hform]
  have hnames : ∃ names ∈ [["guest", "name"], ["guest", "phones"], ["nights"]],
      Location.along "" names = path := by
    revert path
    decide
  obtain ⟨names, hmem, hpath⟩ := hnames
  obtain ⟨field, hfield, hfilled⟩ := hplaces names hmem
  exact ⟨names, field, hfield, hfilled, hpath⟩

end Form
end SchemaForm
