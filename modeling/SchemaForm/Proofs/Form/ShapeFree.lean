import SchemaForm.Proofs.Field.Part
import SchemaForm.Proofs.Form.Shape

/-!
# Drafts in shape have no faults of shape

A node of the wrong kind is a finding of its own when a draft is checked, and an
error of its own when it is read.  Neither occurs in a draft in the shape of its
field, whatever its texts say; so neither occurs in what clearing, opening and
loading make.

Main results:

- Theorem `mem_findingsOfItems`, Theorem `mem_findingsOfFields`: the findings in a list are those in
  its items, and the findings in a group those in the nodes of its fields.
- Theorem `rule_ne_shape_of_isShaped`: checking a draft in shape finds no node of the wrong kind.
- Theorem `isUnreadable_of_isShaped`: reading it fails only for a text that cannot be read.
- Theorem `Form.isShaped_of_isPart`: each field of a form makes drafts in its shape, and drafts in
  its shape have no faults of shape.
-/

namespace SchemaForm

open Result

/-! ## Rules -/

namespace Rule

/-- No rule has the name of the fault of shape. -/
theorem name_ne_shape (rule : Rule) : rule.name ≠ "shape" := by
  cases rule <;> simp [name]

/-- Violations of rules are not faults of shape. -/
theorem rule_ne_shape_of_mem_checkAll {around : Surroundings} {rules : List Rule} {text : String}
    {violation : Violation} (h : violation ∈ checkAll around rules text) :
    violation.rule ≠ "shape" := by
  obtain ⟨rule, -, hviolation⟩ := List.mem_filterMap.mp h
  obtain ⟨message, -, rfl⟩ := Option.map_eq_some_iff.mp hviolation
  exact name_ne_shape rule

end Rule

/-! ## Errors -/

/-- Errors of texts that do not stand for a value. -/
def DataError.IsUnreadable (error : DataError) : Prop :=
  ∃ text target reason, error = .unreadable text target reason

/-- Seen from above, the error of a text is still one. -/
theorem DataError.IsUnreadable.within {error : DataError} (h : error.IsUnreadable)
    (parent : String) : (error.within parent).IsUnreadable := by
  obtain ⟨text, target, reason, rfl⟩ := h
  exact ⟨text, target, reason, rfl⟩

/-- A codec refuses a text only because it does not stand for a value. -/
theorem Codec.isUnreadable_of_nativeOfText {codec : Codec} {text : String} {error : DataError}
    (h : codec.nativeOfText text = .error error) : error.IsUnreadable := by
  simp only [nativeOfText, bind_eq_error] at h
  rcases h with h | ⟨value, -, h⟩
  · unfold decode at h
    split at h
    · cases h
    · split at h
      · cases h
      · cases h
        exact ⟨_, _, _, rfl⟩
  · cases value <;> cases h

namespace Field

variable {around : Surroundings}

/-- What is wrong with a text is not its shape. -/
theorem rule_ne_shape_of_mem_checkText {field : Field} {text : String} {violation : Violation}
    (h : violation ∈ checkText around field text) : violation.rule ≠ "shape" := by
  have hpattern : violation ∈ field.patternViolations text → violation.rule ≠ "shape" := by
    unfold patternViolations
    split
    · split <;> simp +contextual
    · simp
  have hlength : violation ∈ field.lengthViolations text → violation.rule ≠ "shape" := by
    unfold lengthViolations
    split
    · split <;> simp +contextual
    · simp
  have hchoice : violation ∈ field.choiceViolations text → violation.rule ≠ "shape" := by
    unfold choiceViolations
    split
    · split <;> simp +contextual
    · simp
  unfold checkText at h
  split at h
  · split at h
    · cases h
    · exact Rule.rule_ne_shape_of_mem_checkAll h
  · simp only [List.mem_append] at h
    obtain ((h | h) | h) | h := h
    · exact Rule.rule_ne_shape_of_mem_checkAll h
    · exact hpattern h
    · exact hlength h
    · exact hchoice h

/-! ## Findings -/

theorem rule_ne_shape_of_mem_located {path : String} {violations : List Violation}
    (h : ∀ violation ∈ violations, violation.rule ≠ "shape") {finding : Finding}
    (hfinding : finding ∈ located path violations) : finding.rule ≠ "shape" := by
  obtain ⟨violation, hviolation, rfl⟩ := List.mem_map.mp hfinding
  exact h violation hviolation

/-- A finding about the number of items is found at the place of the list and is no fault of
shape. -/
theorem of_mem_countFindings {spec : Spec} {path : String} {count : Nat} {finding : Finding}
    (h : finding ∈ countFindings spec path count) :
    finding.path = path ∧ finding.rule ≠ "shape" := by
  rcases List.mem_append.mp h with h | h
  · split at h
    · split at h
      · cases h
      · simp [List.mem_singleton.mp h]
    · cases h
  · split at h
    · split at h
      · cases h
      · simp [List.mem_singleton.mp h]
    · cases h

/-- The findings in the items of a list are those in each item, below its position. -/
theorem mem_findingsOfItems {α : Type} {find : String → α → List Finding} {path : String}
    {index : Nat} {items : List α} {finding : Finding} :
    finding ∈ findingsOfItems find path index items ↔
      ∃ i item, items[i]? = some item ∧
        finding ∈ find (Location.below path (Location.position (index + i))) item := by
  induction items generalizing index with
  | nil => simp [findingsOfItems]
  | cons first rest ih =>
      have hindex : ∀ i, index + 1 + i = index + (i + 1) := fun i => by omega
      simp only [findingsOfItems, List.mem_append, ih, hindex]
      constructor
      · rintro (hfirst | ⟨i, item, hitem, hfinding⟩)
        · exact ⟨0, first, rfl, hfirst⟩
        · exact ⟨i + 1, item, hitem, hfinding⟩
      · rintro ⟨i, item, hitem, hfinding⟩
        cases i with
        | zero =>
            cases hitem
            exact .inl hfinding
        | succ i => exact .inr ⟨i, item, hitem, hfinding⟩

/-- The findings in a group are those in the nodes of its fields, or in their cleared drafts where
there are no nodes, each below the name of its field. -/
theorem mem_findingsOfFields {fields : List (String × Field)} {path : String}
    {entries : Entries Draft} {finding : Finding} :
    finding ∈ findingsOfFields around fields path entries ↔
      ∃ field ∈ fields, finding ∈ field.2.findings around (Location.below path field.1)
        ((entries.get? field.1).getD field.2.cleared) := by
  induction fields with
  | nil => simp [findingsOfFields]
  | cons first rest ih =>
      obtain ⟨name, first⟩ := first
      simp only [findingsOfFields, List.mem_append, ih, List.mem_cons, exists_eq_or_imp]

/-- In a group in shape with distinct names, each field finds a node in its shape. -/
theorem exists_get?_of_areShaped {fields : List (String × Field)} {entries : Entries Draft}
    (hnames : (Entries.names fields).Nodup) (h : areShaped fields entries = true)
    {field : String × Field} (hfield : field ∈ fields) :
    ∃ node, entries.get? field.1 = some node ∧ field.2.isShaped node = true :=
  get?_of_forall₂ (r := fun field node => field.isShaped node = true) (areShaped_iff.mp h)
    (Entries.get?_of_mem hnames hfield)

/-- Checking a draft in shape finds no node of the wrong kind. -/
theorem rule_ne_shape_of_isShaped {field : Field} (hfield : field.HasDistinctNames) {draft : Draft}
    (hdraft : field.isShaped draft = true) (path : String) :
    ∀ finding ∈ field.findings around path draft, finding.rule ≠ "shape" := by
  induction hfield generalizing draft path with
  | boolean spec =>
      cases draft with
      | toggle on => simp [findings]
      | _ => cases hdraft
  | string spec =>
      intro finding hfinding
      simp only [isShaped, draftKind_string] at hdraft
      cases draft with
      | text text =>
          exact rule_ne_shape_of_mem_located (fun _ => rule_ne_shape_of_mem_checkText) hfinding
      | choice chosen =>
          exact rule_ne_shape_of_mem_located (fun _ => rule_ne_shape_of_mem_checkText) hfinding
      | _ => split at hdraft <;> cases hdraft
  | number spec =>
      intro finding hfinding
      cases draft with
      | text text =>
          exact rule_ne_shape_of_mem_located (fun _ => rule_ne_shape_of_mem_checkText) hfinding
      | _ => cases hdraft
  | @array spec item _ ih =>
      intro finding hfinding
      cases draft with
      | choices chosen =>
          rcases List.mem_append.mp hfinding with hfinding | hfinding
          · obtain ⟨i, text, -, hfinding⟩ := mem_findingsOfItems.mp hfinding
            exact rule_ne_shape_of_mem_located (fun _ => rule_ne_shape_of_mem_checkText) hfinding
          · exact (of_mem_countFindings hfinding).2
      | list items =>
          rcases List.mem_append.mp hfinding with hfinding | hfinding
          · obtain ⟨i, node, hnode, hfinding⟩ := mem_findingsOfItems.mp hfinding
            have hshaped := ((isShaped_list _ _ _).mp hdraft).2 node (List.mem_of_getElem? hnode)
            exact ih hshaped _ finding hfinding
          · exact (of_mem_countFindings hfinding).2
      | _ =>
          simp only [isShaped, draftKind_array] at hdraft
          split at hdraft <;> cases hdraft
  | @object spec fields hnames _ ih =>
      intro finding hfinding
      cases draft with
      | group entries =>
          rw [isShaped_group] at hdraft
          obtain ⟨field, hfield, hfinding⟩ := mem_findingsOfFields.mp hfinding
          obtain ⟨node, hnode, hshaped⟩ := exists_get?_of_areShaped hnames hdraft hfield
          rw [hnode, Option.getD_some] at hfinding
          exact ih field hfield hshaped _ finding hfinding
      | _ => cases hdraft

/-! ## Reading -/

/-- A draft in shape is not read only where a text of it is not. -/
theorem isUnreadable_of_isShaped {field : Field} (hfield : field.HasDistinctNames) {draft : Draft}
    (hdraft : field.isShaped draft = true) {error : DataError}
    (h : field.read draft = .error error) : error.IsUnreadable := by
  induction hfield generalizing draft error with
  | boolean spec =>
      cases draft with
      | toggle on => cases h
      | _ => cases hdraft
  | string spec =>
      simp only [isShaped, draftKind_string] at hdraft
      cases draft with
      | text text => exact Codec.isUnreadable_of_nativeOfText h
      | choice chosen => cases h
      | _ => split at hdraft <;> cases hdraft
  | number spec =>
      cases draft with
      | text text => exact Codec.isUnreadable_of_nativeOfText h
      | _ => cases hdraft
  | array _ ih =>
      cases draft with
      | choices chosen => cases h
      | list items =>
          simp only [read, map_eq_error] at h
          obtain ⟨i, node, inner, hnode, hinner, rfl⟩ := exists_of_eachItem_eq_error h
          have hshaped := ((isShaped_list _ _ _).mp hdraft).2 node (List.mem_of_getElem? hnode)
          exact (ih hshaped hinner).within _
      | _ =>
          simp only [isShaped, draftKind_array] at hdraft
          split at hdraft <;> cases hdraft
  | object hnames _ ih =>
      cases draft with
      | group entries =>
          rw [isShaped_group] at hdraft
          simp only [read, map_eq_error] at h
          obtain ⟨field, hmem, inner, hinner, rfl⟩ := exists_of_readFields_eq_error h
          obtain ⟨node, hnode, hshaped⟩ := exists_get?_of_areShaped hnames hdraft hmem
          rw [hnode] at hinner
          exact (ih field hmem hshaped hinner).within _
      | _ => cases hdraft

end Field

/-! ## Whole forms -/

namespace Form

/-- The field at a place of a form is a part of it. -/
theorem isPart_of_descend {field part : Field} {path : List String}
    (h : descend field path = some part) : part.IsPart field := by
  induction path generalizing field with
  | nil =>
      cases h
      exact .self
  | cons name path ih =>
      obtain ⟨spec, fields, child, rfl, hchild, hpart⟩ := descend_cons.mp h
      exact .field (Entries.mem_of_get? hchild) (ih hpart)

/-- Clearing, opening and loading make a draft in the shape of the field, at every field of a form.
Checking a draft in shape finds no fault of shape, and reading it does not fail for one. -/
theorem isShaped_of_isPart {registry : Registry} {settings : Settings} {schema : Json} {form : Form}
    {field : Field} (hregistry : registry.KeepsNamesDistinct) (hschema : schema.Proper)
    (hform : compile registry settings schema = .ok form) (hfield : field.IsPart form.root) :
    (field.isShaped field.cleared = true ∧
      (∀ draft, field.opened = .ok draft → field.isShaped draft = true) ∧
      ∀ native draft, field.load native = .ok draft → field.isShaped draft = true) ∧
    ∀ draft, field.isShaped draft = true →
      (∀ around path, ∀ finding ∈ field.findings around path draft, finding.rule ≠ "shape") ∧
      ∀ path expected actual, field.read draft ≠ .error (.misshapen path expected actual) := by
  have hnames := (Building.hasDistinctNames_of_compile hregistry hschema hform).of_isPart hfield
  refine ⟨⟨field.isShaped_cleared, fun _ => Field.isShaped_opened, fun _ _ => Field.isShaped_load⟩,
    fun draft hdraft => ⟨fun around => ?_, fun path expected actual herror => ?_⟩⟩
  · exact Field.rule_ne_shape_of_isShaped hnames hdraft
  · obtain ⟨text, target, reason, hsame⟩ := Field.isUnreadable_of_isShaped hnames hdraft herror
    cases hsame

/-- The person of an appointment loads in shape, though the data leaves out the name and has a
key that the form does not know. -/
theorem isShaped_load_person :
    ∃ form person draft, compile Registry.standard {} appointmentSchema = .ok form ∧
      descend form.root ["person"] = some person ∧
        person.load (.object [("born", .string "2024-02-09"), ("age", .null)]) = .ok draft ∧
          person.isShaped draft = true ∧
            (∀ around path, ∀ finding ∈ person.findings around path draft,
              finding.rule ≠ "shape") ∧
            ∀ path expected actual,
              person.read draft ≠ .error (.misshapen path expected actual) := by
  have hschema : appointmentSchema.Proper := by decide +kernel
  have hevaluated :
      (passes (compile Registry.standard {} appointmentSchema) fun form =>
        (descend form.root ["person"]).any fun person =>
          Rule.succeeded
            (person.load (.object [("born", .string "2024-02-09"), ("age", .null)]))) = true := by
    decide +kernel
  obtain ⟨form, hform, hevaluated⟩ := passes_iff.mp hevaluated
  obtain ⟨person, hperson, hevaluated⟩ := (Option.any_eq_true _ _).mp hevaluated
  obtain ⟨draft, hdraft⟩ := exists_of_succeeded hevaluated
  obtain ⟨⟨-, -, hload⟩, hshaped⟩ :=
    isShaped_of_isPart Registry.isBuiltIn_standard.isRegular.keepsNamesDistinct hschema hform
      (isPart_of_descend hperson)
  have hdraft' := hload _ draft hdraft
  exact ⟨form, person, draft, hform, hperson, hdraft, hdraft', hshaped draft hdraft'⟩

end Form
end SchemaForm
