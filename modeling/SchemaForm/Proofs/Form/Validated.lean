import SchemaForm.Proofs.Building.Built
import SchemaForm.Proofs.Codec.Basic
import SchemaForm.Proofs.Form.Parts

/-!
# Checked drafts can be read

The rules of a field and its codec are chosen apart, the rules by its kind and
format, the codec by its format and type.  In a built field they fit together:
a text that passes the rules has a value under the codec.  Hence a draft without
findings stands for data.

Main results:

- Theorem `exists_native_of_string`, Theorem `exists_native_of_number`: a text that passes the
  rules of a built input field stands for data.
- Theorem `exists_read_of_findings`: a draft of a built field without findings can be read.
- Theorem `read_of_findings_eq_nil`: a draft of a form without findings can be read.
-/

namespace SchemaForm

open Result

/-! ## Rules -/

namespace Rule

variable {around : Surroundings} {text : String}

/-- Where no rule of a list is violated, each of them accepts. -/
theorem check_of_checkAll {rules : List Rule} {rule : Rule} (h : checkAll around rules text = [])
    (hrule : rule ∈ rules) : check around rule text = none := by
  simp only [checkAll, List.filterMap_eq_nil_iff] at h
  exact h rule hrule

/-- The rule for integers accepts only integers. -/
theorem exists_integer_of_check (h : check around .integer text = none) :
    ∃ n, Text.Integer.read Text.Integer.signed64 (Text.trim text.toList) = .ok n := by
  simp only [check, Option.map_eq_none_iff, rejection?] at h
  split at h
  · cases h
  · split at h
    · rename_i hinteger
      unfold isInteger at hinteger
      split at hinteger
      · exact ⟨_, ‹_›⟩
      · cases hinteger
    · cases h

/-- The rule for numbers accepts only finite numbers. -/
theorem exists_number_of_check (h : check around .number text = none) :
    ∃ x, Binary64.read (Text.trim text.toList) = .ok x ∧ x.isFinite = true := by
  simp only [check, Option.map_eq_none_iff, rejection?] at h
  split at h
  · rename_i hnumber
    obtain ⟨x, hx⟩ := Option.isSome_iff_exists.mp hnumber
    unfold number? at hx
    split at hx
    · rename_i y hread
      split at hx
      · exact ⟨y, hread, ‹_›⟩
      · cases hx
    · cases hx
  · cases h

/-- What is required of a text that is not blank holds when the rule accepts. -/
theorem of_require {accepted : Bool} {message : String} {blankAllowed : Bool}
    (htext : text ≠ "")
    (h : (if unlessBlank blankAllowed text accepted then none else some message) = none) :
    accepted = true := by
  simpa [unlessBlank, htext] using h

end Rule

/-! ## Input fields -/

namespace Field

variable {around : Surroundings} {text : String}

/-- A format that decides how a text is read also checks that it can be read. -/
theorem exists_readText_of_format {spec : Spec} (htext : text ≠ "")
    (h : ∀ rule ∈ spec.formatRule?, rule.check around text = none) :
    (∃ value, spec.codec.readText text = .ok value) ∨
      spec.codec = .ofField spec.header.type none spec.patterns := by
  unfold Spec.codec Codec.ofField
  unfold Spec.formatRule? at h
  split
  · rename_i hformat
    left
    have hrule := h (.date spec.patterns.date spec.blankAllowed) (by simp [hformat, Rule.ofFormat?])
    simp only [Rule.check, Rule.rejection?, Option.map_eq_none_iff] at hrule
    obtain ⟨day, hday⟩ := exists_of_succeeded (Rule.of_require htext hrule)
    exact ⟨.date day, by simp [Codec.readText, hday]⟩
  · rename_i hformat
    left
    have hrule := h (.dateTime spec.patterns.dateTime spec.blankAllowed)
      (by simp [hformat, Rule.ofFormat?])
    simp only [Rule.check, Rule.rejection?, Option.map_eq_none_iff] at hrule
    obtain ⟨moment, hmoment⟩ := exists_of_succeeded (Rule.of_require htext hrule)
    exact ⟨.dateTime moment, by simp [Codec.readText, hmoment]⟩
  · exact .inl ⟨.path text, rfl⟩
  · exact .inl ⟨.path text, rfl⟩
  · exact .inl ⟨.path text, rfl⟩
  · exact .inr rfl

/-- All rules of a field accept a text that is not blank and has no violations. -/
theorem check_of_checkText {field : Field} {rule : Rule} (htext : text ≠ "")
    (h : checkText around field text = []) (hrule : rule ∈ field.effectiveRules) :
    rule.check around text = none := by
  simp only [checkText, String.isEmpty_iff, htext, if_false, List.append_eq_nil_iff] at h
  exact Rule.check_of_checkAll h.1.1.1 hrule

/-- Without rules of its own a field accepts the empty text when it may be blank. -/
theorem checkText_empty_iff {field : Field} (hrules : field.spec.rules = []) :
    checkText around field "" = [] ↔ field.spec.blankAllowed = true := by
  cases hallowed : field.spec.blankAllowed with
  | true => exact iff_of_true (checkText_blank around hallowed) rfl
  | false =>
      have hrule : Rule.notEmpty ∈ field.effectiveRules := by
        simp [effectiveRules, hrules, hallowed]
      refine iff_of_false (fun h => ?_) (by simp)
      simp only [checkText, hallowed] at h
      have hcheck := Rule.check_of_checkAll h hrule
      rw [Rule.check_notEmpty_eq_none_iff] at hcheck
      cases hcheck

/-- A text that passes the rules of a text field stands for data. -/
theorem exists_native_of_string {spec : Spec} (htype : spec.header.type = "string")
    (h : checkText around (.string spec) text = []) :
    ∃ native, spec.codec.nativeOfText text = .ok native := by
  apply Codec.exists_nativeOfText
  intro htext
  have hformat : ∀ rule ∈ spec.formatRule?, rule.check around text = none := by
    intro rule hrule
    refine check_of_checkText htext h ?_
    simp only [effectiveRules, formatRule?, List.mem_append, Option.mem_toList]
    exact .inr hrule
  rcases exists_readText_of_format htext hformat with hread | hcodec
  · exact hread
  · rw [hcodec, htype]
    exact ⟨.text text, rfl⟩

/-- A text that passes the rules of a number field stands for data. -/
theorem exists_native_of_number {spec : Spec} {bounds : Option Bounds}
    (htype : spec.header.type = "integer" ∨ spec.header.type = "number")
    (hrules : spec.rules = Building.numberRules spec.header.type bounds)
    (h : checkText around (.number spec) text = []) :
    ∃ native, spec.codec.nativeOfText text = .ok native := by
  apply Codec.exists_nativeOfText
  intro htext
  have hown : ∀ rule ∈ spec.rules, rule.check around text = none := by
    intro rule hrule
    refine check_of_checkText htext h ?_
    simp only [effectiveRules, List.mem_append]
    exact .inl (.inr hrule)
  have hformat : ∀ rule ∈ spec.formatRule?, rule.check around text = none := by
    intro rule hrule
    refine check_of_checkText htext h ?_
    simp only [effectiveRules, formatRule?, List.mem_append, Option.mem_toList]
    exact .inr hrule
  rcases exists_readText_of_format htext hformat with hread | hcodec
  · exact hread
  · rw [hcodec]
    rcases htype with htype | htype
    · rw [htype]
      have hinteger := hown .integer (by simp [hrules, Building.numberRules, htype])
      obtain ⟨n, hn⟩ := Rule.exists_integer_of_check hinteger
      exact ⟨.integer n, by simp [Codec.ofField, Codec.readText, hn]⟩
    · rw [htype]
      have hnumber := hown .number (by simp [hrules, Building.numberRules, htype])
      obtain ⟨x, hx, hfinite⟩ := Rule.exists_number_of_check hnumber
      exact ⟨.number x, by simp [Codec.ofField, Codec.readText, hx, hfinite]⟩

/-! ## Drafts -/

/-- Violations at a place are findings. -/
theorem located_eq_nil {path : String} {violations : List Violation} :
    located path violations = [] ↔ violations = [] := by
  simp [located]

/-- A missing node of a group is checked as a cleared one and read as `null`. -/
theorem exists_readNode {field : Field} {draft : Option Draft} {place : String}
    (hread : ∀ path draft, field.findings around path draft = [] →
      ∃ value, field.read draft = .ok value)
    (h : field.findings around place (draft.getD field.cleared) = []) :
    ∃ value, field.readNode draft = .ok value := by
  cases draft with
  | none => exact ⟨.null, rfl⟩
  | some draft => exact hread place draft h

/-- A draft of a built field without findings can be read. -/
theorem exists_read_of_findings {registry : Registry} {settings : Settings} {keyed : Prop}
    (hregistry : registry.IsBuiltIn) {field : Field}
    (hfield : Building.Built registry settings keyed field) :
    ∀ path draft, field.findings around path draft = [] →
      ∃ value, field.read draft = .ok value := by
  induction hfield with
  | boolean =>
      intro path draft h
      cases draft with
      | toggle on => exact ⟨.bool on, rfl⟩
      | _ => cases h
  | string htype =>
      intro path draft h
      cases draft with
      | text text =>
          simp only [findings, located_eq_nil] at h
          exact exists_native_of_string htype h
      | choice chosen => exact ⟨.ofString? chosen, rfl⟩
      | _ => cases h
  | number htype =>
      intro path draft h
      cases draft with
      | text text =>
          simp only [findings, located_eq_nil] at h
          exact exists_native_of_number htype rfl h
      | _ => cases h
  | @array _ _ _ _ item _ _ _ _ ih =>
      intro path draft h
      cases draft with
      | choices chosen => exact ⟨.ofStrings chosen, rfl⟩
      | list items =>
          simp only [findings, List.append_eq_nil_iff] at h
          have hitems : ∀ draft ∈ items, ∃ value, item.read draft = .ok value := by
            intro draft hdraft
            obtain ⟨place, hplace⟩ := forall_findingsOfItems h.1 draft hdraft
            exact ih place draft hplace
          obtain ⟨values, hvalues⟩ := exists_forall₂ hitems
          exact ⟨.array values, read_list_eq_ok.mpr ⟨values, hvalues, rfl⟩⟩
      | _ => cases h
  | @object _ _ fields _ _ _ _ ih =>
      intro path draft h
      cases draft with
      | group entries =>
          simp only [findings] at h
          have hfields : ∀ field ∈ fields, ∃ value : String × Json, value.1 = field.1 ∧
              field.2.readNode (Entries.get? entries field.1) = .ok value.2 := by
            intro field hfield
            obtain ⟨place, hplace⟩ := forall_findingsOfFields h field hfield
            obtain ⟨value, hvalue⟩ := exists_readNode (ih field hfield) hplace
            exact ⟨(field.1, value), rfl, hvalue⟩
          obtain ⟨values, hvalues⟩ := exists_forall₂ hfields
          exact ⟨.object values, read_group_eq_ok.mpr ⟨values, hvalues, rfl⟩⟩
      | _ => cases h
  | other hbuild => exact absurd hbuild (hregistry.not_mem_custom _ _)

end Field

namespace Form

/-- A draft of a form without findings can be read, whatever keys the builders are registered
under. -/
theorem read_of_findings_eq_nil {registry : Registry} {settings : Settings} {schema : Json}
    {form : Form} {around : Surroundings} {draft : Draft} (hregistry : registry.IsBuiltIn)
    (hform : compile registry settings schema = .ok form)
    (hdraft : form.findings around draft = []) : ∃ value, form.read draft = .ok value := by
  obtain ⟨hroot, -⟩ := Building.built_of_compile id hform
  exact Field.exists_read_of_findings hregistry hroot "" draft hdraft

/-! ### A form with a dated number -/

/-- A registry in which dated numbers have the builder for numbers. -/
def datedRegistry : Registry :=
  Registry.standard.register "number" (some "date") (.ofKind .number)

/-- A schema with a number in the format of dates, an integer, and a list of choices. -/
def visitSchema : Json :=
  .object
    [("title", .string "Visit"), ("type", .string "object"),
      ("properties",
        .object
          [("seen", .object [("type", .string "number"), ("format", .string "date")]),
            ("age",
              .object [("type", .string "integer"), ("minimum", .number (.integer 0))]),
            ("tags",
              .object
                [("type", .string "array"),
                  ("items", .object [("enum", .array [.string "a", .string "b"])])])]),
      ("required", .array [.string "age"])]

/-- A draft in which one node is missing, one is unknown, and one is a list of texts. -/
def visitDraft : Draft :=
  .group [("age", .text " +7 "), ("tags", .list [.text "a", .choice (some "b")]),
    ("note", .toggle true)]

/-- The draft of a visit has no findings and can be read. -/
theorem exists_read_visitDraft :
    ∃ form value, compile datedRegistry {} visitSchema = .ok form ∧
      form.findings ⟨fun _ => false, fun _ => false, true, id⟩ visitDraft = [] ∧
      form.read visitDraft = .ok value := by
  have hregistry : datedRegistry.IsBuiltIn := Registry.isBuiltIn_standard.register _ _ _
  have hevaluated :
      (match compile datedRegistry {} visitSchema with
        | .ok form =>
            (form.findings ⟨fun _ => false, fun _ => false, true, id⟩ visitDraft).isEmpty
        | .error _ => false) = true := by
    decide +kernel
  split at hevaluated
  · rename_i form hform
    have hfindings := List.isEmpty_iff.mp hevaluated
    obtain ⟨value, hvalue⟩ := read_of_findings_eq_nil hregistry hform hfindings
    exact ⟨form, value, hform, hfindings, hvalue⟩
  · cases hevaluated

end Form
end SchemaForm
