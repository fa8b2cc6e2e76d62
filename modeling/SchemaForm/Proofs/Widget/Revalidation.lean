import SchemaForm.Proofs.Field.Settled
import SchemaForm.Proofs.Form.Machine
import SchemaForm.Proofs.Form.Typed
import SchemaForm.Proofs.Widget.Start

/-!
# Widgets to be checked anew

Where the findings depend on the files of the machine, they have to be looked for anew
although no text has changed.  An input says so of itself.  A closed list is checked with
the rule of its format as well, and its widget does not say so.  So the findings of a
form keep to the draft exactly when no input asks to be checked anew and no closed list
is in a format of paths.

Main results:

- Definition `Widget.inputs`: the inputs in a widget, at any depth.
- Definition `Field.closedListAsks`: closed lists that ask the machine without saying so.
- Theorem `Field.asksMachine_iff`: which widgets show that a field asks the machine.
- Theorem `Form.findings_agree_iff`: when the findings of a form keep to the draft.
-/

namespace SchemaForm
namespace Field

variable {field : Field}

/-- Fields whose own rules, and those of their parts, do not ask the machine: only the rule of a
format may. -/
inductive AsksByFormat : Field → Prop where
  | boolean {spec : Spec} (hrules : ∀ rule ∈ spec.rules, rule.asksMachine = false) :
      AsksByFormat (.boolean spec)
  | string {spec : Spec} (hrules : ∀ rule ∈ spec.rules, rule.asksMachine = false) :
      AsksByFormat (.string spec)
  | number {spec : Spec} (hrules : ∀ rule ∈ spec.rules, rule.asksMachine = false) :
      AsksByFormat (.number spec)
  | array {spec : Spec} {item : Field} (hrules : ∀ rule ∈ spec.rules, rule.asksMachine = false)
      (hitem : AsksByFormat item) : AsksByFormat (.array spec item)
  | object {spec : Spec} {fields : List (String × Field)}
      (hrules : ∀ rule ∈ spec.rules, rule.asksMachine = false)
      (hfields : ∀ entry ∈ fields, AsksByFormat entry.2) : AsksByFormat (.object spec fields)

/-- Whether the rule of the format of a field asks the machine. -/
def formatAsks (field : Field) : Bool :=
  field.formatRule?.any Rule.asksMachine

mutual

/-- Whether a field, or a part of it, is shown as a closed list although the rule of its format asks
the machine. -/
def closedListAsks : Field → Bool
  | .string spec => isSelect (.string spec) && formatAsks (.string spec)
  | .array _ item =>
      if item.attributes.choices.isSome then formatAsks item else closedListAsks item
  | .object _ fields => closedListsAsk fields
  | .boolean _ | .number _ => false

/-- Whether one of some fields is shown as a closed list although its format asks the machine. -/
def closedListsAsk : List (String × Field) → Bool
  | [] => false
  | (_, field) :: rest => closedListAsks field || closedListsAsk rest

end

theorem closedListsAsk_iff {fields : List (String × Field)} :
    closedListsAsk fields = true ↔ ∃ entry ∈ fields, entry.2.closedListAsks = true := by
  induction fields with
  | nil => simp [closedListsAsk]
  | cons entry rest ih => simp [closedListsAsk, ih]

/-- A rule of a field asks the machine when the rule of its format does. -/
theorem AsksByFormat.exists_rule_iff (h : field.AsksByFormat) :
    (∃ rule ∈ field.effectiveRules, rule.asksMachine = true) ↔ field.formatAsks = true := by
  have hown : ∀ rule ∈ field.spec.rules, rule.asksMachine = false := by
    cases h <;> assumption
  constructor
  · rintro ⟨rule, hrule, hasks⟩
    rcases cases_effectiveRules hrule with rfl | hrule | hrule
    · cases hasks
    · rw [hown rule hrule] at hasks
      cases hasks
    · rw [formatAsks, hrule]
      exact hasks
  · intro hasks
    obtain ⟨rule, hrule, hasks⟩ := Option.any_eq_true _ _ |>.mp hasks
    exact ⟨rule, by simp [effectiveRules, hrule], hasks⟩

/-- A field asks the machine when the rule of its format does. -/
theorem AsksByFormat.asksMachine (h : field.AsksByFormat) (hasks : field.formatAsks = true) :
    field.AsksMachine := by
  have hrule := h.exists_rule_iff.mpr hasks
  cases field with
  | string spec => exact asksMachine_string.mpr hrule
  | number spec => exact asksMachine_number.mpr hrule
  | boolean | array | object => cases hasks

end Field

namespace Widget

mutual

/-- The inputs in a widget, at any depth. -/
def inputs : Widget → List TextInput
  | .input line => [line]
  | .list _ _ _ item _ => inputs item
  | .group _ _ _ children => inputsOf children
  | .select _ | .switch .. | .multiSelect .. => []

/-- The inputs in named widgets, at any depth. -/
def inputsOf : List (String × Widget) → List TextInput
  | [] => []
  | (_, widget) :: rest => inputs widget ++ inputsOf rest

end

theorem mem_inputsOf {line : TextInput} {children : List (String × Widget)} :
    line ∈ inputsOf children ↔ ∃ child ∈ children, line ∈ child.2.inputs := by
  induction children with
  | nil => simp [inputsOf]
  | cons child rest ih => simp [inputsOf, ih]

/-- The input of a field is to be checked anew when the rule of its format asks the machine. -/
theorem alwaysRevalidate_of_inputOf {field : Field} {line : TextInput}
    (h : inputOf field = .ok line) : line.alwaysRevalidate = field.formatAsks := by
  simp only [inputOf, Result.bind_eq_ok, Result.pure_eq_ok] at h
  obtain ⟨_, -, rfl⟩ := h
  rfl

end Widget

namespace Field

open Result

variable {field : Field}

/-- A field asks the machine when one of its inputs says so, or when a closed list does without
saying so. -/
theorem asksMachine_iff (htyped : field.IsTyped) (hrules : field.AsksByFormat) {widget : Widget}
    (hwidget : Widget.ofField field = .ok widget) :
    field.AsksMachine ↔
      (∃ line ∈ widget.inputs, line.alwaysRevalidate = true) ∨ field.closedListAsks = true := by
  induction htyped generalizing widget with
  | @boolean spec _ _ =>
      cases hwidget
      simp only [Widget.inputs, List.not_mem_nil, false_and, exists_false, closedListAsks,
        Bool.false_eq_true, or_self, iff_false]
      intro hasks
      cases hasks
  | @string spec _ =>
      rw [asksMachine_string, hrules.exists_rule_iff]
      by_cases hselect : isSelect (.string spec) = true
      · simp only [Widget.ofField, if_pos hselect, Except.ok.injEq] at hwidget
        subst hwidget
        simp [Widget.inputs, closedListAsks, hselect]
      · simp only [Widget.ofField, if_neg hselect] at hwidget
        obtain ⟨line, hline, rfl⟩ := map_eq_ok.mp hwidget
        simp [Widget.inputs, closedListAsks, hselect, Widget.alwaysRevalidate_of_inputOf hline]
  | @number spec _ _ =>
      rw [asksMachine_number, hrules.exists_rule_iff]
      obtain ⟨line, hline, rfl⟩ := map_eq_ok.mp hwidget
      simp [Widget.inputs, closedListAsks, Widget.alwaysRevalidate_of_inputOf hline]
  | @array spec item _ _ hitem ih =>
      have hasks : item.AsksByFormat := by
        cases hrules with
        | array _ hasks => exact hasks
      rw [asksMachine_array, hasks.exists_rule_iff]
      rcases Widget.ofField_array hwidget with
        ⟨hchoices, choices, rfl⟩ | ⟨hchoices, part, hpart, rfl⟩
      · -- The items of a list of choices are texts, of which only the rules can ask.
        have hitems : item.AsksMachine → item.formatAsks = true := by
          intro h
          have hkind := hitem.kind_of_choices hchoices
          cases h with
          | string hrule hmachine => exact hasks.exists_rule_iff.mp ⟨_, hrule, hmachine⟩
          | number | choices | item | field => cases hkind
        simp only [Widget.inputs, List.not_mem_nil, false_and, exists_false, false_or,
          closedListAsks, if_pos hchoices]
        exact ⟨fun h => h.elim id hitems, .inl⟩
      · have hopen : closedListAsks (.array spec item) = item.closedListAsks := by
          rw [closedListAsks, if_neg (by simp [hchoices])]
        rw [hopen, Widget.inputs, ← ih hasks hpart]
        exact ⟨fun h => h.elim hasks.asksMachine id, .inr⟩
  | @object spec fields _ _ _ ih =>
      obtain ⟨children, hchildren, rfl⟩ := Widget.exists_ofFields hwidget
      have hasks : ∀ entry ∈ fields, entry.2.AsksByFormat := by
        cases hrules with
        | object _ hasks => exact hasks
      have hparts := Widget.ofFields_eq_ok.mp hchildren
      rw [asksMachine_object, closedListAsks, closedListsAsk_iff, Widget.inputs]
      simp only [Widget.mem_inputsOf]
      constructor
      · rintro ⟨entry, hentry, hmachine⟩
        obtain ⟨child, hchild, -, hwidget⟩ := exists_of_forall₂ hparts hentry
        rcases (ih entry hentry (hasks entry hentry) hwidget).mp hmachine with
          ⟨line, hline, hflag⟩ | hclosed
        · exact .inl ⟨line, ⟨child, hchild, hline⟩, hflag⟩
        · exact .inr ⟨entry, hentry, hclosed⟩
      · rintro (⟨line, ⟨child, hchild, hline⟩, hflag⟩ | ⟨entry, hentry, hclosed⟩)
        · obtain ⟨entry, hentry, -, hwidget⟩ := exists_of_forall₂ hparts.flip hchild
          exact ⟨entry, hentry,
            (ih entry hentry (hasks entry hentry) hwidget).mpr (.inl ⟨line, hline, hflag⟩)⟩
        · obtain ⟨child, hchild, -, hwidget⟩ := exists_of_forall₂ hparts hentry
          exact ⟨entry, hentry, (ih entry hentry (hasks entry hentry) hwidget).mpr (.inr hclosed)⟩

end Field

/-! ## Registries and forms -/

/-- The builders beside those for the five kinds make fields that only ask the machine by their
formats. -/
def Registry.AsksByFormat (registry : Registry) : Prop :=
  registry.Keeps False fun _ _ _ field => field.AsksByFormat

/-- Where there are no other builders they ask by their formats at most. -/
theorem Registry.IsBuiltIn.asksByFormat {registry : Registry} (h : registry.IsBuiltIn) :
    registry.AsksByFormat :=
  h.keeps False _

namespace Building

variable {registry : Registry} {settings : Settings} {field : Field}

/-- Built fields only ask the machine by their formats. -/
theorem asksByFormat_of_built (hregistry : registry.AsksByFormat)
    (h : Built registry settings False field) : field.AsksByFormat := by
  induction h with
  | boolean => exact .boolean (by simp)
  | string => exact .string (by simp)
  | @number header _ _ bounds _ =>
      refine .number ?_
      intro rule hrule
      rcases Field.cases_numberRules hrule with ⟨rfl, -⟩ | rfl | ⟨range, rfl⟩
      · rfl
      · rfl
      · rfl
  | array _ _ _ _ ih => exact .array (by simp) ih
  | object _ _ _ _ ih => exact .object (by simp) ih
  | other hbuild _ hproper _ htypes hfield ih =>
      exact hregistry _ _ hbuild _ _ _ _ _ hproper ih htypes hfield

end Building

namespace Form

open Result

/-- The findings in the drafts of a form are the same on all machines with one clock exactly when no
input is to be checked anew and no closed list is in a format whose rule asks the machine. -/
theorem findings_agree_iff {registry : Registry} {settings : Settings} {schema : Json} {form : Form}
    {widget : Widget} (htyped : registry.MakesTyped) (hrules : registry.AsksByFormat)
    (hform : compile registry settings schema = .ok form)
    (hwidget : Widget.ofField form.root = .ok widget) :
    (∀ around other : Surroundings, around.today = other.today → ∀ draft,
        form.findings around draft = form.findings other draft) ↔
      (∀ line ∈ widget.inputs, line.alwaysRevalidate = false) ∧
        form.root.closedListAsks = false := by
  have hbuilt := (Building.built_of_compile False.elim hform).1
  have hasks := Field.asksMachine_iff (Building.isTyped_of_built htyped hbuilt)
    (Building.asksByFormat_of_built hrules hbuilt) hwidget
  have hquiet : ¬ form.root.AsksMachine ↔
      (∀ line ∈ widget.inputs, line.alwaysRevalidate = false) ∧
        form.root.closedListAsks = false := by
    rw [hasks]
    simp only [not_or, not_exists, not_and, Bool.not_eq_true]
  rw [← hquiet]
  constructor
  · intro hsame hmachine
    obtain ⟨draft, hdraft⟩ := hmachine.exists_length_findings_lt
    have hequal := hsame (.uniform true) (.uniform false) rfl draft
    exact absurd (congrArg List.length hequal) (Nat.ne_of_lt (hdraft ""))
  · intro hroot around other htoday draft
    exact Field.findings_congr htoday hroot "" draft

/-- The findings in a draft of an appointment are the same on all machines with one clock. -/
theorem findings_agree_appointment :
    ∃ form, compile Registry.standard {} appointmentSchema = .ok form ∧
      ∀ around other : Surroundings, around.today = other.today → ∀ draft,
        form.findings around draft = form.findings other draft := by
  have hevaluated :
      (passes (compile Registry.standard {} appointmentSchema) fun form =>
        passes (Widget.ofField form.root) fun widget =>
          widget.inputs.all (fun line => !line.alwaysRevalidate) &&
            !form.root.closedListAsks) = true := by
    decide +kernel
  simp only [passes_iff, Bool.and_eq_true, List.all_eq_true, Bool.not_eq_true'] at hevaluated
  obtain ⟨form, hform, widget, hwidget, hinputs, hclosed⟩ := hevaluated
  have hbuiltIn := Registry.isBuiltIn_standard
  exact ⟨form, hform,
    (findings_agree_iff hbuiltIn.offersForTexts.makesTyped hbuiltIn.asksByFormat hform hwidget).mpr
      ⟨hinputs, hclosed⟩⟩

/-- A schema with a closed list of files. -/
def attachmentSchema : Json :=
  .object
    [("type", .string "object"),
      ("properties",
        .object
          [("file",
            .object
              [("type", .string "string"), ("enum", .array [.string "notes.txt"]),
                ("format", .string "file-path")])])]

/-- A machine with a single file. -/
def withNotes : Surroundings :=
  { Surroundings.uniform false with isFile := fun path => path == "notes.txt" }

/-- No input of the form for an attachment is to be checked anew, and still the findings depend on
whether the machine has the file. -/
theorem findings_ne_attachmentSchema :
    ∃ form widget draft, compile Registry.standard {} attachmentSchema = .ok form ∧
      Widget.ofField form.root = .ok widget ∧
        (∀ line ∈ widget.inputs, line.alwaysRevalidate = false) ∧
          form.findings (.uniform false) draft ≠ form.findings withNotes draft := by
  have hevaluated :
      (passes (compile Registry.standard {} attachmentSchema) fun form =>
        passes (Widget.ofField form.root) fun widget =>
          widget.inputs.all (fun line => !line.alwaysRevalidate) &&
            decide (form.findings (.uniform false) (.group [("file", .choice (some "notes.txt"))]) ≠
              form.findings withNotes (.group [("file", .choice (some "notes.txt"))]))) =
        true := by
    decide +kernel
  simp only [passes_iff, Bool.and_eq_true, List.all_eq_true, Bool.not_eq_true',
    decide_eq_true_eq] at hevaluated
  obtain ⟨form, hform, widget, hwidget, hinputs, hfindings⟩ := hevaluated
  exact ⟨form, widget, _, hform, hwidget, hinputs, hfindings⟩

end Form
end SchemaForm
