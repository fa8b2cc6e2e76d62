import SchemaForm.Proofs.Field.Settled
import SchemaForm.Proofs.Widget.Start

/-!
# Inputs that check texts

A renderer that has only the input of a field can check a text by itself: with the rules of
the input, its pattern and its greatest length.  It finds a violation exactly where the field
does, with one exception.  A greatest length of zero reads as none in the input, so that it
accepts texts that the field refuses.

Main results:

- Definition `TextInput.accepts`: the check that an input allows.
- Theorem `Restriction.ofPattern?_pattern`: a restriction can be made again from its pattern.
- Theorem `Field.checkText_iff_accepts`: when the field and its input agree on a text.
- Theorem `Field.checkText_noteSchema`: a text that only the input accepts.
-/

namespace SchemaForm

/-- A restriction can be made again from its pattern. -/
theorem Restriction.ofPattern?_pattern (restriction : Restriction) :
    ofPattern? restriction.pattern = some restriction := by
  obtain ⟨pattern, expr, hread⟩ := restriction
  unfold ofPattern?
  split
  · rename_i found hfound
    rw [hread, Option.some.injEq] at hfound
    subst hfound
    rfl
  · rename_i hnone
    rw [hread] at hnone
    cases hnone

namespace TextInput

/-- Whether a text passes the pattern of an input, if it has one. -/
def passesPattern (line : TextInput) (text : String) : Bool :=
  line.pattern.all fun pattern => (Restriction.ofPattern? pattern).any (·.accepts text)

/-- Whether a text passes the greatest length of an input; zero stands for any length. -/
def passesLength (line : TextInput) (text : String) : Bool :=
  line.maxLength == 0 || text.length ≤ line.maxLength

/-- Whether an input accepts a text: where blanks are allowed the empty one, and else what its rules
accept, unless the pattern or the greatest length is against it. -/
def accepts (around : Surroundings) (line : TextInput) (text : String) : Bool :=
  text.isEmpty && line.blankAllowed ||
    (line.rules.all fun rule => (rule.check around text).isNone) &&
      (text.isEmpty || line.passesPattern text && line.passesLength text)

end TextInput

namespace Field

open Result

variable {field : Field} {line : TextInput} {text : String}

/-- Only a field that is entered as text has an input, which has the rules, the pattern and the
greatest length of the field. -/
theorem exists_input_of_ofField (h : Widget.ofField field = .ok (.input line)) :
    field.isInput = true ∧ line.blankAllowed = field.spec.blankAllowed ∧
      line.rules = field.effectiveRules ∧
        line.pattern = field.attributes.restriction.map Restriction.pattern ∧
          line.maxLength = field.attributes.maxLength.getD 0 := by
  cases Widget.shows_of_ofField h with
  | input hinput hline =>
      simp only [Widget.inputOf, bind_eq_ok, pure_eq_ok] at hline
      obtain ⟨value, -, rfl⟩ := hline
      exact ⟨hinput, rfl, rfl, rfl, rfl⟩

/-- A text has no violation of the pattern when it passes the pattern of the input. -/
theorem patternViolations_eq_nil_iff
    (h : line.pattern = field.attributes.restriction.map Restriction.pattern) (text : String) :
    field.patternViolations text = [] ↔ line.passesPattern text = true := by
  unfold patternViolations TextInput.passesPattern
  rw [h]
  cases field.attributes.restriction with
  | none => simp
  | some restriction => simp [Restriction.ofPattern?_pattern]

/-- A text that is not empty has no violation of the greatest length when it passes that of the
input, unless the greatest length is zero. -/
theorem lengthViolations_eq_nil_iff (h : line.maxLength = field.attributes.maxLength.getD 0)
    (htext : text ≠ "") :
    field.lengthViolations text = [] ↔
      line.passesLength text = true ∧ field.attributes.maxLength ≠ some 0 := by
  unfold lengthViolations TextInput.passesLength
  rw [h]
  cases field.attributes.maxLength with
  | none => simp
  | some most =>
      have hpositive : 0 < text.length := by
        rw [Nat.pos_iff_ne_zero]
        simpa using htext
      simp
      omega

/-- A field has no violations in a text exactly when its input accepts the text, except that under a
greatest length of zero only the empty text has none. -/
theorem checkText_iff_accepts (h : Widget.ofField field = .ok (.input line))
    (around : Surroundings) (text : String) :
    field.checkText around text = [] ↔
      line.accepts around text = true ∧ (field.attributes.maxLength = some 0 → text = "") := by
  obtain ⟨hinput, hblank, hrules, hpattern, hlength⟩ := exists_input_of_ofField h
  by_cases htext : text = ""
  · subst htext
    cases hallowed : field.spec.blankAllowed <;>
      simp [checkText, TextInput.accepts, hblank, hrules, hallowed, Rule.checkAll]
  · rw [checkText_eq_nil_iff hinput htext, patternViolations_eq_nil_iff hpattern,
      lengthViolations_eq_nil_iff hlength htext]
    simp [TextInput.accepts, hrules, htext, and_assoc]

/-- A schema for a text of at most a given number of characters. -/
def noteSchema (most : Int) : Schema :=
  [("type", .string "string"), ("maxLength", .number (.integer most))]

/-- A note of up to forty characters and its input agree on every text. -/
theorem checkText_iff_accepts_note :
    ∃ field line, (Scope.root Registry.standard {}).compile "note" false (noteSchema 40) =
        .ok field ∧
      Widget.ofField field = .ok (.input line) ∧
        ∀ around text, field.checkText around text = [] ↔ line.accepts around text = true := by
  have hevaluated :
      (passes ((Scope.root Registry.standard {}).compile "note" false (noteSchema 40)) fun field =>
        passes (Widget.ofField field) fun widget =>
          (widget.lineAt? []).isSome && field.attributes.maxLength == some 40) = true := by
    decide +kernel
  simp only [passes_iff, Bool.and_eq_true, Option.isSome_iff_exists, Widget.lineAt?_eq_some,
    Widget.find?, Option.some.injEq, beq_iff_eq] at hevaluated
  obtain ⟨field, hfield, _, hwidget, ⟨line, rfl⟩, hlength⟩ := hevaluated
  refine ⟨field, line, hfield, hwidget, fun around text => ?_⟩
  have hagree := checkText_iff_accepts hwidget around text
  simpa [hlength] using hagree

/-- A note of no characters has no room for a text that its input accepts. -/
theorem checkText_noteSchema :
    ∃ field line, (Scope.root Registry.standard {}).compile "note" false (noteSchema 0) =
        .ok field ∧
      Widget.ofField field = .ok (.input line) ∧
        line.accepts ⟨fun _ => false, fun _ => false, true, id⟩ "a" = true ∧
          field.checkText ⟨fun _ => false, fun _ => false, true, id⟩ "a" ≠ [] := by
  have hevaluated :
      (passes ((Scope.root Registry.standard {}).compile "note" false (noteSchema 0)) fun field =>
        passes (Widget.ofField field) fun widget =>
          (widget.lineAt? []).any fun line =>
            line.accepts ⟨fun _ => false, fun _ => false, true, id⟩ "a" &&
              !(field.checkText ⟨fun _ => false, fun _ => false, true, id⟩ "a").isEmpty) =
        true := by
    decide +kernel
  simp only [passes_iff, Option.any_eq_true, Bool.and_eq_true, Bool.not_eq_true',
    List.isEmpty_eq_false_iff, Widget.lineAt?_eq_some, Widget.find?,
    Option.some.injEq] at hevaluated
  obtain ⟨field, hfield, _, hwidget, line, rfl, haccepts, hviolations⟩ := hevaluated
  exact ⟨field, line, hfield, hwidget, haccepts, hviolations⟩

end Field
end SchemaForm
