import SchemaForm.Proofs.Binary64.Integer
import SchemaForm.Proofs.Calendar.Points
import SchemaForm.Proofs.Codec.Settling
import SchemaForm.Proofs.Form.Canonical
import SchemaForm.Proofs.Form.Validated

/-!
# Checking texts that are written back

The rules of an input field ask for what its codec reads: for a date, for an
integer, for a number between bounds.  Writing a text back does not change this,
so that the rules still accept it.  The greatest length and the pattern of a text
field look at the characters instead, and may refuse what they accepted before.

Main results:

- Theorem `accepts_settled_string`, Theorem `accepts_settled_number`: the rules of an input field
  accept what becomes of a text that they accepted.
- Theorem `checkText_unrestricted_iff`: what a field asks of a text without format, pattern and
  greatest length.
- Theorem `checkText_settled_iff`: a text that is written back has no violations when it is empty or
  passes the pattern and the greatest length.
-/

namespace SchemaForm

/-- Whether a field has no format, no pattern and no greatest length. -/
def Spec.isUnrestricted (spec : Spec) : Bool :=
  spec.attributes.format.isNone && spec.attributes.restriction.isNone &&
    spec.attributes.maxLength.isNone

namespace Field

open Result

variable {around : Surroundings} {spec : Spec} {text settled : String}

/-! ## Rules of input fields -/

/-- The codec of a field goes with the rule of its format. -/
theorem cases_codec (spec : Spec) :
    spec.codec = .date spec.patterns.date ∧
        spec.formatRule? = some (.date spec.patterns.date spec.blankAllowed) ∨
      spec.codec = .dateTime spec.patterns.dateTime ∧
        spec.formatRule? = some (.dateTime spec.patterns.dateTime spec.blankAllowed) ∨
      spec.codec = .path ∨
      spec.codec = .ofField spec.header.type none spec.patterns ∧ spec.formatRule? = none := by
  unfold Spec.codec Codec.ofField Spec.formatRule?
  split
  · rename_i hformat
    exact .inl ⟨rfl, by rw [hformat]; rfl⟩
  · rename_i hformat
    exact .inr (.inl ⟨rfl, by rw [hformat]; rfl⟩)
  · exact .inr (.inr (.inl rfl))
  · exact .inr (.inr (.inl rfl))
  · exact .inr (.inr (.inl rfl))
  · refine .inr (.inr (.inr ⟨rfl, ?_⟩))
    cases hformat : spec.attributes.format with
    | none => rfl
    | some format =>
        simp only [Option.bind_some, Rule.ofFormat?]
        split <;> simp_all

/-- The rules of a field are the one against blanks, its own, and that of its format. -/
theorem cases_effectiveRules {field : Field} {rule : Rule} (h : rule ∈ field.effectiveRules) :
    rule = .notEmpty ∨ rule ∈ field.spec.rules ∨ field.formatRule? = some rule := by
  simp only [effectiveRules, List.mem_append, Option.mem_toList] at h
  obtain (hblank | hown) | hformat := h
  · split at hblank
    · exact .inl (List.mem_singleton.mp hblank)
    · cases hblank
  · exact .inr (.inl hown)
  · exact .inr (.inr hformat)

/-- A field accepts a text that is not empty when its own rules and that of its format do. -/
theorem accepts_of_ne_empty {field : Field} (htext : text ≠ "")
    (hown : ∀ rule ∈ field.spec.rules, rule.check around text = none)
    (hformat : ∀ rule, field.formatRule? = some rule → rule.check around text = none) :
    ∀ rule ∈ field.effectiveRules, rule.check around text = none := by
  intro rule hrule
  rcases cases_effectiveRules hrule with rfl | hrule | hrule
  · simpa [Rule.check_notEmpty_eq_none_iff] using htext
  · exact hown rule hrule
  · exact hformat rule hrule

/-- The empty text stays as it is. -/
theorem eq_of_settle_empty {codec : Codec} (h : codec.settle "" = .ok settled) : settled = "" := by
  cases h
  rfl

/-! ## Text fields -/

/-- A text that is a date passes the rule for dates. -/
theorem check_date_of_read {pattern : String} {blankAllowed : Bool} {day : Calendar.Date}
    (htext : text ≠ "") (h : Calendar.Date.read text pattern = .ok day) :
    Rule.check around (.date pattern blankAllowed) text = none := by
  simp [Rule.check, Rule.rejection?, Rule.unlessBlank, htext, h, Rule.succeeded]

/-- A text that is a date with a time passes the rule for them. -/
theorem check_dateTime_of_read {pattern : String} {blankAllowed : Bool}
    {moment : Calendar.DateTime} (htext : text ≠ "")
    (h : Calendar.DateTime.read text pattern = .ok moment) :
    Rule.check around (.dateTime pattern blankAllowed) text = none := by
  simp [Rule.check, Rule.rejection?, Rule.unlessBlank, htext, h, Rule.succeeded]

/-- The text of a date is not empty. -/
theorem ofList_pointedText_ne_empty (day : Calendar.Date) (rest : List Char) :
    String.ofList (Calendar.pointedText day ++ rest) ≠ "" := by
  simp [Calendar.pointedText]

/-- The rules of a text field accept what becomes of a text, if it changes at all. -/
theorem accepts_settled_string (htype : spec.header.type = "string") (hrules : spec.rules = [])
    (hpatterns : spec.patterns = {}) (h : spec.codec.settle text = .ok settled) :
    settled = text ∨ settled ≠ "" ∧
      ∀ rule ∈ effectiveRules (.string spec), rule.check around settled = none := by
  have hsettles := Codec.settles_of_settle (isDefault_codec hpatterns) h
  have hown : ∀ rule ∈ (Field.string spec).spec.rules, rule.check around settled = none := by
    rw [Field.spec, hrules]
    simp
  rcases cases_codec spec with ⟨hcodec, hformat⟩ | ⟨hcodec, hformat⟩ | hcodec | ⟨hcodec, -⟩
  · rw [hcodec, hpatterns] at hsettles
    cases hsettles with
    | empty => exact .inl rfl
    | @date _ day hread =>
        have hne := ofList_pointedText_ne_empty day []
        rw [List.append_nil] at hne
        refine .inr ⟨hne, accepts_of_ne_empty hne hown fun rule hrule => ?_⟩
        rw [formatRule?, hformat, hpatterns] at hrule
        cases hrule
        exact check_date_of_read hne (Calendar.read_pointedText day)
  · rw [hcodec, hpatterns] at hsettles
    cases hsettles with
    | empty => exact .inl rfl
    | @dateTime _ moment hread =>
        have hne := ofList_pointedText_ne_empty moment.date (Calendar.clockText moment.time)
        refine .inr ⟨hne, accepts_of_ne_empty hne hown fun rule hrule => ?_⟩
        rw [formatRule?, hformat, hpatterns] at hrule
        cases hrule
        exact check_dateTime_of_read hne (Calendar.read_clockText moment)
  · rw [hcodec] at hsettles
    cases hsettles <;> exact .inl rfl
  · have hplain : spec.codec = .plain := by
      rw [hcodec, htype]
      rfl
    rw [hplain] at hsettles
    cases hsettles <;> exact .inl rfl

/-! ## Number fields -/

section Numbers

variable {type : String} {bounds : Option Bounds} {rule : Rule}

/-- The rules of a number field are for integers or for numbers, and for bounds. -/
theorem cases_numberRules (h : rule ∈ Building.numberRules type bounds) :
    rule = .integer ∧ type = "integer" ∨ rule = .number ∨ ∃ range, rule = .range range := by
  simp only [Building.numberRules, List.mem_cons, List.mem_map] at h
  rcases h with rfl | ⟨range, -, rfl⟩
  · split
    · exact .inl ⟨rfl, ‹_›⟩
    · exact .inr (.inl rfl)
  · exact .inr (.inr ⟨range, rfl⟩)

/-- A text that a rule of a number field accepts is a number. -/
theorem exists_number?_of_check (hrule : rule ∈ Building.numberRules type bounds)
    (h : rule.check around text = none) : ∃ x, Rule.number? text = some x := by
  rw [← Option.isSome_iff_exists, ← Option.not_isNone, Bool.not_eq_true', Bool.eq_false_iff]
  intro hnone
  rw [Option.isNone_iff_eq_none] at hnone
  rcases cases_numberRules hrule with ⟨rfl, -⟩ | rfl | ⟨range, rfl⟩
  · simp [Rule.check, Rule.rejection?, hnone] at h
  · simp [Rule.check, Rule.rejection?, hnone] at h
  · simp [Rule.check, Rule.rejection?, hnone] at h

/-- The rules of a number field do not tell texts apart that have the same place on the number
line. -/
theorem check_of_rank_eq {x y : Binary64} (hrule : rule ∈ Building.numberRules type bounds)
    (hx : Rule.number? text = some x) (hy : Rule.number? settled = some y) (hrank : y.rank = x.rank)
    (hinteger : type = "integer" → Rule.isInteger settled = true)
    (h : rule.check around text = none) : rule.check around settled = none := by
  rcases cases_numberRules hrule with ⟨rfl, htype⟩ | rfl | ⟨range, rfl⟩
  · simp [Rule.check, Rule.rejection?, hy, hinteger htype]
  · simp [Rule.check, Rule.rejection?, hy]
  · have hcontains : range.contains x = true := by
      simpa [Rule.check, Rule.rejection?, hx] using h
    rw [← Binary64.contains_congr hrank] at hcontains
    simp [Rule.check, Rule.rejection?, hy, hcontains]

/-- A text that is a number is not empty. -/
theorem ne_empty_of_number? {x : Binary64} (h : Rule.number? text = some x) : text ≠ "" := by
  rintro rfl
  cases h

/-- The rules of a number field accept what becomes of a text that they accept. -/
theorem accepts_settled_number (htype : spec.header.type = "integer" ∨ spec.header.type = "number")
    (hrules : spec.rules = Building.numberRules spec.header.type bounds)
    (hpatterns : spec.patterns = {}) (hchecked : checkText around (.number spec) text = [])
    (h : spec.codec.settle text = .ok settled) :
    settled = text ∨ settled ≠ "" ∧
      ∀ rule ∈ effectiveRules (.number spec), rule.check around settled = none := by
  by_cases htext : text = ""
  · subst htext
    exact .inl (eq_of_settle_empty h)
  have hsettles := Codec.settles_of_settle (isDefault_codec hpatterns) h
  have hchecked : ∀ rule ∈ spec.rules, rule.check around text = none := by
    intro rule hrule
    refine check_of_checkText htext hchecked ?_
    simp only [effectiveRules, List.mem_append]
    exact .inl (.inr hrule)
  rw [hrules] at hchecked
  obtain ⟨first, hfirst⟩ : ∃ first, first ∈ Building.numberRules spec.header.type bounds :=
    ⟨_, List.mem_cons_self⟩
  obtain ⟨x, hx⟩ := exists_number?_of_check hfirst (hchecked first hfirst)
  obtain ⟨hread, -⟩ := Rule.number?_eq_some.mp hx
  -- Where the format has no rule, the number decides.
  have hnumber : ∀ {y : Binary64}, spec.formatRule? = none → Rule.number? settled = some y →
      y.rank = x.rank → (spec.header.type = "integer" → Rule.isInteger settled = true) →
        settled = text ∨ settled ≠ "" ∧
          ∀ rule ∈ effectiveRules (.number spec), rule.check around settled = none := by
    intro y hformat hy hrank hinteger
    refine .inr ⟨ne_empty_of_number? hy, accepts_of_ne_empty (ne_empty_of_number? hy) ?_ ?_⟩
    · intro rule hrule
      rw [Field.spec, hrules] at hrule
      exact check_of_rank_eq hrule hx hy hrank hinteger (hchecked rule hrule)
    · intro rule hrule
      rw [formatRule?, hformat] at hrule
      cases hrule
  rcases cases_codec spec with ⟨hcodec, -⟩ | ⟨hcodec, -⟩ | hcodec | ⟨hcodec, hformat⟩
  · rw [hcodec, hpatterns] at hsettles
    cases hsettles with
    | empty => exact absurd rfl htext
    | date hdate => exact absurd hread (Calendar.read_ne_ok_of_date hdate x)
  · rw [hcodec, hpatterns] at hsettles
    cases hsettles with
    | empty => exact absurd rfl htext
    | dateTime hmoment => exact absurd hread (Calendar.read_ne_ok_of_dateTime hmoment x)
  · rw [hcodec] at hsettles
    cases hsettles <;> exact .inl rfl
  · rcases htype with htype | htype
    · have hinteger : spec.codec = .integer := by
        rw [hcodec, htype]
        rfl
      rw [hinteger] at hsettles
      cases hsettles with
      | empty => exact absurd rfl htext
      | @integer _ n hn =>
          obtain ⟨y, hy, hrank⟩ := Rule.number?_toString hn hx
          obtain ⟨hleast, hgreatest⟩ := Text.Integer.read_le hn
          refine hnumber hformat hy hrank fun _ => ?_
          simp only [Rule.isInteger, Text.Integer.read_trim_toString hleast hgreatest]
    · have hplain : spec.codec = .number := by
        rw [hcodec, htype]
        rfl
      rw [hplain] at hsettles
      cases hsettles with
      | empty => exact absurd rfl htext
      | @number _ y hy hfinite =>
          rw [hread, Except.ok.injEq] at hy
          have hsame := Rule.number?_eq_some.mpr ⟨Binary64.read_trim_plain hfinite, hfinite⟩
          refine hnumber hformat hsame (by rw [hy]) fun hinteger => ?_
          rw [htype] at hinteger
          exact absurd hinteger (by decide)

end Numbers

/-! ## Texts -/

/-- A text of an input field that is not empty has no violations when the rules, the pattern and the
greatest length have none. -/
theorem checkText_eq_nil_iff {field : Field} (hinput : field.isInput = true) (htext : text ≠ "") :
    checkText around field text = [] ↔
      (∀ rule ∈ field.effectiveRules, rule.check around text = none) ∧
        field.patternViolations text = [] ∧ field.lengthViolations text = [] := by
  have hselect : field.isSelect = false := by
    cases field with
    | string spec => simpa [isInput] using hinput
    | _ => rfl
  have hchoice : field.choiceViolations text = [] := by simp [choiceViolations, hselect]
  simp [checkText, htext, hchoice, Rule.checkAll]

/-- A text that is not empty, of a field without format, pattern and greatest length, has no
violations when the own rules of the field and its choices have none. -/
theorem checkText_unrestricted_iff {field : Field} (hplain : field.spec.isUnrestricted = true)
    (htext : text ≠ "") :
    checkText around field text = [] ↔
      (∀ rule ∈ field.spec.rules, rule.check around text = none) ∧
        field.choiceViolations text = [] := by
  simp only [Spec.isUnrestricted, Bool.and_eq_true, Option.isNone_iff_eq_none] at hplain
  obtain ⟨⟨hformat, hrestriction⟩, hmaxLength⟩ := hplain
  have hrule : field.formatRule? = none := by
    cases field <;> simp_all [formatRule?, Spec.formatRule?, Field.spec]
  have hpattern : field.patternViolations text = [] := by
    simp [patternViolations, attributes, hrestriction]
  have hlength : field.lengthViolations text = [] := by
    simp [lengthViolations, attributes, hmaxLength]
  have hrules : Rule.checkAll around field.effectiveRules text = [] ↔
      ∀ rule ∈ field.spec.rules, rule.check around text = none := by
    constructor
    · intro h rule hown
      refine Rule.check_of_checkAll h ?_
      simp only [effectiveRules, List.mem_append]
      exact .inl (.inr hown)
    · intro hown
      simpa [Rule.checkAll] using accepts_of_ne_empty htext hown (by simp [hrule])
  simp [checkText, htext, hpattern, hlength, hrules]

/-- When the rules accept what becomes of a text without violations, it has none when it is empty or
passes the pattern and the greatest length. -/
theorem checkText_settled_iff {field : Field} (hinput : field.isInput = true)
    (hsettled : settled = text ∨ settled ≠ "" ∧
      ∀ rule ∈ field.effectiveRules, rule.check around settled = none)
    (h : checkText around field text = []) :
    checkText around field settled = [] ↔
      settled = "" ∨
        field.patternViolations settled = [] ∧ field.lengthViolations settled = [] := by
  rcases hsettled with rfl | ⟨hne, haccepts⟩
  · refine iff_of_true h ?_
    by_cases htext : settled = ""
    · exact .inl htext
    · exact .inr ((checkText_eq_nil_iff hinput htext).mp h).2
  · rw [checkText_eq_nil_iff hinput hne]
    simp only [hne, false_or, and_iff_right_iff_imp]
    exact fun _ => haccepts

end Field
end SchemaForm
