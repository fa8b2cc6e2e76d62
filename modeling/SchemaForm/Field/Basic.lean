import SchemaForm.Codec
import SchemaForm.Regex.Restriction
import SchemaForm.Rule.Basic
import SchemaForm.Schema.Error

/-!
# Fields

A field is what one schema node has become: its head with name and labels, the
attributes that its schema gives it, its own rules, and its parts if it is a
list or a group.

Main results:

- Theorem `kind_array`, Theorem `kind_object`: the kind of a field with parts.
- Theorem `blankAllowed_of_required`: a required field may not be blank.
- Theorem `checkText_blank`: where blanks are allowed the empty text is accepted.
-/

namespace SchemaForm

/-- The head of a field. -/
structure Header where
  type : String
  name : String
  label : String
  description : String
  required : Bool
deriving DecidableEq, Repr

/-- The attributes of a field. -/
structure Attributes where
  default : Option Json := none
  format : Option String := none
  /-- The texts that a closed list offers. -/
  choices : Option (List String) := none
  /-- The choices are suggestions only. -/
  suggester : Bool := false
  maxLength : Option Nat := none
  restriction : Option Restriction := none
  password : Bool := false
  bounds : Option Bounds := none
  minItems : Option Nat := none
  maxItems : Option Nat := none

/-- All of a field but its kind and its parts. -/
structure Spec where
  header : Header
  attributes : Attributes
  rules : List Rule
  patterns : DatePatterns

namespace Spec

/-- Whether a blank value is valid: the field is not required and its default does not count as
true. -/
def blankAllowed (spec : Spec) : Bool :=
  !(spec.header.required || spec.attributes.default.any Json.isTruthy)

/-- The codec of the field. -/
def codec (spec : Spec) : Codec :=
  .ofField spec.header.type spec.attributes.format spec.patterns

/-- The rule of the format of an input field. -/
def formatRule? (spec : Spec) : Option Rule :=
  spec.attributes.format.bind fun format => Rule.ofFormat? format spec.patterns spec.blankAllowed

/-- The default as an entered text.  A default that does not fit the codec is shown as it is. -/
def defaultText (spec : Spec) : Except DataError String :=
  match spec.attributes.default with
  | none | some .null => .ok ""
  | some value =>
      match spec.codec.textOfNative spec.header.name value with
      | .ok text => .ok text
      | .error (.unwritable pattern) => .error (.unwritable pattern)
      | .error _ => .ok value.plainText

/-- The first choice of a closed list: the default, or else the first one of a required field. -/
def initialChoice (spec : Spec) : Option String :=
  let first := if spec.header.required then spec.attributes.choices.bind List.head? else none
  match spec.attributes.default with
  | none | some .null => first
  | some value => some value.plainText

/-- The items of a default that is a list. -/
def defaultItems (spec : Spec) : List Json :=
  (spec.attributes.default.bind Json.asArray?).getD []

/-- Whether the default counts as true. -/
def defaultIsOn (spec : Spec) : Bool :=
  spec.attributes.default.any Json.isTruthy

end Spec

/-- A field. -/
inductive Field where
  | boolean (spec : Spec)
  | string (spec : Spec)
  | number (spec : Spec)
  /-- A list, with the field of each of its items. -/
  | array (spec : Spec) (item : Field)
  /-- A group of named fields. -/
  | object (spec : Spec) (fields : List (String × Field))

namespace Field

/-- All of a field but its kind and its parts. -/
def spec : Field → Spec
  | .boolean spec | .string spec | .number spec => spec
  | .array spec _ => spec
  | .object spec _ => spec

/-- The kind of a field. -/
def kind : Field → FieldKind
  | .boolean _ => .boolean
  | .string _ => .string
  | .number _ => .number
  | .array .. => .array
  | .object .. => .object

/-- The fields of a group. -/
def fields? : Field → Option (Entries Field)
  | .object _ fields => some fields
  | _ => none

/-- The field of the items of a list. -/
def item? : Field → Option Field
  | .array _ item => some item
  | _ => none

/-- The head of a field. -/
def header (field : Field) : Header :=
  field.spec.header

/-- The attributes of a field. -/
def attributes (field : Field) : Attributes :=
  field.spec.attributes

/-- The choices of a field, or those of the items of a list. -/
def choices? : Field → Option (List String)
  | .array _ item => item.attributes.choices
  | field => field.attributes.choices

/-- Whether a text field is a closed list of choices. -/
def isSelect : Field → Bool
  | .string spec => spec.attributes.choices.isSome && !spec.attributes.suggester
  | _ => false

/-- The rule of the format of a field that is entered as text. -/
def formatRule? : Field → Option Rule
  | .string spec | .number spec => spec.formatRule?
  | _ => none

/-- The field itself if its type is none that its kind stands for. -/
def selfIfForeign (field : Field) : Option Field :=
  if field.kind.types.contains field.header.type then none else some field

mutual

/-- The first part of a field whose type is none that its kind stands for; the parts of a field come
before the field itself. -/
def foreignPart? : Field → Option Field
  | .array spec item => (foreignPart? item).or (selfIfForeign (.array spec item))
  | .object spec fields => (foreignPartOf? fields).or (selfIfForeign (.object spec fields))
  | field => selfIfForeign field

/-- The first part of some fields whose type is none that its kind stands for. -/
def foreignPartOf? : List (String × Field) → Option Field
  | [] => none
  | (_, field) :: rest => (foreignPart? field).or (foreignPartOf? rest)

end

/-- The longest description that stands beside a switch. -/
def switchLabelLimit : Nat := 100

/-- The label beside the widget; a switch prefers a short description. -/
def displayLabel : Field → String
  | .boolean spec =>
      let description := spec.header.description
      if !description.isEmpty && description.length < switchLabelLimit then description
      else spec.header.label
  | field => field.header.label

/-! ## Rules for texts -/

/-- The rules that a text is checked with: the one against blanks if the field has none of its own,
its own, and that of its format. -/
def effectiveRules (field : Field) : List Rule :=
  let own := field.spec.rules
  let notEmpty := if own.isEmpty && !field.spec.blankAllowed then [Rule.notEmpty] else []
  notEmpty ++ own ++ field.formatRule?.toList

/-- The violation of a pattern. -/
def patternViolations (field : Field) (text : String) : List Violation :=
  match field.attributes.restriction with
  | some restriction =>
      if restriction.accepts text then []
      else [⟨"pattern", s!"Must match pattern '{restriction.pattern}'"⟩]
  | none => []

/-- The violation of a greatest length, counted in characters. -/
def lengthViolations (field : Field) (text : String) : List Violation :=
  match field.attributes.maxLength with
  | some most =>
      if text.length ≤ most then []
      else [⟨"max_length", s!"Must be at most {most} characters"⟩]
  | none => []

/-- The violation of a closed list of choices. -/
def choiceViolations (field : Field) (text : String) : List Violation :=
  match field.isSelect, field.attributes.choices with
  | true, some choices =>
      if choices.contains text then []
      else [⟨"choice", "Must be one of: " ++ String.intercalate ", " choices⟩]
  | _, _ => []

/-- The violations of a text that is entered into a field.  Where blanks are allowed, nothing is
asked of the empty text, and elsewhere only the rules are. -/
def checkText (around : Surroundings) (field : Field) (text : String) : List Violation :=
  if text.isEmpty then
    if field.spec.blankAllowed then [] else Rule.checkAll around field.effectiveRules text
  else
    Rule.checkAll around field.effectiveRules text ++ field.patternViolations text ++
      field.lengthViolations text ++ field.choiceViolations text

/-! ## Laws -/

@[simp]
theorem kind_array (spec : Spec) (item : Field) : (Field.array spec item).kind = .array :=
  rfl

@[simp]
theorem kind_object (spec : Spec) (fields : List (String × Field)) :
    (Field.object spec fields).kind = .object :=
  rfl

/-- A required field may not be blank. -/
theorem blankAllowed_of_required {spec : Spec} (h : spec.header.required = true) :
    spec.blankAllowed = false := by
  simp [Spec.blankAllowed, h]

/-- Where blanks are allowed the empty text is accepted. -/
theorem checkText_blank (around : Surroundings) {field : Field}
    (h : field.spec.blankAllowed = true) : field.checkText around "" = [] := by
  simp [checkText, h]

end Field
end SchemaForm
