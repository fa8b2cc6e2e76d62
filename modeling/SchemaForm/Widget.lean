import SchemaForm.Field.Document
import SchemaForm.Text.CaseMap

/-!
# Widgets

What a renderer has to know to show a field: one kind of widget for each way to
enter a value, with its start value.

Main results:

- Theorem `ofField_object`: a group becomes the group of its widgets.
-/

namespace SchemaForm

/-- A line of text to edit. -/
structure TextInput where
  name : String
  value : String
  placeholder : String
  pattern : Option String
  password : Bool
  /-- The greatest number of characters, or zero for any number. -/
  maxLength : Nat
  inputType : String
  format : Option String
  blankAllowed : Bool
  rules : List Rule
  /-- The rules may change their answer while the text stays the same. -/
  alwaysRevalidate : Bool
  suggestions : List String

/-- A closed list to choose one text from. -/
structure ChoiceList where
  name : String
  options : List String
  prompt : String
  blankAllowed : Bool
  value : Option String

/-- The widget of a field. -/
inductive Widget where
  | input (line : TextInput)
  | select (choices : ChoiceList)
  | switch (name label : String) (on : Bool)
  | multiSelect (name : String) (options selected : List String)
  | list (name label : String) (required : Bool) (item : Widget) (data : List Json)
  | group (name label : String) (required : Bool) (children : List (String × Widget))

namespace Widget

/-- The name of the kind of a widget. -/
def kind : Widget → String
  | .input _ => "input"
  | .select _ => "select"
  | .switch .. => "switch"
  | .multiSelect .. => "multi_select"
  | .list .. => "list"
  | .group .. => "group"

/-- The input of a field that is entered as text. -/
def inputOf (field : Field) : Except DataError TextInput := do
  let header := field.header
  let attributes := field.attributes
  let value ← field.spec.defaultText
  return {
    name := header.name
    value := value
    placeholder := header.description
    pattern := attributes.restriction.map Restriction.pattern
    password := attributes.password
    maxLength := attributes.maxLength.getD 0
    inputType :=
      if header.type = "integer" ∨ header.type = "number" then header.type else "text"
    format := attributes.format
    blankAllowed := field.spec.blankAllowed
    rules := field.effectiveRules
    alwaysRevalidate := field.formatRule?.any Rule.asksMachine
    suggestions := if attributes.suggester then attributes.choices.getD [] else [] }

/-- The closed list of a field. -/
def choiceListOf (field : Field) : ChoiceList :=
  let header := field.header
  { name := header.name
    options := field.attributes.choices.getD []
    prompt := "Select " ++ (if header.label.isEmpty then header.name else header.label)
    blankAllowed := !header.required
    value := field.spec.initialChoice }

mutual

/-- The widget of a field.  It has none when a default date cannot be written. -/
def ofField : Field → Except DataError Widget
  | .boolean spec =>
      .ok (.switch spec.header.name (Field.displayLabel (.boolean spec)) spec.defaultIsOn)
  | .string spec =>
      if Field.isSelect (.string spec) then .ok (.select (choiceListOf (.string spec)))
      else (inputOf (.string spec)).map .input
  | .number spec => (inputOf (.number spec)).map .input
  | .array spec item =>
      match item.attributes.choices with
      | some choices =>
          .ok (.multiSelect spec.header.name choices (spec.defaultItems.map Json.plainText))
      | none =>
          (ofField item).map fun widget =>
            .list spec.header.name spec.header.label spec.header.required widget spec.defaultItems
  | .object spec fields =>
      (ofFields fields).map fun children =>
        .group spec.header.name spec.header.label spec.header.required children

/-- The widgets of named fields, in order. -/
def ofFields : List (String × Field) → Except DataError (List (String × Widget))
  | [] => .ok []
  | (name, field) :: rest => do
      let widget ← ofField field
      let others ← ofFields rest
      return (name, widget) :: others

end

end Widget

namespace TextInput

/-- The first suggestion that starts with a text, in any case; the empty text has none. -/
def suggest (input : TextInput) (start : String) : Option String :=
  if start.isEmpty then none
  else
    let lower := Text.toLower start.toList
    input.suggestions.find? fun suggestion => lower.isPrefixOf (Text.toLower suggestion.toList)

/-- An input as entries of a document; a missing pattern, format or suggestion is left out. -/
def toEntries (input : TextInput) : Entries Json :=
  let entry (name : String) (value : Option String) : List (String × Json) :=
    value.toList.map fun text => (name, .string text)
  [("name", .string input.name), ("value", .string input.value),
    ("placeholder", .string input.placeholder)] ++
    entry "restrict" input.pattern ++
    [("password", .bool input.password), ("max_length", .ofNat input.maxLength),
      ("input_type", .string input.inputType)] ++
    entry "format" input.format ++
    [("blank_allowed", .bool input.blankAllowed),
      ("validators", .array (input.rules.map Rule.toJson)),
      ("always_revalidate", .bool input.alwaysRevalidate)] ++
    (if input.suggestions.isEmpty then [] else [("suggestions", .ofStrings input.suggestions)])

end TextInput

namespace Widget

/-- The entry that tells the kind of a widget. -/
def tagged (kind : String) (entries : Entries Json) : Json :=
  .object (("widget", .string kind) :: entries)

mutual

/-- A widget as a document. -/
def toJson : Widget → Json
  | .input line => tagged "input" line.toEntries
  | .select choices =>
      tagged "select"
        [("name", .string choices.name), ("options", .ofStrings choices.options),
          ("prompt", .string choices.prompt), ("allow_blank", .bool choices.blankAllowed),
          ("value", .ofString? choices.value)]
  | .switch name label on =>
      tagged "switch" [("name", .string name), ("label", .string label), ("value", .bool on)]
  | .multiSelect name options selected =>
      tagged "multi_select"
        [("name", .string name), ("options", .ofStrings options),
          ("selected", .ofStrings selected)]
  | .list name label required item data =>
      tagged "list"
        [("name", .string name), ("label", .string label), ("required", .bool required),
          ("item", toJson item), ("data", .array data)]
  | .group name label required children =>
      tagged "group"
        [("name", .string name), ("label", .string label), ("required", .bool required),
          ("children", .object (toJsonEntries children))]

/-- Named widgets as entries of a document. -/
def toJsonEntries : List (String × Widget) → List (String × Json)
  | [] => []
  | (name, widget) :: rest => (name, toJson widget) :: toJsonEntries rest

end

/-- A group becomes the group of its widgets. -/
theorem ofField_object {spec : Spec} {fields : List (String × Field)}
    {children : List (String × Widget)} (h : ofFields fields = .ok children) :
    ofField (.object spec fields) =
      .ok (.group spec.header.name spec.header.label spec.header.required children) := by
  simp [ofField, h, Except.map]

end Widget
end SchemaForm
