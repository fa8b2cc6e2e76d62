import SchemaForm.Field.Basic

/-!
# Fields as documents

The tree of fields as a document, with absent attributes left out.
-/

namespace SchemaForm

/-- A natural number as a value of a document. -/
def Json.ofNat (n : Nat) : Json :=
  .number (.integer n)

/-- A list of texts as a value of a document. -/
def Json.ofStrings (texts : List String) : Json :=
  .array (texts.map .string)

/-- An optional text, or `null`. -/
def Json.ofString? (text : Option String) : Json :=
  (text.map .string).getD .null

/-- The attributes that a field has, with their names. -/
def Attributes.toEntries (attributes : Attributes) : Entries Json :=
  let entry (name : String) (value : Option Json) : List (String × Json) :=
    value.toList.map fun value => (name, value)
  let flag (name : String) (on : Bool) : List (String × Json) :=
    if on then [(name, .bool true)] else []
  entry "default" attributes.default ++
    entry "format" (attributes.format.map .string) ++
    entry "choices" (attributes.choices.map .ofStrings) ++
    flag "suggester" attributes.suggester ++
    entry "max_length" (attributes.maxLength.map .ofNat) ++
    entry "restrict" (attributes.restriction.map fun found => .string found.pattern) ++
    flag "password" attributes.password ++
    entry "range" (attributes.bounds.map fun bounds => .object bounds.toEntries) ++
    entry "min_items" (attributes.minItems.map .ofNat) ++
    entry "max_items" (attributes.maxItems.map .ofNat)

namespace Field

/-- The entries of a field that do not concern its parts. -/
def headEntries (field : Field) : Entries Json :=
  let header := field.header
  [("type", .string header.type), ("field_name", .string header.name),
    ("label", .string header.label), ("description", .string header.description),
    ("required", .bool header.required), ("blank_allowed", .bool field.spec.blankAllowed),
    ("attrs", .object field.attributes.toEntries),
    ("validators", .array (field.spec.rules.map Rule.toJson))] ++
    (field.formatRule?.toList.map fun rule => ("format_validator", rule.toJson)) ++
    [("coercion", field.spec.codec.toJson), ("variant", .string field.kind.tag)]

mutual

/-- A field as a document. -/
def toJson : Field → Json
  | .boolean spec => .object (headEntries (.boolean spec))
  | .string spec => .object (headEntries (.string spec))
  | .number spec => .object (headEntries (.number spec))
  | .array spec item => .object (headEntries (.array spec item) ++ [("subfield", toJson item)])
  | .object spec fields =>
      .object (headEntries (.object spec fields) ++ [("fields", .object (toJsonEntries fields))])

/-- Named fields as entries of a document. -/
def toJsonEntries : List (String × Field) → List (String × Json)
  | [] => []
  | (name, field) :: rest => (name, toJson field) :: toJsonEntries rest

end

end Field

end SchemaForm
