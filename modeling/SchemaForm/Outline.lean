import SchemaForm.Form.Basic
import SchemaForm.Widget

/-!
# Outlines

A form as indented text with a line for each field.
-/

namespace SchemaForm
namespace Outline

/-- A remark about a field, or nothing. -/
def remark (mark : String) (text : Option String) : String :=
  match text with
  | some text => s!" {mark}={text}"
  | none => ""

/-- The remarks about a field under a name, up to the one about its widget. -/
def remarks (name : String) (field : Field) : String :=
  let header := field.header
  let rules := field.effectiveRules.map Rule.name
  let label :=
    if header.label.isEmpty || header.label == name then none
    else some (Text.quote header.label)
  (if header.required then " required" else "") ++
    remark "label" label ++
    remark "format" field.attributes.format ++
    remark "validators" (if rules.isEmpty then none else some (String.intercalate "," rules)) ++
    remark "choices" (field.choices?.map (String.intercalate "|")) ++
    remark "default" (field.attributes.default.map Json.compact)

/-- The line of a field. -/
def line (depth : Nat) (name : String) (field : Field) : Except DataError String := do
  let widget ← Widget.ofField field
  return Json.indent depth ++ s!"{name}: {field.header.type}{remarks name field}" ++
    s!" widget={widget.kind}\n"

mutual

/-- The lines of a field and of its parts. -/
def lines (depth : Nat) (name : String) : Field → Except DataError (List String)
  | .boolean spec => return [← line depth name (.boolean spec)]
  | .string spec => return [← line depth name (.string spec)]
  | .number spec => return [← line depth name (.number spec)]
  | .array spec item => do
      let first ← line depth name (.array spec item)
      let rest ← lines (depth + 1) "[]" item
      return first :: rest
  | .object spec fields => do
      let first ← line depth name (.object spec fields)
      let rest ← linesOfFields (depth + 1) fields
      return first :: rest

/-- The lines of named fields. -/
def linesOfFields (depth : Nat) : List (String × Field) → Except DataError (List String)
  | [] => return []
  | (name, field) :: rest => do
      let first ← lines depth name field
      let others ← linesOfFields depth rest
      return first ++ others

end

end Outline

/-- The outline of a form. -/
def Form.outline (form : Form) : Except DataError String := do
  return String.join (← Outline.lines 0 form.name form.root)

end SchemaForm
