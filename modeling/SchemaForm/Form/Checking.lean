import SchemaForm.Form.Loading

/-!
# Checking drafts

Every violation of a rule in a draft, with the place where it was found.
Checking never fails: a node of the wrong kind is a finding as well.
-/

namespace SchemaForm

/-- A violation at a place of a form. -/
structure Finding where
  path : String
  rule : String
  message : String
deriving DecidableEq, Repr

/-- A finding as a document. -/
def Finding.toJson (finding : Finding) : Json :=
  .object
    [("path", .string finding.path), ("validator", .string finding.rule),
      ("message", .string finding.message)]

namespace Field

/-- Violations as findings at a place. -/
def located (path : String) (violations : List Violation) : List Finding :=
  violations.map fun violation => ⟨path, violation.rule, violation.message⟩

/-- The findings about the number of items of a list. -/
def countFindings (spec : Spec) (path : String) (count : Nat) : List Finding :=
  let tooFew :=
    match spec.attributes.minItems with
    | some least =>
        if least ≤ count then []
        else [⟨path, "min_items", s!"Must contain at least {least} items"⟩]
    | none => []
  let tooMany :=
    match spec.attributes.maxItems with
    | some most =>
        if count ≤ most then []
        else [⟨path, "max_items", s!"Must contain at most {most} items"⟩]
    | none => []
  tooFew ++ tooMany

/-- The findings in the items of a list, each at its position. -/
def findingsOfItems {α : Type} (find : String → α → List Finding) (path : String) :
    Nat → List α → List Finding
  | _, [] => []
  | index, item :: rest =>
      find (Location.below path (Location.position index)) item ++
        findingsOfItems find path (index + 1) rest

/-- The finding that a draft has the wrong kind for a field. -/
def kindFinding (field : Field) (path : String) (draft : Draft) : Finding :=
  ⟨path, "shape", s!"Expected a {field.draftKind} value, got {draft.kind}"⟩

mutual

/-- The findings in the draft of a field at a place. -/
def findings (around : Surroundings) : Field → String → Draft → List Finding
  | .boolean spec => fun path draft =>
      match draft with
      | .toggle _ => []
      | other => [kindFinding (.boolean spec) path other]
  | .string spec => fun path draft =>
      match draft with
      | .text text => located path (checkText around (.string spec) text)
      | .choice chosen => located path (checkText around (.string spec) (chosen.getD ""))
      | other => [kindFinding (.string spec) path other]
  | .number spec => fun path draft =>
      match draft with
      | .text text => located path (checkText around (.number spec) text)
      | other => [kindFinding (.number spec) path other]
  | .array spec item => fun path draft =>
      match draft with
      | .choices chosen =>
          findingsOfItems (fun place text => located place (checkText around item text)) path 0
              chosen ++
            countFindings spec path chosen.length
      | .list items =>
          findingsOfItems (findings around item) path 0 items ++
            countFindings spec path items.length
      | other => [kindFinding (.array spec item) path other]
  | .object spec fields => fun path draft =>
      match draft with
      | .group entries => findingsOfFields around fields path entries
      | other => [kindFinding (.object spec fields) path other]

/-- The findings in the nodes of a group.  A missing node counts as a cleared one. -/
def findingsOfFields (around : Surroundings) :
    List (String × Field) → String → Entries Draft → List Finding
  | [] => fun _ _ => []
  | (name, field) :: rest => fun path entries =>
      findings around field (Location.below path name) ((entries.get? name).getD field.cleared) ++
        findingsOfFields around rest path entries

end

end Field
end SchemaForm
