import SchemaForm.Form.Loading

/-!
# Reading data out of drafts

The data that a draft stands for.  Empty texts and missing nodes are `null`.
-/

namespace SchemaForm
namespace Field

/-- The error that a draft has the wrong kind for a field. -/
def wrongKind (field : Field) (draft : Draft) : DataError :=
  .misshapen "" (field.draftKind ++ " value") draft.kind

mutual

/-- The data that a draft of a field stands for. -/
def read : Field → Draft → Except DataError Json
  | .boolean spec => fun draft =>
      match draft with
      | .toggle on => .ok (.bool on)
      | other => .error (wrongKind (.boolean spec) other)
  | .string spec => fun draft =>
      match draft with
      | .text text => spec.codec.nativeOfText text
      | .choice chosen => .ok (.ofString? chosen)
      | other => .error (wrongKind (.string spec) other)
  | .number spec => fun draft =>
      match draft with
      | .text text => spec.codec.nativeOfText text
      | other => .error (wrongKind (.number spec) other)
  | .array spec item => fun draft =>
      match draft with
      | .choices chosen => .ok (.ofStrings chosen)
      | .list items => (eachItem (read item) 0 items).map .array
      | other => .error (wrongKind (.array spec item) other)
  | .object spec fields => fun draft =>
      match draft with
      | .group entries => (readFields fields entries).map .object
      | other => .error (wrongKind (.object spec fields) other)

/-- The data of named fields in a group. -/
def readFields : List (String × Field) → Entries Draft → Except DataError (List (String × Json))
  | [] => fun _ => .ok []
  | (name, field) :: rest => fun entries => do
      let value ←
        match entries.get? name with
        | some draft => (read field draft).mapError (DataError.within name)
        | none => .ok .null
      let others ← readFields rest entries
      return (name, value) :: others

end

end Field
end SchemaForm
