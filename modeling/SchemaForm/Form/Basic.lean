import SchemaForm.Building.Compile
import SchemaForm.Form.Checking
import SchemaForm.Form.Reading
import SchemaForm.Text.Split

/-!
# Forms

A form is the group of fields that a whole schema has become.

Main results:

- Theorem `settings_compile`: a form keeps the settings under which it was built.
- Theorem `normalize_eq`: normalizing is loading and reading.
-/

namespace SchemaForm

/-- A form with the settings under which it was built. -/
structure Form where
  root : Field
  settings : Settings

namespace Form

/-- The name of a form without a title. -/
def defaultName : String := "Form"

/-- The name that a schema gives to its form. -/
def nameOf (schema : Schema) : String :=
  match schema.get? "title" with
  | some (.string title) => if title.isEmpty then defaultName else title
  | _ => defaultName

/-- The form of a schema. -/
def compile (registry : Registry) (settings : Settings) (schema : Json) :
    Except SchemaError Form :=
  match schema with
  | .object schema => do
      let root ←
        (Scope.root registry settings).compileWith (.ofKind .object) (nameOf schema) false schema
      return ⟨root, settings⟩
  | _ => .error ⟨defaultName, .rootNotObject⟩

/-- The name of a form. -/
def name (form : Form) : String :=
  form.root.header.name

/-- The top fields of a form. -/
def fields (form : Form) : Entries Field :=
  form.root.fields?.getD []

/-- The field at the end of a list of names. -/
def descend (field : Field) : List String → Option Field
  | [] => some field
  | name :: rest =>
      match field.fields?.bind fun fields => Entries.get? fields name with
      | some child => descend child rest
      | none => none

/-- The field at a path of names with points between them. -/
def field? (form : Form) (path : String) : Option Field :=
  descend form.root (Text.split '.' path)

/-- The draft with which a form opens. -/
def opened (form : Form) : Except DataError Draft :=
  form.root.opened

/-- The draft that holds data. -/
def load (form : Form) (native : Json) : Except DataError Draft :=
  form.root.load native

/-- The data that a draft stands for. -/
def read (form : Form) (draft : Draft) : Except DataError Json :=
  form.root.read draft

/-- The findings in a draft. -/
def findings (around : Surroundings) (form : Form) (draft : Draft) : List Finding :=
  form.root.findings around "" draft

/-- The findings in data. -/
def check (around : Surroundings) (form : Form) (native : Json) :
    Except DataError (List Finding) := do
  return form.findings around (← form.load native)

/-- Data as it is read back: with defaults filled in and empty values as `null`. -/
def normalize (form : Form) (native : Json) : Except DataError Json := do
  form.read (← form.load native)

/-- A form as a document. -/
def toJson (form : Form) : Json :=
  form.root.toJson

/-- A form keeps the settings under which it was built. -/
theorem settings_compile {registry : Registry} {settings : Settings} {schema : Json} {form : Form}
    (h : compile registry settings schema = .ok form) : form.settings = settings := by
  unfold compile at h
  split at h
  · rename_i entries
    cases hroot : (Scope.root registry settings).compileWith (.ofKind .object) (nameOf entries)
        false entries with
    | error error => simp [hroot, bind, Except.bind] at h
    | ok root =>
        simp only [hroot, bind, Except.bind, pure, Except.pure, Except.ok.injEq] at h
        rw [← h]
  · cases h

/-- Normalizing is loading and reading. -/
theorem normalize_eq {form : Form} {native : Json} {draft : Draft}
    (h : form.load native = .ok draft) : form.normalize native = form.read draft := by
  simp [normalize, h, bind, Except.bind]

end Form
end SchemaForm
