import SchemaForm.Location
import SchemaForm.Registry

/-!
# Scopes

Where in a schema a field is built: the registry and settings in force, the
nearest definitions, how deep the place is and how it is named in errors.

Main results:

- Theorem `depth_child`: a child lies one level deeper.
- Theorem `child_eq_error_iff`: a child is refused exactly when the depth is used up.
-/

namespace SchemaForm

/-- The place of a field in a schema. -/
structure Scope where
  registry : Registry
  settings : Settings
  definitions : Option Schema
  depth : Nat
  path : String

namespace Scope

/-- The place of the root, without definitions. -/
def root (registry : Registry) (settings : Settings) : Scope :=
  ⟨registry, settings, none, 0, ""⟩

/-- The name of the place in errors about a field of the given name. -/
def location (scope : Scope) (name : String) : String :=
  if scope.path.isEmpty then name else scope.path

/-- The same place with the definitions of a schema, if it has any. -/
def entering (scope : Scope) (schema : Schema) : Scope :=
  match schema.get? "$defs" with
  | some (.object definitions) => { scope with definitions := some definitions }
  | _ => scope

/-- The place one level deeper.  Recursive definitions end when the depth is used up. -/
def child (scope : Scope) (step : String) : Except SchemaError Scope :=
  let path := Location.below scope.path step
  if scope.settings.depthLimit < scope.depth + 1 then
    .error ⟨path, .tooDeep scope.settings.depthLimit⟩
  else .ok { scope with path := path, depth := scope.depth + 1 }

/-- How many more levels fit below a place. -/
def room (scope : Scope) : Nat :=
  scope.settings.depthLimit - scope.depth

/-- A child lies one level deeper. -/
theorem depth_child {scope next : Scope} {step : String} (h : scope.child step = .ok next) :
    next.depth = scope.depth + 1 := by
  simp only [child] at h
  split at h
  · cases h
  · cases h
    rfl

/-- A child is refused exactly when the depth is used up. -/
theorem child_eq_error_iff (scope : Scope) (step : String) :
    (∃ error, scope.child step = .error error) ↔ scope.room = 0 := by
  simp only [child, room]
  constructor
  · rintro ⟨error, h⟩
    split at h
    · omega
    · cases h
  · intro h
    rw [if_pos (by omega)]
    exact ⟨_, rfl⟩

end Scope
end SchemaForm
