import SchemaForm.Field.Basic
import SchemaForm.Schema.Reference

/-!
# Registry of builders

A registry says which builder makes the field for a type and, if wanted, for a
format of that type.  The builder of the format goes before that of the type.

Main results:

- Theorem `contains_unregister`: what was removed is no longer registered.
-/

namespace SchemaForm

/-- What a builder knows about the place of its field: the settings, the nearest definitions, how
deep the place is, how it is named in errors and which keys have builders.  It may have parts of the
field built one level deeper, with the definitions of a schema in force there. -/
structure Context where
  settings : Settings
  definitions : Option Schema
  depth : Nat
  path : String
  keys : List String
  /-- The part at a step, from the schema that may bring definitions, the step, the name of the
  part, whether it is required, and its schema. -/
  part : Schema → String → String → Bool → Schema → Except SchemaError Field

/-- The name of the place in errors about a field of the given name. -/
def Context.location (context : Context) (name : String) : String :=
  if context.path.isEmpty then name else context.path

/-- What makes a field from what is known about its place, its name, whether it is required, and its
schema. -/
abbrev Constructor := Context → String → Bool → Schema → Except SchemaError Field

/-- A builder of fields: one for each kind, and others. -/
inductive Builder where
  | ofKind (kind : FieldKind)
  | custom (build : Constructor)

/-- What makes a field without parts from the name of its place, its own name, whether it is
required, and its schema. -/
abbrev LeafBuilder := Settings → String → String → Bool → Schema → Except SchemaError Field

/-- A builder that has no parts built. -/
def Builder.leaf (build : LeafBuilder) : Builder :=
  .custom fun context name => build context.settings (context.location name) name

/-- The builders by type, or by type and format. -/
structure Registry where
  builders : Entries Builder

namespace Registry

/-- The key of a type and an optional format. -/
def key (type : String) (format : Option String) : String :=
  match format with
  | some format => type ++ "." ++ format
  | none => type

/-- A registry without builders. -/
def empty : Registry :=
  ⟨[]⟩

/-- Register a builder in place of an earlier one. -/
def register (registry : Registry) (type : String) (format : Option String)
    (builder : Builder) : Registry :=
  ⟨registry.builders.put (key type format) builder⟩

/-- Whether there is a builder under exactly this type and format. -/
def contains (registry : Registry) (type : String) (format : Option String) : Bool :=
  registry.builders.has (key type format)

/-- Remove a builder. -/
def unregister (registry : Registry) (type : String) (format : Option String) : Registry :=
  ⟨registry.builders.erase (key type format)⟩

/-- Remove a builder and tell whether there was one. -/
def remove (registry : Registry) (type : String) (format : Option String) : Bool × Registry :=
  (registry.contains type format, registry.unregister type format)

/-- The keys with a builder, in order of their characters. -/
def keys (registry : Registry) : List String :=
  registry.builders.names.mergeSort fun a b => !(b < a)

/-- A builder for each type of schemas. -/
def standard : Registry :=
  [("boolean", FieldKind.boolean), ("string", .string), ("integer", .number),
    ("number", .number), ("array", .array), ("object", .object)].foldl
    (fun registry entry => registry.register entry.1 none (.ofKind entry.2)) empty

/-- The builder for a schema of a type: that of its format, or else that of the type. -/
def find (registry : Registry) (field type : String) (schema : Schema) :
    Except SchemaError Builder :=
  let ofFormat :=
    match schema.get? "format" with
    | some (.string format) => registry.builders.get? (key type (some format))
    | _ => none
  match ofFormat.or (registry.builders.get? (key type none)) with
  | some builder => .ok builder
  | none => .error ⟨field, .noBuilder type⟩

/-- The registry as it shows in logs. -/
def describe (registry : Registry) : String :=
  "ConverterRegistry \x7b keys: [" ++
    String.intercalate ", " (registry.keys.map Text.quote) ++ "] \x7d"

/-- What was removed is no longer registered. -/
theorem contains_unregister (registry : Registry) (type : String) (format : Option String) :
    (registry.unregister type format).contains type format = false := by
  obtain ⟨builders⟩ := registry
  simp only [unregister, contains, Entries.has, Entries.erase]
  induction builders with
  | nil => rfl
  | cons entry rest ih =>
      by_cases h : entry.1 = key type format
      · simpa [List.filter_cons, h] using ih
      · have h' : ¬ key type format = entry.1 := fun e => h e.symm
        simp only [List.filter_cons, h, ne_eq, not_false_eq_true, decide_true, if_true]
        simpa [Entries.get?_cons, h'] using ih

end Registry
end SchemaForm
