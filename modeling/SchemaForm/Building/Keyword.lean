import SchemaForm.Scope

/-!
# Keywords

The values of single keywords of a schema, the head of a field, and the checks that every builder
makes.
-/

namespace SchemaForm
namespace Building

/-- A text, which may be missing or `null`. -/
def readText (field : String) (schema : Schema) (key : String) : Except SchemaError String :=
  match schema.get? key with
  | none | some .null => .ok ""
  | some (.string text) => .ok text
  | some other => .error ⟨field, .notText key other⟩

/-- The type that a schema names. -/
def readType (field : String) (schema : Schema) : Except SchemaError String :=
  match schema.get? "type" with
  | some (.string type) => .ok type
  | some other => .error ⟨field, .notText "type" other⟩
  | none => .error ⟨field, .missing "type"⟩

/-- The head of a field. -/
def readHeader (field name : String) (required : Bool) (schema : Schema) :
    Except SchemaError Header := do
  let type ← readType field schema
  let label ← readText field schema "title"
  let description ← readText field schema "description"
  return ⟨type, name, label, description, required⟩

/-- A keyword with a reader for its value, if the schema has it. -/
def readOptional {α : Type} (schema : Schema) (key : String)
    (read : Json → Except SchemaError α) : Except SchemaError (Option α) :=
  match schema.get? key with
  | none => .ok none
  | some value => (read value).map some

/-- A number of characters or items. -/
def readCount (field key : String) (value : Json) : Except SchemaError Nat :=
  match value.asNatural? with
  | some n => .ok n
  | none => .error ⟨field, .notCount key value⟩

/-- A bound. -/
def readNumber (field key : String) (value : Json) : Except SchemaError Binary64 :=
  match value.asBinary64? with
  | some x => .ok x
  | none => .error ⟨field, .notNumber key value⟩

/-- A text that may not be missing its type. -/
def readKeyword (field key : String) (value : Json) : Except SchemaError String :=
  match value with
  | .string text => .ok text
  | _ => .error ⟨field, .keywordNotText key⟩

/-- A choice as the text that is offered for it. -/
def readChoice (field : String) (value : Json) : Except SchemaError String :=
  match value with
  | .string text => .ok text
  | .number n => .ok n.text
  | .bool b => .ok (if b then "true" else "false")
  | other => .error ⟨field, .choiceNotScalar other⟩

/-- The texts of choices. -/
def readChoices (field : String) (value : Json) : Except SchemaError (List String) :=
  match value with
  | .array values => values.mapM (readChoice field)
  | _ => .error ⟨field, .choicesNotList⟩

/-- Refuse a schema with keys that its kind does not accept. -/
def checkKeys (kind : FieldKind) (field : String) (schema : Schema) : Except SchemaError Unit :=
  match kind.illegalKeys schema with
  | [] => .ok ()
  | illegal => .error ⟨field, .illegalKeys kind illegal⟩

/-- Refuse a default that does not fit; a missing one and `null` always do. -/
def checkDefault (fits : Json → Bool) (cause : Json → Cause) (field : String) (schema : Schema) :
    Except SchemaError Unit :=
  match schema.get? "default" with
  | none | some .null => .ok ()
  | some value => if fits value then .ok () else .error ⟨field, cause value⟩

/-- Refuse a field whose type its kind does not stand for. -/
def checkType (location : String) (field : Field) : Except SchemaError Field :=
  let type := field.header.type
  if field.kind.types.contains type then .ok field
  else .error ⟨location, .foreignType field.kind type⟩

/-- Refuse a field with a part whose type its kind does not stand for.  No such part can be put
together. -/
def checkParts (location : String) (field : Field) : Except SchemaError Field :=
  match field.foreignPart? with
  | none => .ok field
  | some part => .error ⟨location, .foreignType part.kind part.header.type⟩

end Building
end SchemaForm
