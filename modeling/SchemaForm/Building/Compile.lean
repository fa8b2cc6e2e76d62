import SchemaForm.Building.Leaf
import SchemaForm.Schema.Union

/-!
# Building fields with parts

Lists, groups, and the choice of a builder for a schema.  The parts of a field
are built one level deeper, and the depth that is left bounds the recursion.
-/

namespace SchemaForm
namespace Building

/-- What makes a field from its place, its name, whether it is required, and its schema. -/
abbrev Build := Scope → String → Bool → Schema → Except SchemaError Field

/-! ## Lists -/

/-- The schema of the items of a list as it is written. -/
def writtenItems (field : String) (schema : Schema) : Except SchemaError Schema :=
  match schema.get? "items" with
  | none | some .null | some (.object []) => .error ⟨field, .missing "items"⟩
  | some value => Schema.ofJson field value

/-- Refuse unions as items. -/
def checkNoUnion (field : String) (items : Schema) : Except SchemaError Unit :=
  if items.has "anyOf" || items.has "allOf" then .error ⟨field, .itemsOfUnion⟩ else .ok ()

/-- A schema in which choices without a type are texts. -/
def withTextChoices (schema : Schema) : Schema :=
  if !schema.has "type" && schema.has "enum" then schema.put "type" (.string "string")
  else schema

/-- Refuse groups, and whatever has no single type, as items. -/
def checkItemType (field : String) (items : Schema) : Except SchemaError Schema :=
  match items.get? "type" with
  | some (.string type) =>
      if type = "object" then .error ⟨field, .itemsOfObjects⟩ else .ok items
  | _ => .error ⟨field, .missing "items.type"⟩

/-- The schema of the items of a list, with a type. -/
def itemSchema (scope : Scope) (field : String) (schema : Schema) :
    Except SchemaError Schema := do
  let written ← writtenItems field schema
  let items ← Schema.follow scope.definitions field written written
  checkNoUnion field items
  let collapsed ← Schema.collapseTypes field items
  checkItemType field (withTextChoices collapsed)

/-- A list, whose items are built by `inner`. -/
def buildArray (inner : Build) (scope : Scope) (name : String) (required : Bool)
    (schema : Schema) : Except SchemaError Field := do
  let field := scope.location name
  checkKeys .array field schema
  let header ← readHeader field name required schema
  let minItems ← readOptional schema "minItems" (readCount field "minItems")
  let maxItems ← readOptional schema "maxItems" (readCount field "maxItems")
  checkDefault (fun value => value.asArray?.isSome) .defaultNotList field schema
  let inside := scope.entering schema
  let items ← itemSchema inside field schema
  let item ← inner (← inside.child "[]") name true items
  let attributes : Attributes :=
    { default := schema.get? "default"
      minItems := minItems
      maxItems := maxItems }
  checkType field (.array ⟨header, attributes, [], scope.settings.patterns⟩ item)

/-! ## Groups -/

/-- The properties of a group. -/
def readProperties (field : String) (schema : Schema) : Except SchemaError Schema :=
  match schema.get? "properties" with
  | some (.object properties) => .ok properties
  | some _ => .error ⟨field, .propertiesNotObject⟩
  | none => .error ⟨field, .missing "properties"⟩

/-- The names of the fields that a group requires. -/
def requiredNames (field : String) (schema : Schema) : Except SchemaError (List String) :=
  match schema.get? "required" with
  | none => .ok []
  | some (.array names) =>
      names.mapM fun name =>
        match name with
        | .string text => .ok text
        | _ => .error ⟨field, .requiredNotNames⟩
  | some _ => .error ⟨field, .requiredNotList⟩

/-- The schema of a property with its unions and references resolved. -/
def resolveProperty (scope : Scope) (field : String) (property : Schema) :
    Except SchemaError Schema := do
  let definitions := scope.definitions
  if property.has "allOf" then Schema.collapseAllOf definitions field property
  else
    match property.get? "anyOf" with
    | some (.array (_ :: _)) => do
        let (type, schema) ← Schema.collapseAnyOf definitions field property
        return schema.putNew "type" (.string type)
    | _ => Schema.follow definitions field property property

/-- Refuse a schema without a type. -/
def checkHasType (field : String) (schema : Schema) : Except SchemaError Schema :=
  if schema.has "type" then .ok schema else .error ⟨field, .missing "type"⟩

/-- The schema of a property with a single type; choices without a type are texts. -/
def propertySchema (scope : Scope) (field : String) (property : Schema) :
    Except SchemaError Schema := do
  let collapsed ← Schema.collapseTypes field (← resolveProperty scope field property)
  checkHasType field (withTextChoices collapsed)

/-- A property of a group. -/
def buildProperty (inner : Build) (scope : Scope) (required : List String) (name : String)
    (value : Json) : Except SchemaError Field := do
  let child ← scope.child name
  let property ← Schema.ofJson child.path value
  let schema ← propertySchema child child.path property
  inner child name (required.contains name) schema

/-- The properties of a group, in order. -/
def buildProperties (inner : Build) (scope : Scope) (required : List String) :
    List (String × Json) → Except SchemaError (List (String × Field))
  | [] => .ok []
  | (name, value) :: rest => do
      let field ← buildProperty inner scope required name value
      let others ← buildProperties inner scope required rest
      return (name, field) :: others

/-- A group, whose fields are built by `inner`. -/
def buildObject (inner : Build) (scope : Scope) (name : String) (required : Bool)
    (schema : Schema) : Except SchemaError Field := do
  let field := scope.location name
  checkKeys .object field schema
  let header ← readHeader field name required schema
  let properties ← readProperties field schema
  let names ← requiredNames field schema
  checkDefault (fun value => value.asObject?.isSome) .defaultNotObject field schema
  let fields ← buildProperties inner (scope.entering schema) names properties
  checkType field
    (.object ⟨header, { default := schema.get? "default" }, [], scope.settings.patterns⟩ fields)

/-! ## The choice of a builder -/

/-- What a builder knows about a place; parts are built by `inner`. -/
def context (inner : Build) (scope : Scope) : Context where
  settings := scope.settings
  definitions := scope.definitions
  depth := scope.depth
  path := scope.path
  keys := scope.registry.keys
  part := fun schema step name required part => do
    inner (← (scope.entering schema).child step) name required part

/-- Run a builder; parts of the field are built by `inner`. -/
def run (inner : Build) : Builder → Build
  | .ofKind .boolean => buildBoolean
  | .ofKind .string => buildString
  | .ofKind .number => buildNumber
  | .ofKind .array => buildArray inner
  | .ofKind .object => buildObject inner
  | .custom build => fun scope name required schema => do
      checkParts (scope.location name) (← build (context inner scope) name required schema)

/-- Build a field with the builder that the registry has for its schema. -/
def choose (inner : Build) : Build := fun scope name required schema => do
  let field := scope.location name
  let type ← readType field schema
  let builder ← scope.registry.find field type schema
  run inner builder scope name required schema

/-- Build a field when the given number of levels may lie below it.  Without a level left for the
field itself there is no field; a place that has a child never gets there. -/
def levels : Nat → Build
  | 0 => fun scope _ _ _ => .error ⟨scope.path, .tooDeep scope.settings.depthLimit⟩
  | room + 1 => choose (levels room)

end Building

/-- Build the field of a schema. -/
def Scope.compile (scope : Scope) (name : String) (required : Bool) (schema : Schema) :
    Except SchemaError Field :=
  Building.choose (Building.levels scope.room) scope name required schema

/-- Run a given builder on a schema. -/
def Scope.compileWith (scope : Scope) (builder : Builder) (name : String) (required : Bool)
    (schema : Schema) : Except SchemaError Field :=
  Building.run (Building.levels scope.room) builder scope name required schema

end SchemaForm
