import SchemaForm.Schema.Reference

/-!
# Unions

A property may be written as a union with a single way out: a list of schemas
with one member, a choice in which one type remains besides `null`, or a list of
types with one member besides `null`.  Each of them collapses to one schema.

Main results:

- Theorem `collapseTypes_of_text`: a schema with a single type stays as it is.
-/

namespace SchemaForm
namespace Schema

/-- Take over a key from a property unless the schema has it. -/
def inherit (schema property : Schema) (key : String) : Schema :=
  match property.get? key with
  | some value => schema.putNew key value
  | none => schema

/-- The branches of a union. -/
def branches (field : String) (property : Schema) (key : String) :
    Except SchemaError (List Json) :=
  match property.get? key with
  | some (.array found) => .ok found
  | _ => .error ⟨field, .branchesNotList key⟩

/-! ## Unions with a single branch -/

/-- The only branch of a union. -/
def onlyBranch (field : String) (found : List Json) : Except SchemaError Schema :=
  match found with
  | [] => .error ⟨field, .missing "allOf branch"⟩
  | [only] => ofJson field only
  | many => .error ⟨field, .manyBranches many.length⟩

/-- A schema with the default of a property, if that has one. -/
def withDefault (schema property : Schema) : Schema :=
  match property.get? "default" with
  | some value => schema.put "default" value
  | none => schema

/-- The schema of a property whose `allOf` has a single branch.  A branch that is no reference
takes over the description, and a default of the property wins. -/
def collapseAllOf (definitions : Option Schema) (field : String) (property : Schema) :
    Except SchemaError Schema := do
  let branch ← onlyBranch field (← branches field property "allOf")
  let resolved ← follow definitions field branch (inherit branch property "description")
  return withDefault resolved property

/-! ## Choices with a single type -/

/-- Whether the items of an array schema are objects. -/
def hasObjectItems (definitions : Option Schema) (field : String) (schema : Schema) :
    Except SchemaError Bool :=
  match schema.get? "items" with
  | some (.object items) =>
      match Entries.get? items "$ref" with
      | some reference => do
          let resolved ← resolveValue definitions field reference
          return resolved.inferType? == some "object"
      | none => return inferType? items == some "object"
  | _ => return false

/-- Whether a schema lists at least one choice. -/
def hasChoices (schema : Schema) : Bool :=
  match schema.get? "enum" with
  | some (.array choices) => !choices.isEmpty
  | _ => false

/-- The type and schema that a branch of a choice stands for.  References count only if they lead
to a list of choices; objects and arrays of objects never count. -/
def alternative? (definitions : Option Schema) (field : String) (branch : Schema) :
    Except SchemaError (Option (String × Schema)) :=
  match branch.get? "$ref" with
  | some reference => do
      let definition ← resolveValue definitions field reference
      if hasChoices definition then
        return definition.inferType?.map fun type => (type, definition)
      else return none
  | none =>
      match branch.inferType? with
      | none => throw ⟨field, .missing "anyOf branch type"⟩
      | some "object" => return none
      | some "array" => do
          if ← hasObjectItems definitions field branch then return none
          else return some ("array", branch)
      | some type => return some (type, branch)

/-- Whether a branch stands for the value `null`. -/
def isNullBranch (branch : Schema) : Bool :=
  match branch.get? "type" with
  | some (.string type) => type == "null"
  | _ => false

/-- Branches with more keys first; of at most two, only the order of two can change. -/
def largestFirst : List Schema → List Schema
  | [first, second] => if first.length < second.length then [second, first] else [first, second]
  | found => found

/-- The first alternative of each type, in order. -/
def alternatives (definitions : Option Schema) (field : String) :
    List Schema → List (String × Schema) → Except SchemaError (List (String × Schema))
  | [], found => return found
  | branch :: rest, found => do
      match ← alternative? definitions field branch with
      | some (type, schema) =>
          if found.any fun known => known.1 == type then alternatives definitions field rest found
          else alternatives definitions field rest (found ++ [(type, schema)])
      | none => alternatives definitions field rest found

/-- Refuse a choice with more than two branches. -/
def checkFew (field : String) (candidates : List Schema) : Except SchemaError Unit :=
  if candidates.length > 2 then .error ⟨field, .manyAlternatives candidates.length⟩ else .ok ()

/-- The only alternative of a choice. -/
def onlyAlternative (field : String) (found : List (String × Schema)) :
    Except SchemaError (String × Schema) :=
  match found with
  | [] => .error ⟨field, .noInferredType⟩
  | [only] => .ok only
  | (first, _) :: (second, _) :: _ => .error ⟨field, .manyInferredTypes first second⟩

/-- The type and schema of a property whose `anyOf` leaves a single type.  Title, description and
default of the property are taken over. -/
def collapseAnyOf (definitions : Option Schema) (field : String) (property : Schema) :
    Except SchemaError (String × Schema) := do
  let all ← (← branches field property "anyOf").mapM (ofJson field)
  let candidates := all.filter fun branch => !isNullBranch branch
  checkFew field candidates
  let found ← alternatives definitions field (largestFirst candidates) []
  let (type, schema) ← onlyAlternative field found
  return (type, ["description", "title", "default"].foldl (inherit · property ·) schema)

/-! ## Lists of types -/

/-- A schema in which a list of types is replaced by its only type besides `null`. -/
def collapseTypes (field : String) (schema : Schema) : Except SchemaError Schema :=
  match schema.get? "type" with
  | some (.array types) =>
      match (types.filterMap Json.asString?).filter (· ≠ "null") with
      | [] => .error ⟨field, .noListedType⟩
      | [only] => .ok (schema.put "type" (.string only))
      | many => .error ⟨field, .manyListedTypes many⟩
  | _ => .ok schema

/-- A schema with a single type stays as it is. -/
theorem collapseTypes_of_text {schema : Schema} {type : String} (field : String)
    (h : schema.get? "type" = some (.string type)) : collapseTypes field schema = .ok schema := by
  simp [collapseTypes, h]

end Schema
end SchemaForm
