import SchemaForm.Proofs.Building.Spelling
import SchemaForm.Proofs.Form.Place

/-!
# Written properties

A property is written in a schema, or in a group that the schema spells out.  Unless
it is a union or a reference it stands for itself, and then the field at its place
is built from all of its keys, so that the field has to accept each of them.

Main results:

- Definition `Schema.IsWritten`: the properties that a schema spells out at each path.
- Theorem `carries_of_propertySchema`: a property that stands for itself keeps its keys.
- Theorem `accepted_of_run`: a builder refuses the keys that its kind does not accept.
- Theorem `IsBuiltFrom.exists_descend`: the field at the path of a written property accepts its
  keys.
-/

namespace SchemaForm

open Result

namespace Schema

/-- The property of a name as it is written. -/
def property? (schema : Schema) (name : String) : Option Schema :=
  match schema.get? "properties" with
  | some (.object properties) =>
      match Entries.get? properties name with
      | some (.object property) => some property
      | _ => none
  | _ => none

/-- Whether a property is a union or a reference, so that another schema takes its place. -/
def isReplaced (property : Schema) : Bool :=
  property.has "allOf" ||
    (match property.get? "anyOf" with
      | some (.array (_ :: _)) => true
      | _ => false) ||
    property.has "$ref"

/-- The properties that are spelled out in a schema or in groups inside of it, with the names that
lead there. -/
inductive IsWritten (property : Schema) : List String → Schema → Prop where
  | here {schema : Schema} {name : String} (h : schema.property? name = some property) :
      IsWritten property [name] schema
  | inside {schema group : Schema} {name : String} {path : List String}
      (hgroup : schema.property? name = some group) (hspelled : group.isReplaced = false)
      (h : IsWritten property path group) : IsWritten property (name :: path) schema

variable {schema property : Schema} {name : String}

theorem property?_eq_some :
    schema.property? name = some property ↔
      ∃ properties, schema.get? "properties" = some (.object properties) ∧
        Entries.get? properties name = some (.object property) := by
  unfold property?
  split
  · rename_i properties hproperties
    simp only [hproperties, Option.some.injEq, Json.object.injEq, exists_eq_left']
    split
    · rename_i found hfound
      simp [hfound]
    · rename_i hother
      simpa using hother property
  · rename_i hother
    simp only [reduceCtorEq, false_iff, not_exists, not_and]
    intro properties hproperties
    exact absurd hproperties (hother properties)

/-- A property that stands for itself is no reference and no union. -/
theorem isReplaced_eq_false_iff :
    property.isReplaced = false ↔ property.has "allOf" = false ∧
      (∀ first rest, property.get? "anyOf" ≠ some (.array (first :: rest))) ∧
        property.get? "$ref" = none := by
  unfold isReplaced
  split
  · rename_i first rest hany
    simp [hany]
  · rename_i hany
    simpa [Entries.has] using fun _ _ => hany

end Schema

namespace Building

variable {inner : Build} {scope : Scope} {location name : String} {required : Bool}
  {schema property : Schema} {field : Field} {kind : FieldKind}

/-! ## Properties that stand for themselves -/

/-- A property that stands for itself is resolved to itself. -/
theorem resolveProperty_of_isReplaced (h : property.isReplaced = false) :
    resolveProperty scope location property = .ok property := by
  obtain ⟨hallOf, hanyOf, href⟩ := Schema.isReplaced_eq_false_iff.mp h
  unfold resolveProperty
  rw [if_neg (by simp [hallOf])]
  split
  · rename_i first rest hany
    exact absurd hany (hanyOf first rest)
  · simp [Schema.follow, href]

/-- Collapsing a list of types writes at most the type. -/
theorem collapseTypes_eq_ok (h : Schema.collapseTypes location property = .ok schema) :
    schema = property ∨ ∃ type, schema = property.put "type" type := by
  unfold Schema.collapseTypes at h
  split at h
  · split at h
    · cases h
    · cases h
      exact .inr ⟨_, rfl⟩
    · cases h
  · cases h
    exact .inl rfl

/-- Schemas with all keys of a property that have its values, but perhaps for the type. -/
structure Carries (schema property : Schema) : Prop where
  names_subset : property.names ⊆ schema.names
  get?_eq : ∀ key, key ≠ "type" → schema.get? key = property.get? key

/-- A schema carries itself. -/
theorem Carries.refl (schema : Schema) : Carries schema schema :=
  ⟨fun _ hmem => hmem, fun _ _ => rfl⟩

/-- Writing the type of a schema that carries a property leaves it carrying the property. -/
theorem Carries.put_type (h : Carries schema property) (type : Json) :
    Carries (schema.put "type" type) property := by
  refine ⟨fun _ hmem => Entries.names_subset_put schema _ _ (h.names_subset hmem), ?_⟩
  intro key hkey
  rw [Entries.get?_put_of_ne schema type hkey, h.get?_eq key hkey]

/-- A property that stands for itself is carried by the schema that it is built from. -/
theorem carries_of_propertySchema (hproperty : property.isReplaced = false)
    (h : propertySchema scope location property = .ok schema) : Carries schema property := by
  simp only [propertySchema, resolveProperty_of_isReplaced hproperty, ok_bind, bind_eq_ok] at h
  obtain ⟨collapsed, hcollapsed, hchecked⟩ := h
  have hwritten : schema = withTextChoices collapsed := by
    unfold checkHasType at hchecked
    split at hchecked <;> cases hchecked
    rfl
  have hfirst : Carries collapsed property := by
    rcases collapseTypes_eq_ok hcollapsed with rfl | ⟨type, rfl⟩
    · exact Carries.refl _
    · exact (Carries.refl property).put_type type
  rw [hwritten, withTextChoices]
  split
  · exact hfirst.put_type _
  · exact hfirst

/-- Keys that pass the check of a kind are accepted by the kind. -/
theorem accepted_of_checkKeys (h : checkKeys kind location schema = .ok ()) :
    ∀ key ∈ schema.names, kind.acceptsKey key = true := by
  unfold checkKeys at h
  split at h
  · rename_i hlegal
    exact (FieldKind.illegalKeys_eq_nil_iff kind schema).mp hlegal
  · cases h

/-- The builder for a kind refuses a schema with a key that the kind does not accept. -/
theorem accepted_of_run (h : run inner (.ofKind kind) scope name required schema = .ok field) :
    ∀ key ∈ schema.names, kind.acceptsKey key = true := by
  have hchecked : checkKeys kind (scope.location name) schema = .ok () := by
    cases kind <;> simp only [run, buildBoolean, buildString, buildNumber, buildArray, buildObject,
      bind_eq_ok] at h <;> exact h.choose_spec.1
  exact accepted_of_checkKeys hchecked

/-- Only groups accept properties. -/
theorem kind_of_acceptsKey_properties (h : kind.acceptsKey "properties" = true) :
    kind = .object := by
  cases kind with
  | object => rfl
  | _ => exact absurd h (by decide)

/-- Under the key of a property there is the field that is built from it. -/
theorem exists_get?_of_buildProperties {names : List String} {properties : List (String × Json)}
    {fields : List (String × Field)} {value : Json}
    (h : buildProperties inner scope names properties = .ok fields)
    (hvalue : Entries.get? properties name = some value) :
    ∃ field, Entries.get? fields name = some field ∧
      buildProperty inner scope names name value = .ok field := by
  induction properties generalizing fields with
  | nil => cases hvalue
  | cons entry rest ih =>
      obtain ⟨known, first⟩ := entry
      simp only [buildProperties, bind_eq_ok, pure_eq_ok] at h
      obtain ⟨field, hfield, others, hothers, rfl⟩ := h
      rw [Entries.get?_cons] at hvalue ⊢
      by_cases hname : name = known
      · subst hname
        rw [if_pos rfl, Option.some.injEq] at hvalue
        subst hvalue
        exact ⟨field, if_pos rfl, hfield⟩
      · rw [if_neg hname] at hvalue ⊢
        exact ih hothers hvalue

/-- Fields that the builder for a kind makes from a schema that carries a property. -/
def IsBuiltFrom (property : Schema) (field : Field) : Prop :=
  ∃ (room : Nat) (kind : FieldKind) (scope : Scope) (name : String) (required : Bool)
    (schema : Schema), scope.registry.IsBuiltIn ∧ Carries schema property ∧
      run (levels room) (.ofKind kind) scope name required schema = .ok field

/-- A field accepts the keys of the property that it is built from. -/
theorem IsBuiltFrom.accepted (h : IsBuiltFrom property field) :
    ∀ key ∈ property.names, field.kind.acceptsKey key = true := by
  obtain ⟨room, kind, scope, name, required, schema, -, hcarries, hbuilt⟩ := h
  intro key hkey
  rw [(head_of_run hbuilt).1]
  exact accepted_of_run hbuilt key (hcarries.names_subset hkey)

/-- A field with properties is a group, in which each property that stands for itself has the field
that is built from it. -/
theorem IsBuiltFrom.property? {group : Schema} (h : IsBuiltFrom schema field)
    (hgroup : schema.property? name = some group) (hspelled : group.isReplaced = false) :
    ∃ spec fields child, field = .object spec fields ∧ Entries.get? fields name = some child ∧
      IsBuiltFrom group child := by
  obtain ⟨properties, hproperties, hvalue⟩ := Schema.property?_eq_some.mp hgroup
  have haccepted := h.accepted "properties"
    (Entries.has_iff.mp (by simp [Entries.has, hproperties]))
  have hobject := kind_of_acceptsKey_properties haccepted
  obtain ⟨room, kind, scope, title, required, written, hregistry, hcarries, hbuilt⟩ := h
  obtain rfl : kind = .object := (head_of_run hbuilt).1.symm.trans hobject
  obtain ⟨_, found, names, fields, rfl, -, hfound, -, hfields⟩ := exists_fields_of_run hbuilt
  have hsame := (get?_of_readProperties hfound).symm.trans
    (hcarries.get?_eq "properties" (by decide))
  rw [hproperties, Option.some.injEq, Json.object.injEq] at hsame
  subst hsame
  obtain ⟨child, hchild, hproperty⟩ := exists_get?_of_buildProperties hfields hvalue
  refine ⟨_, fields, child, rfl, hchild, ?_⟩
  simp only [buildProperty, Schema.ofJson, ok_bind, bind_eq_ok] at hproperty
  obtain ⟨next, hnext, resolved, hresolved, hproperty⟩ := hproperty
  have hbelow : next.registry.IsBuiltIn := Scope.registry_child_entering hnext ▸ hregistry
  cases room with
  | zero => cases hproperty
  | succ room =>
      obtain ⟨kind, hproperty⟩ := exists_kind_of_choose hbelow hproperty
      exact ⟨room, kind, next, name, _, resolved, hbelow,
        carries_of_propertySchema hspelled hresolved, hproperty⟩

/-- At the path of a written property that stands for itself there is a field that accepts its
keys. -/
theorem IsBuiltFrom.exists_descend {path : List String} (h : IsBuiltFrom schema field)
    (hwritten : property.IsWritten path schema) (hproperty : property.isReplaced = false) :
    ∃ part, Form.descend field path = some part ∧
      ∀ key ∈ property.names, part.kind.acceptsKey key = true := by
  induction hwritten generalizing field with
  | here hhere =>
      obtain ⟨spec, fields, child, rfl, hchild, hbuilt⟩ := h.property? hhere hproperty
      exact ⟨child, Form.descend_cons.mpr ⟨spec, fields, child, rfl, hchild, rfl⟩, hbuilt.accepted⟩
  | inside hgroup hspelled hinside ih =>
      obtain ⟨spec, fields, child, rfl, hchild, hbuilt⟩ := h.property? hgroup hspelled
      obtain ⟨part, hpart, haccepted⟩ := ih hbuilt
      exact ⟨part, Form.descend_cons.mpr ⟨spec, fields, child, rfl, hchild, hpart⟩, haccepted⟩

end Building
end SchemaForm
