import SchemaForm.Proofs.Building.Written

/-!
# Keys of written properties

A builder sees the schema that a property resolves into.  That is the property as it
is written, unless the property is a union or a reference.  Then another schema takes
its place, and of the keys that are written beside the union or the reference only a
few are read.  Every other one is dropped unseen, whether any kind accepts it or not.

Main results:

- Theorem `ReadAlike.resolveProperty`: of a union or a reference only some keys are read.
- Theorem `BuildAlike.putProperty`: a group in which a property is spelled alike is built alike.
- Theorem `Form.compile_putAt`: so is a form in which a written property is spelled alike.
- Theorem `Form.keys_of_compile`: what the keys of the written properties of a form can be.
-/

namespace SchemaForm

open Result

namespace Schema

/-- A schema with another property of the name. -/
def putProperty (schema : Schema) (name : String) (property : Schema) : Schema :=
  match schema.get? "properties" with
  | some (.object properties) =>
      schema.put "properties" (.object (Entries.put properties name (.object property)))
  | _ => schema

/-- A schema with another property at a path. -/
def putAt (schema : Schema) (path : List String) (property : Schema) : Schema :=
  match path with
  | [] => property
  | name :: path =>
      match schema.property? name with
      | some group => schema.putProperty name (putAt group path property)
      | none => schema

/-- The keys of a union or a reference that are read. -/
def readKeys : List String :=
  ["allOf", "anyOf", "$ref", "description", "title", "default"]

end Schema

namespace Building

variable {inner : Build} {scope : Scope} {location name : String} {required : Bool}
  {schema property : Schema} {field : Field} {kind : FieldKind}

/-! ## What is read of a union or a reference -/

/-- Spellings of a property with the same values under the keys that are read of a union or a
reference. -/
def ReadAlike (first second : Schema) : Prop :=
  ∀ key ∈ Schema.readKeys, first.get? key = second.get? key

/-- A key that is not read can be written. -/
theorem readAlike_put {key : String} (hkey : key ∉ Schema.readKeys) (value : Json) :
    ReadAlike (property.put key value) property := by
  intro read hread
  have hne : read ≠ key := by
    rintro rfl
    exact hkey hread
  exact Entries.get?_put_of_ne property value hne

/-- Only some keys are read of a union with a single branch. -/
theorem ReadAlike.collapseAllOf {first second : Schema} (h : ReadAlike first second)
    (definitions : Option Schema) : Schema.collapseAllOf definitions location first =
      Schema.collapseAllOf definitions location second := by
  simp only [Schema.collapseAllOf, Schema.branches, Schema.inherit, Schema.withDefault,
    h "allOf" (by decide), h "description" (by decide), h "default" (by decide)]

/-- Only some keys are read of a choice. -/
theorem ReadAlike.collapseAnyOf {first second : Schema} (h : ReadAlike first second)
    (definitions : Option Schema) : Schema.collapseAnyOf definitions location first =
      Schema.collapseAnyOf definitions location second := by
  simp only [Schema.collapseAnyOf, Schema.branches, Schema.inherit, List.foldl_cons,
    List.foldl_nil, h "anyOf" (by decide), h "description" (by decide), h "title" (by decide),
    h "default" (by decide)]

/-- Only some keys are read of a union or a reference. -/
theorem ReadAlike.resolveProperty {first second : Schema} (h : ReadAlike first second)
    (hreplaced : second.isReplaced = true) :
    resolveProperty scope location first = resolveProperty scope location second := by
  have hallOf : Entries.has first "allOf" = Entries.has second "allOf" := by
    simp only [Entries.has, h "allOf" (by decide)]
  unfold Building.resolveProperty
  dsimp only
  rw [hallOf, h "anyOf" (by decide), h.collapseAllOf, h.collapseAnyOf]
  by_cases hunion : Entries.has second "allOf" = true
  · rw [if_pos hunion, if_pos hunion]
  · rw [if_neg hunion, if_neg hunion]
    split
    · rfl
    · rename_i hchoice
      rw [Schema.follow, Schema.follow, h "$ref" (by decide)]
      cases hreference : second.get? "$ref" with
      | some reference => rfl
      | none =>
          have hspelled : second.isReplaced = false :=
            Schema.isReplaced_eq_false_iff.mpr ⟨by simpa using hunion, hchoice, hreference⟩
          rw [hspelled] at hreplaced
          cases hreplaced

/-- Two spellings of a property from which the same field or the same error comes at every place. -/
def BuildAlike (first second : Schema) : Prop :=
  ∀ (room : Nat) (scope : Scope) (required : List String) (name : String),
    scope.registry.IsBuiltIn →
      buildProperty (levels room) scope required name (.object first) =
        buildProperty (levels room) scope required name (.object second)

/-- Unions and references that are read alike are built alike. -/
theorem ReadAlike.buildAlike {first second : Schema} (h : ReadAlike first second)
    (hreplaced : second.isReplaced = true) : BuildAlike first second := by
  intro room scope required name _
  simp only [buildProperty, Schema.ofJson, ok_bind, propertySchema, h.resolveProperty hreplaced]

/-- Properties one of which is spelled alike are built alike. -/
theorem buildProperties_put {other : Schema} (h : BuildAlike other property) {room : Nat}
    (hregistry : scope.registry.IsBuiltIn) {names : List String}
    {properties : List (String × Json)}
    (hproperty : Entries.get? properties name = some (.object property)) :
    buildProperties (levels room) scope names (Entries.put properties name (.object other)) =
      buildProperties (levels room) scope names properties := by
  induction properties with
  | nil => cases hproperty
  | cons entry rest ih =>
      obtain ⟨known, value⟩ := entry
      rw [Entries.get?_cons] at hproperty
      by_cases hname : known = name
      · subst hname
        rw [if_pos rfl, Option.some.injEq] at hproperty
        subst hproperty
        simp only [Entries.put, if_pos, buildProperties, h room scope names known hregistry]
      · rw [if_neg (Ne.symm hname)] at hproperty
        simp only [Entries.put, if_neg hname, buildProperties, ih hproperty]

/-- A builder for a kind looks at the properties of a schema for the fields of a group only. -/
theorem run_put_properties {properties others : Schema}
    (hproperties : schema.get? "properties" = some (.object properties))
    (hothers : ∀ names, buildProperties inner (scope.entering schema) names others =
      buildProperties inner (scope.entering schema) names properties) :
    run inner (.ofKind kind) scope name required (schema.put "properties" (.object others)) =
      run inner (.ofKind kind) scope name required schema := by
  have hkeys : ∀ kind, checkKeys kind (scope.location name)
      (schema.put "properties" (.object others)) = checkKeys kind (scope.location name) schema := by
    intro kind
    simp only [checkKeys, FieldKind.illegalKeys, Entries.names_put_of_get? hproperties]
  by_cases hkind : kind = .object
  · subst hkind
    have hget : ∀ key, key ≠ "properties" →
        (schema.put "properties" (.object others)).get? key = schema.get? key :=
      fun key hkey => Entries.get?_put_of_ne schema _ hkey
    have hentering : scope.entering (schema.put "properties" (.object others)) =
        scope.entering schema := by
      simp only [Scope.entering, hget "$defs" (by decide)]
    simp only [run, buildObject, hkeys, hentering, readHeader, readType, readText, requiredNames,
      checkDefault, readProperties, hproperties, Entries.get?_put_self, ok_bind, hothers,
      hget "type" (by decide), hget "title" (by decide), hget "description" (by decide),
      hget "required" (by decide), hget "default" (by decide)]
  · -- Every other kind refuses the key of the properties before it looks at any value.
    obtain ⟨error, herror⟩ : ∃ error, checkKeys kind (scope.location name) schema =
        .error error := by
      cases hchecked : checkKeys kind (scope.location name) schema with
      | error error => exact ⟨error, rfl⟩
      | ok _ =>
          have haccepted := accepted_of_checkKeys hchecked "properties"
            (Entries.has_iff.mp (by simp [Entries.has, hproperties]))
          exact absurd (kind_of_acceptsKey_properties haccepted) hkind
    have hrefused : ∀ {α β : Type} (error : SchemaError) (f : α → Except SchemaError β),
        ((.error error : Except SchemaError α) >>= f) = .error error := fun _ _ => rfl
    cases kind with
    | object => exact absurd rfl hkind
    | boolean => simp only [run, buildBoolean, hkeys, herror, hrefused]
    | string => simp only [run, buildString, hkeys, herror, hrefused]
    | number => simp only [run, buildNumber, hkeys, herror, hrefused]
    | array => simp only [run, buildArray, hkeys, herror, hrefused]

section

variable {properties : Json}

/-- The types of a group can be collapsed before or after its properties are written. -/
theorem collapseTypes_put_properties (h : property.get? "properties" = some properties)
    (others : Json) :
    Schema.collapseTypes location (property.put "properties" others) =
      (Schema.collapseTypes location property).map (·.put "properties" others) := by
  unfold Schema.collapseTypes
  rw [Entries.get?_put_of_ne property others (show "type" ≠ "properties" by decide)]
  split
  · split
    · rfl
    · exact congrArg Except.ok (Entries.put_comm h (by decide) ..)
    · rfl
  · rfl

/-- The type of a group can be written before or after its properties. -/
theorem withTextChoices_put_properties (h : property.get? "properties" = some properties)
    (others : Json) :
    withTextChoices (property.put "properties" others) =
      (withTextChoices property).put "properties" others := by
  unfold withTextChoices
  rw [Entries.has_put_of_ne property others (by decide),
    Entries.has_put_of_ne property others (by decide)]
  by_cases hchoices : (!property.has "type" && property.has "enum") = true
  · rw [if_pos hchoices, if_pos hchoices]
    exact Entries.put_comm h (show "properties" ≠ "type" by decide) ..
  · rw [if_neg hchoices, if_neg hchoices]

/-- A group that stands for itself can be resolved before or after its properties are written. -/
theorem propertySchema_put_properties (hproperty : property.isReplaced = false)
    (h : property.get? "properties" = some properties) (others : Json) :
    propertySchema scope location (property.put "properties" others) =
      (propertySchema scope location property).map (·.put "properties" others) := by
  have hwritten : Schema.isReplaced (property.put "properties" others) = false := by
    simpa [Schema.isReplaced, Entries.has, Entries.get?_put_of_ne] using hproperty
  simp only [propertySchema, resolveProperty_of_isReplaced hwritten,
    resolveProperty_of_isReplaced hproperty, ok_bind, collapseTypes_put_properties h, map_bind]
  cases hcollapsed : Schema.collapseTypes location property with
  | error error => rfl
  | ok collapsed =>
      have hkept : collapsed.get? "properties" = some properties := by
        rcases collapseTypes_eq_ok hcollapsed with rfl | ⟨type, rfl⟩
        · exact h
        · rw [Entries.get?_put_of_ne property type (by decide), h]
      rw [ok_bind, ok_bind, withTextChoices_put_properties hkept]
      unfold checkHasType
      rw [Entries.has_put_of_ne (withTextChoices collapsed) others (by decide)]
      cases Entries.has (withTextChoices collapsed) "type" <;> rfl

end

/-- The builder that the registry has for a schema looks at its properties for the fields of a group
only. -/
theorem choose_put_properties (hregistry : scope.registry.IsBuiltIn) {properties others : Schema}
    (hproperties : schema.get? "properties" = some (.object properties))
    (hothers : ∀ names, buildProperties inner (scope.entering schema) names others =
      buildProperties inner (scope.entering schema) names properties) :
    choose inner scope name required (schema.put "properties" (.object others)) =
      choose inner scope name required schema := by
  simp only [choose, readType, Registry.find,
    Entries.get?_put_of_ne schema (.object others) (show "type" ≠ "properties" by decide),
    Entries.get?_put_of_ne schema (.object others) (show "format" ≠ "properties" by decide)]
  refine bind_congr fun type => bind_congr_ok fun builder hbuilder => ?_
  obtain ⟨kind, rfl⟩ := exists_kind_of_find hregistry hbuilder
  exact run_put_properties hproperties hothers

/-- A group in which a property is spelled alike is built alike. -/
theorem BuildAlike.putProperty {group first second : Schema} (h : BuildAlike first second)
    (hproperty : group.property? name = some second) (hspelled : group.isReplaced = false) :
    BuildAlike (group.putProperty name first) group := by
  obtain ⟨properties, hproperties, hvalue⟩ := Schema.property?_eq_some.mp hproperty
  intro room scope required step hregistry
  simp only [buildProperty, Schema.ofJson, ok_bind, Schema.putProperty, hproperties]
  refine bind_congr_ok fun next hnext => ?_
  have hbelow : next.registry.IsBuiltIn := (Scope.eq_of_child hnext).1 ▸ hregistry
  rw [propertySchema_put_properties hspelled hproperties, map_bind]
  refine bind_congr_ok fun schema hschema => ?_
  cases room with
  | zero => rfl
  | succ room =>
      have hcarried := (carries_of_propertySchema hspelled hschema).get?_eq "properties" (by decide)
      refine choose_put_properties hbelow (hcarried.trans hproperties) fun names => ?_
      exact buildProperties_put h ((next.registry_entering schema).symm ▸ hbelow) hvalue

/-- A schema in which a written property is spelled alike differs in one property, which is built
alike. -/
theorem BuildAlike.exists_putAt {first second : Schema} {path : List String}
    (h : BuildAlike first second) (hwritten : second.IsWritten path schema) :
    ∃ name group other, schema.property? name = some group ∧ BuildAlike other group ∧
      schema.putAt path first = schema.putProperty name other := by
  induction hwritten with
  | @here schema name hhere => exact ⟨name, second, first, hhere, h, by simp [Schema.putAt, hhere]⟩
  | @inside schema group name path hgroup hspelled hinside ih =>
      obtain ⟨step, part, other, hpart, halike, hput⟩ := ih
      exact ⟨name, group, group.putAt path first, hgroup, hput ▸ halike.putProperty hpart hspelled,
        by simp [Schema.putAt, hgroup]⟩

end Building

/-! ## Whole forms -/

namespace Form

open Building

variable {registry : Registry} {settings : Settings} {schema property : Schema} {form : Form}
  {path : List String}

/-- The root of a form is built from the schema of the form. -/
theorem isBuiltFrom_of_compile (hregistry : registry.IsBuiltIn)
    (h : compile registry settings (.object schema) = .ok form) :
    IsBuiltFrom schema form.root := by
  simp only [compile, bind_eq_ok, pure_eq_ok] at h
  obtain ⟨root, hroot, rfl⟩ := h
  exact ⟨_, _, _, _, _, schema, hregistry, .refl schema, hroot⟩

/-- A schema in which a written property is spelled alike gives the same form or the same error. -/
theorem compile_putAt (hregistry : registry.IsBuiltIn) {other : Schema}
    (halike : BuildAlike other property) (hwritten : property.IsWritten path schema) :
    compile registry settings (.object (schema.putAt path other)) =
      compile registry settings (.object schema) := by
  obtain ⟨name, group, first, hgroup, hfirst, hput⟩ := halike.exists_putAt hwritten
  obtain ⟨properties, hproperties, hvalue⟩ := Schema.property?_eq_some.mp hgroup
  have hroot : (Scope.root registry settings).registry.IsBuiltIn := hregistry
  have hname : nameOf (schema.put "properties" (.object (Entries.put properties name
      (.object first)))) = nameOf schema := by
    simp only [nameOf, Entries.get?_put_of_ne schema _ (show "title" ≠ "properties" by decide)]
  simp only [hput, Schema.putProperty, hproperties, compile, hname, Scope.compileWith]
  rw [run_put_properties hproperties fun names => buildProperties_put hfirst
    (((Scope.root registry settings).registry_entering schema).symm ▸ hroot) hvalue]

/-- A written property that stands for itself has only keys that its field accepts.  Beside a union
or a reference any key may be written with any value, but for the few that are read: the form is the
same. -/
theorem keys_of_compile (hregistry : registry.IsBuiltIn)
    (h : compile registry settings (.object schema) = .ok form)
    (hwritten : property.IsWritten path schema) :
    (property.isReplaced = false →
        ∃ field, descend form.root path = some field ∧
          ∀ key ∈ property.names, field.kind.acceptsKey key = true) ∧
      (property.isReplaced = true →
        ∀ key, key ∉ Schema.readKeys → ∀ value,
          compile registry settings (.object (schema.putAt path (property.put key value))) =
            .ok form) := by
  refine ⟨(isBuiltFrom_of_compile hregistry h).exists_descend hwritten, ?_⟩
  intro hreplaced key hkey value
  rw [compile_putAt hregistry ((readAlike_put hkey value).buildAlike hreplaced) hwritten, h]

/-! ### A parcel -/

/-- The weight of a parcel, which refers to a definition. -/
def weight : Schema :=
  [("$ref", .string "#/$defs/Weight")]

/-- The street that a parcel goes to. -/
def street : Schema :=
  [("type", .string "string"), ("maxLength", .number (.integer 40))]

/-- A parcel with an address that is spelled out and the given spelling of its weight. -/
def parcelSchema (weight : Schema) : Schema :=
  [("type", .string "object"),
    ("properties",
      .object
        [("address",
            .object
              [("type", .string "object"), ("properties", .object [("street", .object street)])]),
          ("weight", .object weight)]),
    ("$defs", .object [("Weight", .object [("type", .string "number")])])]

/-- In the form of a parcel the street has only keys that are accepted, and the weight may have any
key beside its reference. -/
theorem keys_of_parcelSchema :
    ∃ form, compile Registry.standard {} (.object (parcelSchema weight)) = .ok form ∧
      (∃ field, descend form.root ["address", "street"] = some field ∧
        ∀ key ∈ street.names, field.kind.acceptsKey key = true) ∧
      ∀ value, compile Registry.standard {}
        (.object (parcelSchema (weight.put "x-unit" value))) = .ok form := by
  have hsucceeds :
      Rule.succeeded (compile Registry.standard {} (.object (parcelSchema weight))) = true := by
    decide +kernel
  obtain ⟨form, hform⟩ := exists_of_succeeded hsucceeds
  have hstreet : street.IsWritten ["address", "street"] (parcelSchema weight) :=
    .inside rfl (by decide) (.here rfl)
  have hweight : weight.IsWritten ["weight"] (parcelSchema weight) := .here rfl
  refine ⟨form, hform, ?_, ?_⟩
  · exact (keys_of_compile Registry.isBuiltIn_standard hform hstreet).1 (by decide)
  · intro value
    exact (keys_of_compile Registry.isBuiltIn_standard hform hweight).2 (by decide) "x-unit"
      (by decide) value

/-- A parcel is compiled whose weight has a key that no kind accepts and that is none of a union or
a reference. -/
theorem compile_parcelSchema_unit :
    ∃ (form : Form) (property : Schema),
      compile Registry.standard {} (.object (parcelSchema (weight.put "x-unit" (.string "kg")))) =
        .ok form ∧
      property.IsWritten ["weight"] (parcelSchema (weight.put "x-unit" (.string "kg"))) ∧
      "x-unit" ∈ property.names ∧ (∀ kind : FieldKind, kind.acceptsKey "x-unit" = false) ∧
      "x-unit" ∉ ["allOf", "anyOf", "$ref"] := by
  have hsucceeds : Rule.succeeded (compile Registry.standard {}
      (.object (parcelSchema (weight.put "x-unit" (.string "kg"))))) = true := by
    decide +kernel
  obtain ⟨form, hform⟩ := exists_of_succeeded hsucceeds
  refine ⟨form, weight.put "x-unit" (.string "kg"), hform, .here rfl, by decide, ?_, by decide⟩
  intro kind
  cases kind <;> decide

end Form
end SchemaForm
