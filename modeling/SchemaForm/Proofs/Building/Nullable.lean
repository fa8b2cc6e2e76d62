import SchemaForm.Proofs.Building.WellFormed

/-!
# Properties that may be null

A property that may be null is written as a choice between its schema and `null`.
The choice looks for the type of the items of a list before the list is entered,
in the definitions that hold for the property.  The list itself looks in its own
definitions first.  So the choice is the property, unless the list has definitions
that hide the ones around it from its items.

Main results:

- Theorem `collapseAnyOf_nullable`: a choice with `null` is its alternative.
- Theorem `hasObjectItems_eq_ok_false_iff`: items of a list that is built are no objects where their
  reference can be resolved.
- Theorem `buildProperty_nullable_iff`: a choice with `null` is built into the field of its schema
  exactly when its items resolve around the property.
-/

namespace SchemaForm

open Result

namespace Schema

/-- A choice between a schema and `null`. -/
def orNull (schema : Schema) : Schema :=
  [("anyOf", .array [.object schema, .object [("type", .string "null")]])]

/-- A choice between `null` and a schema. -/
def nullOr (schema : Schema) : Schema :=
  [("anyOf", .array [.object [("type", .string "null")], .object schema])]

/-- Whether the items of a list that are a reference resolve in the given definitions, into
something else than an object. -/
def ItemsResolveIn (definitions : Option Schema) (schema : Schema) : Prop :=
  ∀ items reference, schema.get? "items" = some (.object items) →
    Entries.get? items "$ref" = some (.string reference) →
      ∃ definition : Schema,
        definitions.bind (fun found => Entries.get? found (referenceKey reference)) =
          some (.object definition) ∧ definition.inferType? ≠ some "object"

variable {definitions : Option Schema} {location : String} {schema : Schema}

/-- A reference is resolved when its key is defined as an object. -/
theorem resolve_eq_ok {reference : String} {definition : Schema} :
    resolve definitions location reference = .ok definition ↔
      definitions.bind (fun found => Entries.get? found (referenceKey reference)) =
        some (.object definition) := by
  cases definitions with
  | none => simp [resolve]
  | some found => exact resolve_eq_ok_iff

/-- References are texts. -/
theorem referenceText_eq_ok {reference : Json} {text : String} :
    referenceText location reference = .ok text ↔ reference = .string text := by
  cases reference <;> simp [referenceText]

/-- The type of a schema is the one that it names, or that of texts for choices without a type. -/
theorem inferType?_eq_some {type : String} :
    schema.inferType? = some type ↔
      schema.get? "type" = some (.string type) ∨
        schema.get? "type" = none ∧ schema.has "enum" = true ∧ type = "string" := by
  unfold inferType?
  split <;> rename_i hget
  · simp [hget]
  · rename_i other hother
    simp only [hget]
    simpa using hother type
  · split <;> rename_i henum
    · simp [hget, henum, eq_comm]
    · simp [hget, henum]

/-- Under the type that is found for it a schema names that type. -/
theorem get?_putNew_type {type : String} (h : schema.inferType? = some type) :
    (schema.putNew "type" (.string type)).get? "type" = some (.string type) := by
  rcases inferType?_eq_some.mp h with hnamed | ⟨hmissing, -, rfl⟩
  · simp [Entries.putNew, Entries.has, hnamed]
  · simp [Entries.putNew, Entries.has, hmissing, Entries.get?_put_self]

/-- A schema that names its type stays as it is under that type. -/
theorem putNew_type_of_text {type : String} (h : schema.get? "type" = some (.string type)) :
    schema.putNew "type" (.string type) = schema := by
  simp [Entries.putNew, Entries.has, h]

/-! ## The choice -/

/-- A choice with `null` is its alternative, if it has one. -/
theorem collapseAnyOf_nullable (h : schema.isNullBranch = false) {choice : Schema}
    (hchoice : choice ∈ [orNull schema, nullOr schema]) {found : String × Schema} :
    collapseAnyOf definitions location choice = .ok found ↔
      alternative? definitions location schema = .ok (some found) := by
  have hnull : isNullBranch [("type", .string "null")] = true := rfl
  -- Both orders leave the schema as the only candidate, and nothing to take over.
  have hcollapse : collapseAnyOf definitions location choice =
      (alternatives definitions location [schema] [] >>= onlyAlternative location) := by
    simp only [List.mem_cons, List.not_mem_nil, or_false] at hchoice
    rcases hchoice with rfl | rfl
    · simp [collapseAnyOf, orNull, branches, Entries.get?_cons, ofJson, h, hnull, checkFew,
        largestFirst, inherit]
    · simp [collapseAnyOf, nullOr, branches, Entries.get?_cons, ofJson, h, hnull, checkFew,
        largestFirst, inherit]
  rw [hcollapse]
  cases halternative : alternative? definitions location schema with
  | error error => simp [alternatives, halternative, bind, Except.bind]
  | ok alternative =>
      cases alternative with
      | none => simp [alternatives, halternative, onlyAlternative]
      | some only => simp [alternatives, halternative, onlyAlternative]

/-- A schema without references stands for one alternative at most, itself under its type.  Objects
and lists of objects are none. -/
theorem alternative?_eq_ok_some_iff (href : schema.get? "$ref" = none) {type : String}
    (htype : schema.inferType? = some type) (hobject : type ≠ "object")
    {found : String × Schema} :
    alternative? definitions location schema = .ok (some found) ↔
      found = (type, schema) ∧
        (type = "array" → hasObjectItems definitions location schema = .ok false) := by
  by_cases harray : type = "array"
  · subst harray
    have hitems : alternative? definitions location schema =
        (hasObjectItems definitions location schema).map fun objects =>
          if objects then none else some ("array", schema) := by
      simp only [alternative?, href, htype]
      cases hasObjectItems definitions location schema with
      | error error => rfl
      | ok objects => cases objects <;> rfl
    rw [hitems]
    cases hasObjectItems definitions location schema with
    | error error => simp [Except.map]
    | ok objects => cases objects <;> simp [Except.map, eq_comm]
  · have hplain : alternative? definitions location schema = .ok (some (type, schema)) := by
      simp only [alternative?, href, htype]
      rfl
    rw [hplain]
    simp [harray, eq_comm]

/-! ## Items of lists -/

section Items

variable {scope : Scope} {items : Schema}

/-- The items of a list are written as an object, which leads to a schema for something else than
an object. -/
theorem exists_followed_of_itemSchema
    (h : Building.itemSchema scope location schema = .ok items) :
    ∃ written followed, schema.get? "items" = some (.object written) ∧
      follow scope.definitions location written written = .ok followed ∧
        followed.inferType? ≠ some "object" := by
  have htype := Building.type_itemSchema h
  simp only [Building.itemSchema, bind_eq_ok] at h
  obtain ⟨written, hwritten, followed, hfollowed, -, -, collapsed, hcollapsed, hchecked⟩ := h
  refine ⟨written, followed, ?_, hfollowed, fun hobject => htype ?_⟩
  · unfold Building.writtenItems at hwritten
    split at hwritten
    · cases hwritten
    · cases hwritten
    · cases hwritten
    · rename_i hvalue
      unfold ofJson at hwritten
      split at hwritten
      · cases hwritten
        exact hvalue
      · cases hwritten
  · -- A schema that names the type of objects is kept as it is.
    have hnamed : followed.get? "type" = some (.string "object") := by
      unfold inferType? at hobject
      split at hobject
      · rename_i hfound
        rw [hfound, Option.some.inj hobject]
      · cases hobject
      · split at hobject <;> simp at hobject
    rw [collapseTypes_of_text location hnamed] at hcollapsed
    cases hcollapsed
    have hhas : followed.has "type" = true := by simp [Entries.has, hnamed]
    simp [Building.withTextChoices, hhas, Building.checkItemType, hnamed] at hchecked

/-- The items of a list that is built resolve in the definitions that hold inside it. -/
theorem itemsResolveIn_of_itemSchema
    (h : Building.itemSchema scope location schema = .ok items) :
    ItemsResolveIn scope.definitions schema := by
  obtain ⟨written, followed, hwritten, hfollowed, hobject⟩ := exists_followed_of_itemSchema h
  intro found reference hfound hreference
  rw [hwritten] at hfound
  cases hfound
  refine ⟨followed, ?_, hobject⟩
  have hresolved : resolve scope.definitions location reference = .ok followed := by
    simpa [follow, hreference, resolveValue, referenceText] using hfollowed
  exact resolve_eq_ok.mp hresolved

/-- The items of a list that is built are no objects wherever their reference can be resolved. -/
theorem hasObjectItems_eq_ok_false_iff {place : String}
    (h : Building.itemSchema scope place schema = .ok items) :
    hasObjectItems definitions location schema = .ok false ↔
      ItemsResolveIn definitions schema := by
  obtain ⟨written, followed, hwritten, hfollowed, hobject⟩ := exists_followed_of_itemSchema h
  unfold follow at hfollowed
  cases hreference : Entries.get? written "$ref" with
  | none =>
      rw [hreference] at hfollowed
      cases hfollowed
      refine iff_of_true ?_ ?_
      · simpa [hasObjectItems, hwritten, hreference, pure, Except.pure] using hobject
      · intro found reference hfound hsome
        rw [hwritten] at hfound
        cases hfound
        rw [hreference] at hsome
        cases hsome
  | some reference =>
      rw [hreference] at hfollowed
      simp only [resolveValue, bind_eq_ok] at hfollowed
      obtain ⟨text, htext, -⟩ := hfollowed
      rw [referenceText_eq_ok] at htext
      subst htext
      have hitems : hasObjectItems definitions location schema =
          (resolve definitions location text).map fun definition =>
            definition.inferType? == some "object" := by
        simp only [hasObjectItems, hwritten, hreference, resolveValue, referenceText, ok_bind]
        cases resolve definitions location text <;> rfl
      rw [hitems, map_eq_ok]
      constructor
      · rintro ⟨definition, hdefinition, hother⟩ found reference hfound hsome
        rw [hwritten] at hfound
        cases hfound
        rw [hreference] at hsome
        cases hsome
        exact ⟨definition, resolve_eq_ok.mp hdefinition, by simpa using hother⟩
      · intro hresolves
        obtain ⟨definition, hdefinition, hother⟩ := hresolves written text hwritten hreference
        exact ⟨definition, resolve_eq_ok.mpr hdefinition, by simpa using hother⟩

end Items

end Schema

/-- A child has the registry and the definitions of its parent. -/
theorem Scope.eq_of_child {scope next : Scope} {step : String}
    (h : scope.child step = .ok next) :
    next.registry = scope.registry ∧ next.definitions = scope.definitions := by
  simp only [child] at h
  split at h
  · cases h
  · cases h
    exact ⟨rfl, rfl⟩

namespace Building

variable {scope next : Scope} {required : List String} {name : String} {schema : Schema}
  {field : Field}

/-- A schema with a type is kept as it is. -/
theorem checkHasType_of_text {type location : String}
    (h : schema.get? "type" = some (.string type)) :
    checkHasType location (withTextChoices schema) = .ok schema := by
  have hhas : schema.has "type" = true := by simp [Entries.has, h]
  simp [withTextChoices, checkHasType, hhas]

/-- A property without references and unions is the schema that it is built from, under the type
that is found for it. -/
theorem propertySchema_plain {type location : String} (href : schema.get? "$ref" = none)
    (hallOf : schema.has "allOf" = false) (hanyOf : schema.has "anyOf" = false)
    (htype : schema.inferType? = some type) :
    propertySchema scope location schema = .ok (schema.putNew "type" (.string type)) := by
  have hnone : schema.get? "anyOf" = none := by simpa [Entries.has] using hanyOf
  have hresolved : resolveProperty scope location schema = .ok schema := by
    simp [resolveProperty, hallOf, hnone, Schema.follow, href]
  simp only [propertySchema, hresolved, ok_bind]
  rcases Schema.inferType?_eq_some.mp htype with hnamed | ⟨hmissing, henum, rfl⟩
  · have hhas : schema.has "type" = true := by simp [Entries.has, hnamed]
    rw [Schema.collapseTypes_of_text location hnamed, ok_bind, checkHasType_of_text hnamed,
      Entries.putNew, if_pos hhas]
  · have hhas : schema.has "type" = false := by simp [Entries.has, hmissing]
    have hcollapsed : Schema.collapseTypes location schema = .ok schema := by
      simp [Schema.collapseTypes, hmissing]
    have hput : (schema.put "type" (.string "string")).has "type" = true := by
      simp [Entries.has, Entries.get?_put_self]
    simp [hcollapsed, ok_bind, withTextChoices, hhas, henum, checkHasType, hput, Entries.putNew]

/-- A choice with `null` is resolved as its schema when that is an alternative. -/
theorem propertySchema_nullable {type location : String} (hnull : schema.isNullBranch = false)
    {choice : Schema} (hchoice : choice ∈ [schema.orNull, schema.nullOr])
    (href : schema.get? "$ref" = none) (htype : schema.inferType? = some type)
    (hobject : type ≠ "object") {resolved : Schema} :
    propertySchema scope location choice = .ok resolved ↔
      resolved = schema.putNew "type" (.string type) ∧
        (type = "array" →
          Schema.hasObjectItems scope.definitions location schema = .ok false) := by
  have hresolve : resolveProperty scope location choice =
      (Schema.collapseAnyOf scope.definitions location choice).map fun found =>
        found.2.putNew "type" (.string found.1) := by
    simp only [List.mem_cons, List.not_mem_nil, or_false] at hchoice
    rcases hchoice with rfl | rfl <;> rfl
  have hnamed := Schema.get?_putNew_type htype
  simp only [propertySchema, hresolve, bind_eq_ok, map_eq_ok,
    Schema.collapseAnyOf_nullable hnull hchoice,
    Schema.alternative?_eq_ok_some_iff href htype hobject]
  constructor
  · rintro ⟨_, ⟨_, ⟨rfl, hitems⟩, rfl⟩, collapsed, hcollapsed, hchecked⟩
    rw [Schema.collapseTypes_of_text location hnamed] at hcollapsed
    cases hcollapsed
    rw [checkHasType_of_text hnamed] at hchecked
    cases hchecked
    exact ⟨rfl, hitems⟩
  · rintro ⟨rfl, hitems⟩
    exact ⟨_, ⟨_, ⟨rfl, hitems⟩, rfl⟩, _, Schema.collapseTypes_of_text location hnamed,
      checkHasType_of_text hnamed⟩

/-! ## The field -/

/-- A well-formed field under the type of lists has items. -/
theorem exists_itemSchema_of_isWellFormed (h : field.IsWellFormed scope schema)
    (harray : schema.get? "type" = some (.string "array")) :
    ∃ items, itemSchema (scope.entering schema) (scope.location field.header.name) schema =
      .ok items := by
  have hsound := h.hasSoundSpec
  have htype : field.header.type = "array" := by
    have htyped := hsound.typed
    rw [harray] at htyped
    simpa [eq_comm] using htyped
  have hmem := hsound.type_mem
  rw [htype] at hmem
  cases field with
  | array spec item =>
      obtain ⟨-, -, -, -, items, -, hitems, -⟩ := h
      exact ⟨items, hitems⟩
  | _ => simp [Field.kind, FieldKind.types] at hmem

/-- The items of a list that is built resolve around it exactly when they do so in spite of the
definitions of its own. -/
theorem hasObjectItems_of_isWellFormed {location : String} (h : field.IsWellFormed scope schema)
    (harray : schema.get? "type" = some (.string "array")) :
    Schema.hasObjectItems scope.definitions location schema = .ok false ↔
      ((∃ own, schema.get? "$defs" = some (.object own)) →
        schema.ItemsResolveIn scope.definitions) := by
  obtain ⟨items, hitems⟩ := exists_itemSchema_of_isWellFormed h harray
  rw [Schema.hasObjectItems_eq_ok_false_iff hitems]
  refine ⟨fun hresolves _ => hresolves, fun hresolves => ?_⟩
  by_cases hown : ∃ own, schema.get? "$defs" = some (.object own)
  · exact hresolves hown
  · -- Without definitions of its own the list sees the ones around it.
    have hentering : scope.entering schema = scope := by
      unfold Scope.entering
      split
      · exact absurd ⟨_, ‹_›⟩ hown
      · rfl
    rw [hentering] at hitems
    exact Schema.itemsResolveIn_of_itemSchema hitems

/-- The schema of a well-formed field does not stand for `null`. -/
theorem isNullBranch_of_isWellFormed {type : String} (hinferred : schema.inferType? = some type)
    (h : field.IsWellFormed scope (schema.putNew "type" (.string type))) :
    schema.isNullBranch = false := by
  have hsound := h.hasSoundSpec
  have htype : field.header.type = type := by
    have htyped := hsound.typed
    rw [Schema.get?_putNew_type hinferred] at htyped
    simpa [eq_comm] using htyped
  have hne : type ≠ "null" := by
    rintro rfl
    have hmem := hsound.type_mem
    rw [htype] at hmem
    cases hkind : field.kind <;> simp [hkind, FieldKind.types] at hmem
  rcases Schema.inferType?_eq_some.mp hinferred with hnamed | ⟨hmissing, -, -⟩
  · simpa [Schema.isNullBranch, hnamed] using hne
  · simp [Schema.isNullBranch, hmissing]

/-- A choice between the schema of a property and `null` is built into the field of the property,
unless it is a list with definitions of its own and the items of the list do not resolve in the
definitions around it. -/
theorem buildProperty_nullable_iff (hregistry : scope.registry.IsBuiltIn)
    (hplain : schema.has "$ref" = false ∧ schema.has "allOf" = false ∧ schema.has "anyOf" = false)
    (htype : (∃ type, schema.get? "type" = some (.string type) ∧ type ≠ "object") ∨
      schema.get? "type" = none ∧ schema.has "enum" = true)
    (h : buildProperty Scope.compile scope required name (.object schema) = .ok field) :
    ∀ choice ∈ [schema.orNull, schema.nullOr], ∀ built,
      buildProperty Scope.compile scope required name (.object choice) = .ok built ↔
        built = field ∧
          (schema.get? "type" = some (.string "array") →
            (∃ own, schema.get? "$defs" = some (.object own)) →
              schema.ItemsResolveIn scope.definitions) := by
  obtain ⟨href, hallOf, hanyOf⟩ := hplain
  have href : schema.get? "$ref" = none := by simpa [Entries.has] using href
  obtain ⟨type, hinferred, hobject⟩ :
      ∃ type, schema.inferType? = some type ∧ type ≠ "object" := by
    rcases htype with ⟨type, hnamed, hobject⟩ | ⟨hmissing, henum⟩
    · exact ⟨type, Schema.inferType?_eq_some.mpr (.inl hnamed), hobject⟩
    · exact ⟨"string", Schema.inferType?_eq_some.mpr (.inr ⟨hmissing, henum, rfl⟩), by decide⟩
  simp only [buildProperty, Schema.ofJson, bind_eq_ok, Except.ok.injEq] at h
  obtain ⟨next, hnext, _, rfl, typed, htyped, hfield⟩ := h
  rw [propertySchema_plain href hallOf hanyOf hinferred] at htyped
  cases htyped
  obtain ⟨hnextRegistry, hdefinitions⟩ := Scope.eq_of_child hnext
  obtain ⟨-, -, hformed⟩ :=
    buildsWellFormed_levels (next.room + 1) (hnextRegistry ▸ hregistry) hfield
  have hnull := isNullBranch_of_isWellFormed hinferred hformed
  -- Only a list looks for its items, and it is described by the schema as it stands.
  have hitems : (type = "array" →
      Schema.hasObjectItems next.definitions next.path schema = .ok false) ↔
        (schema.get? "type" = some (.string "array") →
          (∃ own, schema.get? "$defs" = some (.object own)) →
            schema.ItemsResolveIn scope.definitions) := by
    rcases Schema.inferType?_eq_some.mp hinferred with hnamed | ⟨hmissing, -, rfl⟩
    · rw [Schema.putNew_type_of_text hnamed] at hformed
      rw [hnamed, ← hdefinitions]
      simp only [Option.some.injEq, Json.string.injEq]
      refine forall_congr' fun harray => ?_
      rw [harray] at hnamed
      exact hasObjectItems_of_isWellFormed hformed hnamed
    · simp [hmissing]
  intro choice hchoice built
  simp only [buildProperty, Schema.ofJson, hnext, ok_bind, bind_eq_ok,
    propertySchema_nullable hnull hchoice href hinferred hobject, hitems]
  constructor
  · rintro ⟨_, ⟨rfl, hresolves⟩, hbuilt⟩
    rw [hfield] at hbuilt
    cases hbuilt
    exact ⟨rfl, hresolves⟩
  · rintro ⟨rfl, hresolves⟩
    exact ⟨_, ⟨rfl, hresolves⟩, hfield⟩

/-! ### Lists of colors -/

/-- A list of references to the definition of a color. -/
def colors : Schema :=
  [("type", .string "array"), ("items", .object [("$ref", .string "#/$defs/Color")])]

/-- The definition of a color. -/
def colorDefinitions : Schema :=
  [("Color", .object [("type", .string "string")])]

/-- A list of colors that may be null is the list where colors are defined around it. -/
theorem buildProperty_nullable_colors :
    ∃ field,
      buildProperty Scope.compile ⟨Registry.standard, {}, some colorDefinitions, 0, ""⟩ [] "colors"
          (.object colors) = .ok field ∧
        ∀ choice ∈ [colors.orNull, colors.nullOr],
          buildProperty Scope.compile ⟨Registry.standard, {}, some colorDefinitions, 0, ""⟩ []
            "colors" (.object choice) = .ok field := by
  have hsucceeds : Rule.succeeded
      (buildProperty Scope.compile ⟨Registry.standard, {}, some colorDefinitions, 0, ""⟩ [] "colors"
        (.object colors)) = true := by
    decide +kernel
  obtain ⟨field, hfield⟩ := exists_of_succeeded hsucceeds
  refine ⟨field, hfield, fun choice hchoice => ?_⟩
  have hnone : colors.get? "$defs" = none := rfl
  have hiff := buildProperty_nullable_iff Registry.isBuiltIn_standard ⟨rfl, rfl, rfl⟩
    (.inl ⟨"array", rfl, by decide⟩) hfield choice hchoice field
  refine hiff.mpr ⟨rfl, fun _ hown => ?_⟩
  rw [hnone] at hown
  obtain ⟨own, hown⟩ := hown
  cases hown

/-- A list of colors that defines them itself. -/
def ownColors : Schema :=
  colors ++ [("$defs", .object colorDefinitions)]

/-- The schema of a form with one property. -/
def formOf (name : String) (property : Schema) : Json :=
  .object [("type", .string "object"), ("properties", .object [(name, .object property)])]

/-- A list that defines its colors itself has a form, and has none when it may be null. -/
theorem compile_nullable_ownColors :
    (∃ form, Form.compile Registry.standard {} (formOf "colors" ownColors) = .ok form) ∧
      ∃ error, Form.compile Registry.standard {} (formOf "colors" ownColors.orNull) =
          .error error ∧
        error.message = "unresolved reference '#/$defs/Color' in field 'colors'" := by
  have hform : Rule.succeeded
      (Form.compile Registry.standard {} (formOf "colors" ownColors)) = true := by
    decide +kernel
  have hmessage :
      (match Form.compile Registry.standard {} (formOf "colors" ownColors.orNull) with
        | .ok _ => ""
        | .error error => error.message) =
          "unresolved reference '#/$defs/Color' in field 'colors'" := by
    decide +kernel
  refine ⟨exists_of_succeeded hform, ?_⟩
  split at hmessage
  · exact absurd hmessage (by decide)
  · rename_i error herror
    exact ⟨error, herror, hmessage⟩

end Building
end SchemaForm
