import SchemaForm.Proofs.Building.Depth
import SchemaForm.Proofs.Building.Required

/-!
# Well-formed fields

A builder may be registered under any type and format, so that nothing but its own
checks keeps it from making a field that does not go with its schema.  A field is
well-formed for a schema at a place when its type, rules, choices and blanks fit its
kind, and its parts are exactly those that the schema describes, each well-formed for
the schema into which its description resolves.

Main results:

- Theorem `hasSoundSpec_of_run`: the builder for a kind makes a sound field.
- Theorem `isWellFormed_of_run`: with its parts it is well-formed when they are.
- Theorem `Form.isWellFormed_of_compile`: a form is well-formed for its schema, whatever keys the
  builders are registered under.
-/

namespace SchemaForm

open Result

/-! ## Well-formed fields -/

namespace Field

/-- What is asked of a field, apart from its parts, for the schema that it is made from. -/
structure HasSoundSpec (settings : Settings) (schema : Schema) (field : Field) : Prop where
  typed : schema.get? "type" = some (.string field.header.type)
  type_mem : field.header.type ∈ field.kind.types
  default_eq : field.attributes.default = schema.get? "default"
  /-- Blanks are allowed where nothing is required and the default does not count as true. -/
  blankAllowed_iff : field.spec.blankAllowed = true ↔
    field.header.required = false ∧ ∀ value ∈ field.attributes.default, value.isTruthy = false
  kind_of_choices : field.attributes.choices.isSome = true → field.kind = .string
  /-- The rule of the type comes first, and that of the bounds follows if there are any. -/
  rules_of_number : field.kind = .number → field.spec.rules =
    (if field.header.type = "integer" then Rule.integer else .number) ::
      (field.attributes.bounds.map Rule.range).toList
  formatRule_eq : field.formatRule? =
    if field.kind = .string ∨ field.kind = .number then
      field.attributes.format.bind fun format =>
        Rule.ofFormat? format settings.patterns field.spec.blankAllowed
    else none

mutual

/-- Whether a field is well-formed for a schema at a place. -/
def IsWellFormed : Field → Scope → Schema → Prop
  | .array spec item => fun scope schema =>
      HasSoundSpec scope.settings schema (.array spec item) ∧
        item.header.required = true ∧ item.kind ≠ .object ∧
          ∃ next items, (scope.entering schema).child "[]" = .ok next ∧
            Building.itemSchema (scope.entering schema) (scope.location spec.header.name) schema =
              .ok items ∧
            IsWellFormed item next items
  | .object spec fields => fun scope schema =>
      HasSoundSpec scope.settings schema (.object spec fields) ∧
        ∃ properties required, schema.get? "properties" = some (.object properties) ∧
          Building.requiredNames (scope.location spec.header.name) schema = .ok required ∧
          AreWellFormed fields (scope.entering schema) required properties
  | field => fun scope schema => HasSoundSpec scope.settings schema field

/-- Whether fields are those of the given properties, in order: each has the key as its name, is
required when the key is in the list, and is well-formed for what the property resolves into. -/
def AreWellFormed :
    List (String × Field) → Scope → List String → List (String × Json) → Prop
  | [] => fun _ _ properties => properties = []
  | (name, field) :: rest => fun scope required properties =>
      ∃ property others next schema, properties = (name, .object property) :: others ∧
        scope.child name = .ok next ∧
        Building.propertySchema next next.path property = .ok schema ∧
        field.header.name = name ∧ (field.header.required = true ↔ name ∈ required) ∧
        IsWellFormed field next schema ∧ AreWellFormed rest scope required others

end

/-- A well-formed field is sound. -/
theorem IsWellFormed.hasSoundSpec {field : Field} {scope : Scope} {schema : Schema}
    (h : field.IsWellFormed scope schema) : field.HasSoundSpec scope.settings schema := by
  cases field with
  | boolean => exact h
  | string => exact h
  | number => exact h
  | array => exact h.1
  | object => exact h.1

/-- The schema of a well-formed group says that it is one. -/
theorem IsWellFormed.type_of_group {field : Field} {scope : Scope} {schema : Schema}
    (h : field.IsWellFormed scope schema) (hgroup : field.kind = .object) :
    schema.get? "type" = some (.string "object") := by
  have htype := h.hasSoundSpec.type_mem
  rw [hgroup, FieldKind.types, List.mem_singleton] at htype
  rw [h.hasSoundSpec.typed, htype]

end Field

/-! ## Builders -/

namespace Building

variable {inner : Build} {scope : Scope} {name : String} {required : Bool} {schema : Schema}
  {field : Field}

/-- The head of a field has the name that it is told. -/
theorem name_of_readHeader {location : String} {header : Header}
    (h : readHeader location name required schema = .ok header) : header.name = name := by
  simp only [readHeader, bind_eq_ok, pure_eq_ok] at h
  obtain ⟨_, -, _, -, _, -, rfl⟩ := h
  rfl

/-- Blanks are allowed where nothing is required and the default does not count as true. -/
theorem blankAllowed_eq_true_iff {spec : Spec} :
    spec.blankAllowed = true ↔
      spec.header.required = false ∧
        ∀ value ∈ spec.attributes.default, value.isTruthy = false := by
  cases hdefault : spec.attributes.default <;> simp [Spec.blankAllowed, hdefault]

/-- The builder for a kind makes a sound field. -/
theorem hasSoundSpec_of_run {kind : FieldKind}
    (h : run inner (.ofKind kind) scope name required schema = .ok field) :
    field.HasSoundSpec scope.settings schema := by
  obtain ⟨-, htyped, -⟩ := head_of_run h
  cases kind with
  | boolean =>
      simp only [run, buildBoolean, bind_eq_ok, checkType_eq_ok] at h
      obtain ⟨_, _, _, _, _, _, rfl, htype⟩ := h
      refine ⟨htyped, htype, rfl, blankAllowed_eq_true_iff, ?_, ?_, rfl⟩
      · intro hchoices
        cases hchoices
      · intro hkind
        cases hkind
  | string =>
      simp only [run, buildString, bind_eq_ok, checkType_eq_ok] at h
      obtain ⟨_, _, _, _, _, _, _, _, _, _, _, _, rfl, htype⟩ := h
      refine ⟨htyped, htype, rfl, blankAllowed_eq_true_iff, fun _ => rfl, ?_, rfl⟩
      intro hkind
      cases hkind
  | number =>
      simp only [run, buildNumber, bind_eq_ok, checkType_eq_ok] at h
      obtain ⟨_, _, header, _, _, _, bounds, _, _, _, rfl, htype⟩ := h
      refine ⟨htyped, htype, rfl, blankAllowed_eq_true_iff, ?_, fun _ => ?_, rfl⟩
      · intro hchoices
        cases hchoices
      · exact congrArg _ Option.toList_map.symm
  | array =>
      simp only [run, buildArray, bind_eq_ok, checkType_eq_ok] at h
      obtain ⟨_, _, _, _, _, _, _, _, _, _, _, _, _, _, _, _, rfl, htype⟩ := h
      refine ⟨htyped, htype, rfl, blankAllowed_eq_true_iff, ?_, ?_, rfl⟩
      · intro hchoices
        cases hchoices
      · intro hkind
        cases hkind
  | object =>
      simp only [run, buildObject, bind_eq_ok, checkType_eq_ok] at h
      obtain ⟨_, _, _, _, _, _, _, _, _, _, _, _, rfl, htype⟩ := h
      refine ⟨htyped, htype, rfl, blankAllowed_eq_true_iff, ?_, ?_, rfl⟩
      · intro hchoices
        cases hchoices
      · intro hkind
        cases hkind

/-- Builders that make well-formed fields, named and required as they are told, wherever only
builders for kinds are registered. -/
def BuildsWellFormed (build : Build) : Prop :=
  ∀ {scope : Scope} {name : String} {required : Bool} {schema : Schema} {field : Field},
    scope.registry.IsBuiltIn → build scope name required schema = .ok field →
      field.header.name = name ∧ field.header.required = required ∧
        field.IsWellFormed scope schema

/-- The properties of a group are well-formed when the parts of fields are. -/
theorem areWellFormed_of_buildProperties (hinner : BuildsWellFormed inner)
    (hregistry : scope.registry.IsBuiltIn) {names : List String}
    {properties : List (String × Json)} {fields : List (String × Field)}
    (h : buildProperties inner (scope.entering schema) names properties = .ok fields) :
    Field.AreWellFormed fields (scope.entering schema) names properties := by
  induction properties generalizing fields with
  | nil =>
      cases h
      rfl
  | cons entry rest ih =>
      obtain ⟨name, value⟩ := entry
      simp only [buildProperties, bind_eq_ok, pure_eq_ok] at h
      obtain ⟨field, hfield, others, hothers, rfl⟩ := h
      simp only [buildProperty, bind_eq_ok] at hfield
      obtain ⟨next, hnext, property, hproperty, resolved, hresolved, hfield⟩ := hfield
      have hvalue : value = .object property := by
        unfold Schema.ofJson at hproperty
        split at hproperty <;> cases hproperty
        rfl
      have hnextRegistry := Scope.registry_child_entering hnext
      obtain ⟨hname, hrequired, hformed⟩ := hinner (hnextRegistry ▸ hregistry) hfield
      refine ⟨property, rest, next, resolved, by rw [hvalue], hnext, hresolved, hname, ?_, hformed,
        ih hothers⟩
      rw [hrequired, List.contains_iff_mem]

/-- The builder for a kind makes a well-formed field when the parts are. -/
theorem isWellFormed_of_run (hinner : BuildsWellFormed inner)
    (hregistry : scope.registry.IsBuiltIn) {kind : FieldKind}
    (h : run inner (.ofKind kind) scope name required schema = .ok field) :
    field.IsWellFormed scope schema := by
  have hsound := hasSoundSpec_of_run h
  have hname := name_of_readHeader (header_of_run h).2.1
  obtain ⟨hkind, -, -⟩ := head_of_run h
  cases kind with
  | array =>
      obtain ⟨_, items, next, item, rfl, -, hitems, hnext, hitem⟩ := exists_item_of_run h
      have hnextRegistry := Scope.registry_child_entering hnext
      obtain ⟨-, hrequired, hformed⟩ := hinner (hnextRegistry ▸ hregistry) hitem
      refine ⟨hsound, hrequired, fun hobject => ?_, next, items, hnext, hname ▸ hitems, hformed⟩
      exact type_itemSchema hitems (hformed.type_of_group hobject)
  | object =>
      obtain ⟨_, properties, names, fields, rfl, -, hproperties, hnames, hfields⟩ :=
        exists_fields_of_run h
      exact ⟨hsound, properties, names, get?_of_readProperties hproperties, hname ▸ hnames,
        areWellFormed_of_buildProperties hinner hregistry hfields⟩
  | boolean =>
      cases field <;> cases hkind
      exact hsound
  | string =>
      cases field <;> cases hkind
      exact hsound
  | number =>
      cases field <;> cases hkind
      exact hsound

/-- Only builders for kinds are found where only they are registered. -/
theorem exists_kind_of_find (hregistry : scope.registry.IsBuiltIn) {location type : String}
    {builder : Builder} (h : scope.registry.find location type schema = .ok builder) :
    ∃ kind, builder = .ofKind kind := by
  obtain ⟨key, hkey⟩ := Registry.mem_of_find h
  exact hregistry _ hkey

/-- A field is well-formed however many levels may lie below it. -/
theorem buildsWellFormed_levels (room : Nat) : BuildsWellFormed (levels room) := by
  induction room with
  | zero =>
      intro scope name required schema field hregistry h
      cases h
  | succ room ih =>
      intro scope name required schema field hregistry h
      obtain ⟨kind, h⟩ := exists_kind_of_choose hregistry h
      have hheader := (header_of_run h).2.1
      exact ⟨name_of_readHeader hheader, required_of_readHeader hheader,
        isWellFormed_of_run ih hregistry h⟩

end Building

/-! ## Whole forms -/

namespace Form

/-- A form is well-formed for its schema, whatever keys the builders for the kinds are registered
under. -/
theorem isWellFormed_of_compile {registry : Registry} {settings : Settings} {schema : Json}
    {form : Form} (hregistry : registry.IsBuiltIn)
    (h : Form.compile registry settings schema = .ok form) :
    ∃ entries, schema = .object entries ∧
      form.root.IsWellFormed (Scope.root registry settings) entries := by
  unfold Form.compile at h
  split at h
  · rename_i entries
    simp only [bind_eq_ok, pure_eq_ok] at h
    obtain ⟨root, hroot, rfl⟩ := h
    exact ⟨entries, rfl,
      Building.isWellFormed_of_run (Building.buildsWellFormed_levels _) hregistry hroot⟩
  · cases h

/-! ### A form with counts in the format of dates -/

/-- A registry in which integers in the format of dates have the builder for numbers. -/
def countRegistry : Registry :=
  Registry.standard.register "integer" (some "date") (.ofKind .number)

/-- A schema with a list of references and a group that requires its field. -/
def orderSchema : Json :=
  .object
    [("title", .string "Order"), ("type", .string "object"),
      ("properties",
        .object
          [("lines",
              .object
                [("type", .string "array"),
                  ("items", .object [("$ref", .string "#/$defs/Count")])]),
            ("delivery",
              .object
                [("type", .string "object"),
                  ("properties",
                    .object
                      [("day", .object [("type", .string "string"), ("format", .string "date")])]),
                  ("required", .array [.string "day"])])]),
      ("$defs",
        .object
          [("Count",
            .object
              [("type", .string "integer"), ("format", .string "date"),
                ("minimum", .number (.integer 0))])])]

/-- The form of an order is well-formed for its schema. -/
theorem isWellFormed_order :
    ∃ form entries, compile countRegistry {} orderSchema = .ok form ∧
      orderSchema = .object entries ∧
        form.root.IsWellFormed (Scope.root countRegistry {}) entries := by
  have hregistry : countRegistry.IsBuiltIn := Registry.isBuiltIn_standard.register _ _ _
  have hsucceeds : Rule.succeeded (compile countRegistry {} orderSchema) = true := by
    decide +kernel
  obtain ⟨form, hform⟩ := exists_of_succeeded hsucceeds
  obtain ⟨entries, hentries, hformed⟩ := isWellFormed_of_compile hregistry hform
  exact ⟨form, entries, hform, hentries, hformed⟩

end Form
end SchemaForm
