import SchemaForm.Proofs.Building.Built

/-!
# Defaults of lists and groups

The default of a list or a group is taken from the schema of the field as it
stands there.  So where the schema of a form is a proper document, such defaults
are, however deep the field lies.

Main results:

- Theorem `keepsDefaultsProper_levels`: builders make fields with proper defaults from proper
  schemas.
- Theorem `hasProperDefaults_of_compile`: the lists and groups of a form have proper defaults.
-/

namespace SchemaForm

open Result

/-- Fields in which every list and every group has a proper document as its default. -/
inductive Field.HasProperDefaults : Field → Prop where
  | leaf {field : Field} (hkind : field.kind ≠ .array ∧ field.kind ≠ .object) :
      HasProperDefaults field
  | array {spec : Spec} {item : Field} (hdefault : ∀ value ∈ spec.attributes.default, value.Proper)
      (hitem : HasProperDefaults item) : HasProperDefaults (.array spec item)
  | object {spec : Spec} {fields : List (String × Field)}
      (hdefault : ∀ value ∈ spec.attributes.default, value.Proper)
      (hfields : ∀ entry ∈ fields, HasProperDefaults entry.2) :
      HasProperDefaults (.object spec fields)

namespace Building

variable {registry : Registry} {settings : Settings} {inner : Build} {scope : Scope}
  {name : String} {required : Bool} {schema : Schema} {field : Field}

/-- Builders that make fields with proper defaults from proper schemas. -/
abbrev KeepsDefaultsProper (registry : Registry) (settings : Settings) (build : Build) : Prop :=
  Makes registry settings True (fun _ _ field => field.HasProperDefaults) build

/-- The fields of a group have proper defaults when the builder of parts makes such fields. -/
theorem hasProperDefaults_buildProperties
    (hinner : KeepsDefaultsProper registry settings inner)
    (hscope : Inside registry settings True scope) {names : List String} {properties : Schema}
    (hproperties : properties.Proper) {fields : List (String × Field)}
    (h : buildProperties inner scope names properties = .ok fields) :
    ∀ entry ∈ fields, entry.2.HasProperDefaults := by
  intro entry hentry
  obtain ⟨value, child, property, resolved, hvalue, hchild, hproperty, hresolved, hfield⟩ :=
    exists_child_of_mem h hentry
  have hinside := hscope.child hchild
  have hproper := Schema.proper_ofJson (hproperties.entry hvalue) hproperty
  have hschema := proper_propertySchema (hinside.proper trivial) hproper hresolved
  exact hinner hinside (fun _ => hschema) hfield

/-- The builder for a kind makes a field with proper defaults when the builder of parts does. -/
theorem hasProperDefaults_of_run (hinner : KeepsDefaultsProper registry settings inner)
    (hscope : Inside registry settings True scope) (hschema : schema.Proper) {kind : FieldKind}
    (h : run inner (.ofKind kind) scope name required schema = .ok field) :
    field.HasProperDefaults := by
  obtain ⟨hkind, -⟩ := header_of_run h
  have hinside := hscope.entering fun _ => hschema
  have hdefault : ∀ value ∈ schema.get? "default", value.Proper :=
    fun value hvalue => hschema.get? hvalue
  cases kind with
  | array =>
      obtain ⟨_, items, next, item, rfl, hgiven, hitems, hnext, hitem⟩ := exists_item_of_run h
      rw [← hgiven] at hdefault
      have hproper := proper_itemSchema (hinside.proper trivial) hschema hitems
      exact .array hdefault (hinner (hinside.child hnext) (fun _ => hproper) hitem)
  | object =>
      obtain ⟨_, properties, _, fields, rfl, hgiven, hproperties, -, hfields⟩ :=
        exists_fields_of_run h
      rw [← hgiven] at hdefault
      have hproper := proper_readProperties hschema hproperties
      exact .object hdefault (hasProperDefaults_buildProperties hinner hinside hproper hfields)
  | _ => exact .leaf (by simp [hkind])

/-- A field has proper defaults however many levels may lie below it. -/
theorem keepsDefaultsProper_levels (hregistry : registry.IsRegular) (room : Nat) :
    KeepsDefaultsProper registry settings (levels room) := by
  refine makes_levels (fun hinner key builder hkey => ?_) room
  intro scope name required schema field hscope hschema h
  cases builder with
  | ofKind kind => exact hasProperDefaults_of_run hinner hscope (hschema trivial) h
  | custom build =>
      exact .leaf (hregistry key build hkey _ _ _ _ _ (run_custom_eq_ok.mp h).1).1

/-- The lists and groups of a form of a proper schema have proper defaults. -/
theorem hasProperDefaults_of_compile (hregistry : registry.IsRegular) {schema : Json} {form : Form}
    (hschema : schema.Proper) (h : Form.compile registry settings schema = .ok form) :
    form.root.HasProperDefaults := by
  obtain ⟨_, rfl, hroot⟩ := exists_run_of_compile h
  exact hasProperDefaults_of_run (keepsDefaultsProper_levels hregistry _) inside_root hschema hroot

end Building
end SchemaForm
