import SchemaForm.Proofs.Building.Built

/-!
# Required items

A field is required as its builder is told, and the builder of a list asks for
required items.  So no item of a list may be blank, wherever the list stands.

Main results:

- Theorem `required_of_run`: a field is as required as its builder is told.
- Theorem `itemsRequired_of_requiresItems`, Theorem `itemsRequired_of_compile`: the items of all
  lists of a form are required.
-/

namespace SchemaForm

open Result

/-- Fields in which the items of every list are required. -/
inductive Field.ItemsRequired : Field → Prop where
  | boolean (spec : Spec) : ItemsRequired (.boolean spec)
  | string (spec : Spec) : ItemsRequired (.string spec)
  | number (spec : Spec) : ItemsRequired (.number spec)
  | array {spec : Spec} {item : Field} (hrequired : item.header.required = true)
      (hitem : ItemsRequired item) : ItemsRequired (.array spec item)
  | object {spec : Spec} {fields : List (String × Field)}
      (hfields : ∀ entry ∈ fields, ItemsRequired entry.2) : ItemsRequired (.object spec fields)

namespace Registry

/-- The builders beside those for the five kinds make fields that are as required as they are told,
and in which the items of every list are required. -/
def RequiresItems (registry : Registry) : Prop :=
  registry.Keeps False fun _ required _ field =>
    field.header.required = required ∧ field.ItemsRequired

/-- Where there are no other builders they require items. -/
theorem IsBuiltIn.requiresItems {registry : Registry} (h : registry.IsBuiltIn) :
    registry.RequiresItems :=
  h.keeps False _

end Registry

namespace Building

variable {registry : Registry} {settings : Settings} {inner : Build} {scope : Scope}
  {name : String} {required : Bool} {schema : Schema} {field : Field}

/-- The head of a field is required as it is told. -/
theorem required_of_readHeader {location : String} {header : Header}
    (h : readHeader location name required schema = .ok header) : header.required = required := by
  simp only [readHeader, bind_eq_ok, pure_eq_ok] at h
  obtain ⟨_, -, _, -, _, -, rfl⟩ := h
  rfl

/-- A field is as required as the builder for its kind is told. -/
theorem required_of_run {kind : FieldKind}
    (h : run inner (.ofKind kind) scope name required schema = .ok field) :
    field.header.required = required :=
  required_of_readHeader (header_of_run h).2.1

/-- Builders of fields that are as required as they are told, and in which the items of every list
are required. -/
abbrev RequiresItems (registry : Registry) (settings : Settings) (build : Build) : Prop :=
  Makes registry settings False
    (fun required _ field => field.header.required = required ∧ field.ItemsRequired) build

/-- The properties of a group have required items when the builder of parts makes such fields. -/
theorem itemsRequired_buildProperties (hinner : RequiresItems registry settings inner)
    (hscope : Inside registry settings False scope) {names : List String}
    {properties : List (String × Json)} {fields : List (String × Field)}
    (h : buildProperties inner scope names properties = .ok fields) :
    ∀ entry ∈ fields, entry.2.ItemsRequired := by
  intro entry hentry
  obtain ⟨_, next, _, _, -, hnext, -, -, hfield⟩ := exists_child_of_mem h hentry
  exact (hinner (hscope.child hnext) False.elim hfield).2

/-- The builder for a kind makes fields with required items when the builder of parts does. -/
theorem itemsRequired_of_run (hinner : RequiresItems registry settings inner)
    (hscope : Inside registry settings False scope) {kind : FieldKind}
    (h : run inner (.ofKind kind) scope name required schema = .ok field) :
    field.ItemsRequired := by
  have hinside : Inside registry settings False (scope.entering schema) :=
    hscope.entering False.elim
  have hkind := (head_of_run h).1
  cases kind with
  | boolean =>
      cases field <;> cases hkind
      exact .boolean _
  | string =>
      cases field <;> cases hkind
      exact .string _
  | number =>
      cases field <;> cases hkind
      exact .number _
  | array =>
      obtain ⟨_, _, next, item, rfl, -, -, hnext, hitem⟩ := exists_item_of_run h
      obtain ⟨hrequired, hitems⟩ := hinner (hinside.child hnext) False.elim hitem
      exact .array hrequired hitems
  | object =>
      obtain ⟨_, _, _, fields, rfl, -, -, -, hfields⟩ := exists_fields_of_run h
      exact .object (itemsRequired_buildProperties hinner hinside hfields)

/-- Whatever is made has required items, if what the other builders make has. -/
theorem requiresItems_levels (hregistry : registry.RequiresItems) (room : Nat) :
    RequiresItems registry settings (levels room) := by
  refine makes_levels (fun hinner key builder hkey => ?_) room
  cases builder with
  | ofKind kind =>
      intro scope name required schema field hscope _ h
      exact ⟨required_of_run h, itemsRequired_of_run hinner hscope h⟩
  | custom build => exact makes_run_custom hregistry hkey hinner

/-- The items of all lists of a form are required, if those of the other builders are. -/
theorem itemsRequired_of_requiresItems (hregistry : registry.RequiresItems) {schema : Json}
    {form : Form} (h : Form.compile registry settings schema = .ok form) :
    form.root.ItemsRequired := by
  obtain ⟨_, -, hroot⟩ := exists_run_of_compile h
  exact itemsRequired_of_run (requiresItems_levels hregistry _) inside_root hroot

/-- The items of all lists of a form are required where only builders for kinds are registered. -/
theorem itemsRequired_of_compile (hregistry : registry.IsBuiltIn) {schema : Json} {form : Form}
    (h : Form.compile registry settings schema = .ok form) : form.root.ItemsRequired :=
  itemsRequired_of_requiresItems hregistry.requiresItems h

end Building
end SchemaForm
