import SchemaForm.Proofs.Field.Part

/-!
# Groups among the items of lists

The builder for lists refuses schemas for groups as items.  Other builders may make
lists of groups, or groups from schemas that are not for groups.  Where such groups
open, every group among the items of a list of a form does.

Main results:

- Definition `Field.ItemsOpen`: the fields in which every group among the items of a list opens.
- Theorem `Field.itemsOpen_of_hasOpenItems`: whether a field is such a field can be computed.
- Theorem `opensItems_levels`: whatever a registry makes at a place of a schema is such a field.
- Theorem `itemsOpen_of_compile`: so is the root of a form.
-/

namespace SchemaForm

open Result

/-- Fields in which every group among the items of a list opens. -/
inductive Field.ItemsOpen : Field → Prop where
  | boolean (spec : Spec) : ItemsOpen (.boolean spec)
  | string (spec : Spec) : ItemsOpen (.string spec)
  | number (spec : Spec) : ItemsOpen (.number spec)
  | array {spec : Spec} {item : Field}
      (hopened : item.kind = .object → ∃ start, item.opened = .ok start)
      (hitem : ItemsOpen item) : ItemsOpen (.array spec item)
  | object {spec : Spec} {fields : List (String × Field)}
      (hfields : ∀ entry ∈ fields, ItemsOpen entry.2) : ItemsOpen (.object spec fields)

namespace Field

mutual

/-- Whether every group among the items of a list opens. -/
def hasOpenItems : Field → Bool
  | .array _ item =>
      (item.kind != .object || Rule.succeeded item.opened) && hasOpenItems item
  | .object _ fields => haveOpenItems fields
  | .boolean _ | .string _ | .number _ => true

/-- Whether every group among the items of the lists in some fields opens. -/
def haveOpenItems : List (String × Field) → Bool
  | [] => true
  | (_, field) :: rest => hasOpenItems field && haveOpenItems rest

end

theorem haveOpenItems_iff {fields : List (String × Field)} :
    haveOpenItems fields = true ↔ ∀ entry ∈ fields, entry.2.hasOpenItems = true := by
  induction fields with
  | nil => simp [haveOpenItems]
  | cons entry rest ih => simp [haveOpenItems, ih]

/-- Where the computed check passes, every group among the items of a list opens. -/
theorem itemsOpen_of_hasOpenItems {field : Field} (h : field.hasOpenItems = true) :
    field.ItemsOpen := by
  induction field using Field.induction with
  | boolean spec => exact .boolean spec
  | string spec => exact .string spec
  | number spec => exact .number spec
  | array spec item ih =>
      simp only [hasOpenItems, Bool.and_eq_true, Bool.or_eq_true, bne_iff_ne] at h
      refine .array (fun hobject => ?_) (ih h.2)
      exact exists_of_succeeded (h.1.resolve_left fun hkind => hkind hobject)
  | object spec fields ih =>
      rw [hasOpenItems, haveOpenItems_iff] at h
      exact .object fun entry hentry => ih entry hentry (h entry hentry)

end Field

/-- A field that may be the item of a list that is described by its schema: a group only if the
schema is for groups, so that no list has it as an item, or if the group opens. -/
def Field.OpensAsItem (field : Field) (schema : Schema) : Prop :=
  field.ItemsOpen ∧
    (field.kind = .object →
      schema.get? "type" = some (.string "object") ∨ ∃ start, field.opened = .ok start)

namespace Registry

/-- The builders beside those for the five kinds make groups that open where lists may have them as
items. -/
def OpensItems (registry : Registry) : Prop :=
  registry.Keeps False fun _ _ schema field => field.OpensAsItem schema

/-- Where the other builders make neither lists nor groups, they make none that do not open. -/
theorem IsRegular.opensItems {registry : Registry} (h : registry.IsRegular) :
    registry.OpensItems := by
  intro key build hbuild context name required schema field _ _ _ hfield
  obtain ⟨hkind, -⟩ := h key build hbuild _ _ _ _ _ hfield
  refine ⟨?_, fun hobject => absurd hobject hkind.2⟩
  rcases Field.cases_leaf hkind with ⟨spec, rfl⟩ | ⟨spec, rfl⟩ | ⟨spec, rfl⟩
  · exact .boolean spec
  · exact .string spec
  · exact .number spec

end Registry

namespace Building

variable {registry : Registry} {settings : Settings} {inner : Build} {scope : Scope}
  {name : String} {required : Bool} {schema : Schema} {field : Field}

/-- Builders that make groups that open where lists may have them as items. -/
abbrev OpensItems (registry : Registry) (settings : Settings) (build : Build) : Prop :=
  Makes registry settings False (fun _ schema field => field.OpensAsItem schema) build

/-- The builder for a kind makes a group only from a schema for groups. -/
theorem type_of_run_of_kind_eq_object {kind : FieldKind}
    (h : run inner (.ofKind kind) scope name required schema = .ok field)
    (hobject : field.kind = .object) : schema.get? "type" = some (.string "object") := by
  obtain ⟨hkind, hget, htype⟩ := head_of_run h
  rw [hobject] at hkind
  rw [← hkind, FieldKind.types, List.mem_singleton] at htype
  rw [hget, htype]

/-- The groups among the items of what the builder for a kind makes open when those open that the
builder of parts makes. -/
theorem itemsOpen_of_run (hinner : OpensItems registry settings inner)
    (hscope : Inside registry settings False scope) {kind : FieldKind}
    (h : run inner (.ofKind kind) scope name required schema = .ok field) :
    field.ItemsOpen := by
  have hinside : Inside registry settings False (scope.entering schema) :=
    hscope.entering False.elim
  have hkind := (head_of_run h).1
  cases kind with
  | boolean =>
      cases field <;> cases hkind
      exact .boolean _
  | string =>
      cases field <;> cases hkind
      exact .string _
  | number =>
      cases field <;> cases hkind
      exact .number _
  | array =>
      obtain ⟨_, items, next, item, rfl, -, hitems, hnext, hitem⟩ := exists_item_of_run h
      obtain ⟨hopen, hgroup⟩ := hinner (hinside.child hnext) False.elim hitem
      exact .array (fun hobject => (hgroup hobject).resolve_left (type_itemSchema hitems)) hopen
  | object =>
      obtain ⟨_, _, _, fields, rfl, -, -, -, hfields⟩ := exists_fields_of_run h
      refine .object fun entry hentry => ?_
      obtain ⟨_, next, _, _, -, hnext, -, -, hfield⟩ := exists_child_of_mem hfields hentry
      exact (hinner (hinside.child hnext) False.elim hfield).1

/-- Whatever is made, the groups among the items of its lists open, if those of the other builders
do. -/
theorem opensItems_levels (hregistry : registry.OpensItems) (room : Nat) :
    OpensItems registry settings (levels room) := by
  refine makes_levels (fun hinner key builder hkey => ?_) room
  cases builder with
  | ofKind kind =>
      intro scope name required schema field hscope _ h
      exact ⟨itemsOpen_of_run hinner hscope h,
        fun hobject => .inl (type_of_run_of_kind_eq_object h hobject)⟩
  | custom build => exact makes_run_custom hregistry hkey hinner

/-- The groups among the items of the lists of a form open, if those of the other builders do. -/
theorem itemsOpen_of_compile (hregistry : registry.OpensItems)
    {document : Json} {form : Form} (h : Form.compile registry settings document = .ok form) :
    form.root.ItemsOpen := by
  obtain ⟨_, -, hroot⟩ := exists_run_of_compile h
  exact itemsOpen_of_run (opensItems_levels hregistry _) inside_root hroot

end Building
end SchemaForm
