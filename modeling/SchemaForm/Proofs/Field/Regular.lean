import SchemaForm.Proofs.Building.OpenItems
import SchemaForm.Proofs.Field.Part

/-!
# Regular fields

What loading and reading rely on in the fields of a form.  Dates are shown under
the patterns of the settings, and the names of a group are distinct.  No item of a
list is a group, or else the groups among the items open.

Main results:

- Theorem `regular_of_compile`: the fields of a form are regular.
- Definition `Field.IsReloadable`: the fields that load what they read.
- Theorem `isReloadable_of_compile`: the fields of a form are such fields, if the other builders
  keep what makes them so.
-/

namespace SchemaForm

/-- Fields that show dates under the given patterns, whose lists have no groups as items and whose
groups have distinct names. -/
inductive Field.IsRegular (patterns : DatePatterns) : Field → Prop where
  | boolean (spec : Spec) : IsRegular patterns (.boolean spec)
  | string {spec : Spec} (hpatterns : spec.patterns = patterns) : IsRegular patterns (.string spec)
  | number {spec : Spec} (hpatterns : spec.patterns = patterns) : IsRegular patterns (.number spec)
  | array {spec : Spec} {item : Field} (hitem : IsRegular patterns item)
      (hgroup : item.kind ≠ .object) : IsRegular patterns (.array spec item)
  | object {spec : Spec} {fields : List (String × Field)} (hnames : (Entries.names fields).Nodup)
      (hfields : ∀ entry ∈ fields, IsRegular patterns entry.2) :
      IsRegular patterns (.object spec fields)

/-- Fields that show dates under the given patterns, wherever something is entered as a text. -/
inductive Field.UsesPatterns (patterns : DatePatterns) : Field → Prop where
  | boolean (spec : Spec) : UsesPatterns patterns (.boolean spec)
  | string {spec : Spec} (hpatterns : spec.patterns = patterns) :
      UsesPatterns patterns (.string spec)
  | number {spec : Spec} (hpatterns : spec.patterns = patterns) :
      UsesPatterns patterns (.number spec)
  | array {spec : Spec} {item : Field} (hitem : UsesPatterns patterns item) :
      UsesPatterns patterns (.array spec item)
  | object {spec : Spec} {fields : List (String × Field)}
      (hfields : ∀ entry ∈ fields, UsesPatterns patterns entry.2) :
      UsesPatterns patterns (.object spec fields)

/-- Fields that load what they read: names of groups are distinct, dates are shown under the default
patterns, and every group among the items of a list opens. -/
structure Field.IsReloadable (field : Field) : Prop where
  hasDistinctNames : field.HasDistinctNames
  usesPatterns : field.UsesPatterns {}
  itemsOpen : field.ItemsOpen

namespace Field

variable {spec : Spec} {item : Field} {fields : List (String × Field)}

/-- The items of a list that loads what it reads do so, and open if they are groups. -/
theorem isReloadable_item (h : IsReloadable (.array spec item)) :
    item.IsReloadable ∧ (item.kind = .object → ∃ start, item.opened = .ok start) := by
  obtain ⟨hnames, hpatterns, hitems⟩ := h
  cases hnames with
  | array hnames =>
      cases hpatterns with
      | array hpatterns =>
          cases hitems with
          | array hopened hitems => exact ⟨⟨hnames, hpatterns, hitems⟩, hopened⟩

/-- The fields of a group that loads what it reads do so, and have distinct names. -/
theorem isReloadable_fields (h : IsReloadable (.object spec fields)) :
    (Entries.names fields).Nodup ∧ ∀ entry ∈ fields, entry.2.IsReloadable := by
  obtain ⟨hnames, hpatterns, hitems⟩ := h
  cases hnames with
  | object hdistinct hnames =>
      cases hpatterns with
      | object hpatterns =>
          cases hitems with
          | object hitems =>
              exact ⟨hdistinct, fun entry hentry =>
                ⟨hnames entry hentry, hpatterns entry hentry, hitems entry hentry⟩⟩

/-- Regular fields under the default patterns load what they read: no item of their lists is a
group. -/
theorem IsRegular.isReloadable {field : Field} (h : field.IsRegular {}) : field.IsReloadable := by
  induction h with
  | boolean spec => exact ⟨.boolean spec, .boolean spec, .boolean spec⟩
  | @string spec hpatterns => exact ⟨.string spec, .string hpatterns, .string spec⟩
  | @number spec hpatterns => exact ⟨.number spec, .number hpatterns, .number spec⟩
  | array _ hgroup ih =>
      obtain ⟨hnames, hpatterns, hitems⟩ := ih
      exact ⟨.array hnames, .array hpatterns, .array (fun hobject => absurd hobject hgroup) hitems⟩
  | object hnames _ ih =>
      exact ⟨.object hnames fun entry hentry => (ih entry hentry).hasDistinctNames,
        .object fun entry hentry => (ih entry hentry).usesPatterns,
        .object fun entry hentry => (ih entry hentry).itemsOpen⟩

end Field

/-! ## Registries -/

namespace Registry

/-- The builders beside those for the five kinds show dates under the patterns of the settings. -/
def UsesPatterns (registry : Registry) : Prop :=
  registry.Keeps False fun settings _ _ field => field.UsesPatterns settings.patterns

/-- Where the other builders make fields without parts, they use the patterns of the settings. -/
theorem IsRegular.usesPatterns {registry : Registry} (h : registry.IsRegular) :
    registry.UsesPatterns := by
  intro key build hbuild context name required schema field _ _ _ hfield
  obtain ⟨hkind, hpatterns⟩ := h key build hbuild _ _ _ _ _ hfield
  rcases Field.cases_leaf hkind with ⟨spec, rfl⟩ | ⟨spec, rfl⟩ | ⟨spec, rfl⟩
  · exact .boolean spec
  · exact .string hpatterns
  · exact .number hpatterns

end Registry

namespace Building

variable {registry : Registry} {settings : Settings}

/-- A built field of a schema with distinct keys is regular. -/
theorem regular_of_built {keyed : Prop} (hregistry : registry.IsRegular) (hkeyed : keyed)
    {field : Field} (h : Built registry settings keyed field) :
    field.IsRegular settings.patterns := by
  induction h with
  | boolean => exact .boolean _
  | string => exact .string rfl
  | number => exact .number rfl
  | array _ _ _ hgroup ih => exact .array ih (hgroup hregistry)
  | object _ _ hnames _ ih => exact .object (hnames hkeyed) ih
  | other hbuild hsettings _ _ _ hfield =>
      obtain ⟨hkind, hpatterns⟩ := hregistry _ _ hbuild _ _ _ _ _ hfield
      rw [hsettings] at hpatterns
      rcases Field.cases_leaf hkind with ⟨spec, rfl⟩ | ⟨spec, rfl⟩ | ⟨spec, rfl⟩
      · exact .boolean spec
      · exact .string hpatterns
      · exact .number hpatterns

/-- The fields of a form are regular. -/
theorem regular_of_compile {schema : Json} {form : Form} (hregistry : registry.IsRegular)
    (hschema : schema.Proper) (h : Form.compile registry settings schema = .ok form) :
    form.root.IsRegular settings.patterns ∧ form.root.kind = .object := by
  obtain ⟨hroot, hkind⟩ := built_of_compile id h
  exact ⟨regular_of_built hregistry hschema hroot, hkind⟩

/-- Built fields show dates under the patterns of the settings. -/
theorem usesPatterns_of_built (hregistry : registry.UsesPatterns) {field : Field}
    (h : Built registry settings False field) : field.UsesPatterns settings.patterns := by
  induction h with
  | boolean => exact .boolean _
  | string => exact .string rfl
  | number => exact .number rfl
  | array _ _ _ _ ih => exact .array ih
  | object _ _ _ _ ih => exact .object ih
  | other hbuild hsettings hproper _ htypes hfield ih =>
      rw [← hsettings] at ih ⊢
      exact hregistry _ _ hbuild _ _ _ _ _ hproper ih htypes hfield

/-- The fields of a form show dates under the patterns of the settings. -/
theorem usesPatterns_of_compile (hregistry : registry.UsesPatterns) {schema : Json} {form : Form}
    (h : Form.compile registry settings schema = .ok form) :
    form.root.UsesPatterns settings.patterns :=
  usesPatterns_of_built hregistry (built_of_compile False.elim h).1

/-- The fields of a form under the default patterns load what they read, if the other builders keep
names distinct, use the patterns of the settings and make groups that open as items. -/
theorem isReloadable_of_compile (hnames : registry.KeepsNamesDistinct)
    (hpatterns : registry.UsesPatterns) (hitems : registry.OpensItems) {schema : Json} {form : Form}
    (hschema : schema.Proper) (hsettings : settings.patterns = {})
    (h : Form.compile registry settings schema = .ok form) : form.root.IsReloadable where
  hasDistinctNames := hasDistinctNames_of_compile hnames hschema h
  usesPatterns := hsettings ▸ usesPatterns_of_compile hpatterns h
  itemsOpen := itemsOpen_of_compile hitems h

/-- So they do where the other builders make fields without parts. -/
theorem isReloadable_of_isRegular (hregistry : registry.IsRegular) {schema : Json} {form : Form}
    (hschema : schema.Proper) (hsettings : settings.patterns = {})
    (h : Form.compile registry settings schema = .ok form) : form.root.IsReloadable :=
  isReloadable_of_compile hregistry.keepsNamesDistinct hregistry.usesPatterns hregistry.opensItems
    hschema hsettings h

end Building

/-! ## Lists of groups -/

/-- A builder for lists that takes every schema for its items, also one for groups. -/
def rowsBuilder : Constructor := fun context name required schema => do
  let field := context.location name
  let header ← Building.readHeader field name required schema
  let items ← Building.writtenItems field schema
  let item ← context.part schema "[]" name true items
  return .array ⟨header, { default := schema.get? "default" }, [], context.settings.patterns⟩ item

/-- The list that is made has the items that its place has built. -/
theorem exists_item_of_rowsBuilder {context : Context} {name : String} {required : Bool}
    {schema : Schema} {field : Field} (h : rowsBuilder context name required schema = .ok field) :
    ∃ spec items item, field = .array spec item ∧
      Building.writtenItems (context.location name) schema = .ok items ∧
        context.part schema "[]" name true items = .ok item := by
  simp only [rowsBuilder, Result.bind_eq_ok, Result.pure_eq_ok] at h
  obtain ⟨header, -, items, hitems, item, hitem, rfl⟩ := h
  exact ⟨_, items, item, rfl, hitems, hitem⟩

namespace Registry

/-- The standard registry with the builder for lists of any items, for lists in a format of rows. -/
def withRows : Registry :=
  standard.register "array" (some "rows") (.custom rowsBuilder)

/-- Lists of groups keep the names in their groups distinct. -/
theorem keepsNamesDistinct_withRows : withRows.KeepsNamesDistinct := by
  refine Keeps.register (isBuiltIn_standard.keeps _ _) ?_ _ _
  intro context name required schema field hproper hparts _ h
  obtain ⟨spec, items, item, rfl, hitems, hitem⟩ := exists_item_of_rowsBuilder h
  have hschema := (hproper trivial).2
  exact .array (hparts (fun _ => ⟨hschema, Building.proper_writtenItems hschema hitems⟩) hitem)

/-- Lists of groups show dates under the patterns of the settings if their items do. -/
theorem usesPatterns_withRows : withRows.UsesPatterns := by
  refine Keeps.register (isBuiltIn_standard.keeps _ _) ?_ _ _
  intro context name required schema field _ hparts _ h
  obtain ⟨spec, items, item, rfl, -, hitem⟩ := exists_item_of_rowsBuilder h
  exact .array (hparts False.elim hitem)

end Registry
end SchemaForm
