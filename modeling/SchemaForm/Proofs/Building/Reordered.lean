import SchemaForm.Proofs.Building.WellFormed
import SchemaForm.Proofs.Building.Written
import SchemaForm.Proofs.Schema.Reordered

/-!
# Building from schemas in another order

Two schemas that differ only in the order of keys are built alike: either there is
a field for none of them, or the fields for both differ only in the order in
which groups list their fields and in the order of keys in their defaults.
Properties are built in the order of the schema, so that another one of them may
be the first to fail.

Main results:

- Theorem `alike_readHeader`, Theorem `alike_readOptional`: keywords are read alike.
- Theorem `alike_buildProperties`: properties are built alike in any order.
- Theorem `buildsAlike_levels`: so are fields, however many levels may lie below them.
- Theorem `Form.alike_compile`: a form does not depend on the order of keys in its schema.
-/

namespace SchemaForm

open Result

/-! ## Fields in another order -/

/-- Specifications that differ only in the order of keys in their defaults. -/
structure Spec.Reordered (first second : Spec) : Prop where
  header_eq : first.header = second.header
  default : Option.Rel Json.Reordered first.attributes.default second.attributes.default
  attributes_eq :
    { first.attributes with default := none } = { second.attributes with default := none }
  rules_eq : first.rules = second.rules
  patterns_eq : first.patterns = second.patterns

/-- Fields that differ only in the order in which groups list their fields, and in the order of
keys in their defaults. -/
inductive Field.Reordered : Field → Field → Prop where
  | boolean {one other : Spec} (hspec : one.Reordered other) :
      Reordered (.boolean one) (.boolean other)
  | string {one other : Spec} (hspec : one.Reordered other) :
      Reordered (.string one) (.string other)
  | number {one other : Spec} (hspec : one.Reordered other) :
      Reordered (.number one) (.number other)
  | array {one other : Spec} {first second : Field} (hspec : one.Reordered other)
      (hitem : Reordered first second) : Reordered (.array one first) (.array other second)
  | object {one other : Spec} {first second : List (String × Field)} (hspec : one.Reordered other)
      (hfirst : (Entries.names first).Nodup) (hsecond : (Entries.names second).Nodup)
      (hfields : ∀ name,
        Option.Rel Reordered (Entries.get? first name) (Entries.get? second name)) :
      Reordered (.object one first) (.object other second)

/-- Fields in another order have the same specification up to their defaults. -/
theorem Field.Reordered.spec {first second : Field} (h : first.Reordered second) :
    first.spec.Reordered second.spec := by
  cases h <;> assumption

/-- Fields in another order are of the same kind. -/
theorem Field.Reordered.kind_eq {first second : Field} (h : first.Reordered second) :
    first.kind = second.kind := by
  cases h <;> rfl

/-- Forms with the same settings whose roots differ only in the order of fields and of keys in
defaults. -/
structure Form.Reordered (first second : Form) : Prop where
  root : first.root.Reordered second.root
  settings_eq : first.settings = second.settings

/-- Places under a registry with the builders for kinds alone, whose definitions differ only in the
order of keys. -/
structure Scope.Reordered (first second : Scope) : Prop where
  isBuiltIn : first.registry.IsBuiltIn
  registry_eq : first.registry = second.registry
  settings_eq : first.settings = second.settings
  definitions : Option.Rel Schema.Reordered first.definitions second.definitions
  depth_eq : first.depth = second.depth
  path_eq : first.path = second.path

namespace Scope.Reordered

variable {scope place : Scope}

/-- A field has the same location. -/
theorem location_eq (h : scope.Reordered place) (name : String) :
    scope.location name = place.location name := by
  rw [location, location, h.path_eq]

/-- The definitions of schemas in another order keep places in another order. -/
theorem entering (h : scope.Reordered place) {first second : Schema}
    (hschema : Schema.Reordered first second) :
    (scope.entering first).Reordered (place.entering second) := by
  rcases hschema.cases_get? "$defs" with ⟨hfirst, hsecond⟩ | ⟨a, b, hfirst, hsecond, hvalue⟩
  · simp only [Scope.entering, hfirst, hsecond]
    exact h
  · simp only [Scope.entering, hfirst, hsecond]
    cases hvalue with
    | object hone hother hvalues =>
        exact ⟨h.isBuiltIn, h.registry_eq, h.settings_eq, .some ⟨hone, hother, hvalues⟩, h.depth_eq,
          h.path_eq⟩
    | _ => exact h

/-- Both places have a child, or both are too deep for one. -/
theorem child (h : scope.Reordered place) (step : String) :
    Alike Reordered (scope.child step) (place.child step) := by
  simp only [Scope.child, h.settings_eq, h.depth_eq, h.path_eq]
  split
  · exact .error _ _
  · exact .ok ⟨h.isBuiltIn, h.registry_eq, rfl, h.definitions, rfl, rfl⟩

end Scope.Reordered

namespace Building

variable {scope place : Scope} {first second : Schema} {inner : Build} {field : String}

/-! ## Keywords -/

/-- The same text is read. -/
theorem alike_readText (h : Schema.Reordered first second) (key : String) :
    Alike (· = ·) (readText field first key) (readText field second key) := by
  rcases h.cases_get? key with ⟨hfirst, hsecond⟩ | ⟨a, b, hfirst, hsecond, hvalue⟩
  · simp only [readText, hfirst, hsecond]
    exact .refl _
  · simp only [readText, hfirst, hsecond]
    cases hvalue with
    | array hitems => exact .error _ _
    | object hone hother hvalues => exact .error _ _
    | _ => exact .refl _

/-- The same type is read. -/
theorem alike_readType (h : Schema.Reordered first second) :
    Alike (· = ·) (readType field first) (readType field second) := by
  rcases h.cases_get? "type" with ⟨hfirst, hsecond⟩ | ⟨a, b, hfirst, hsecond, hvalue⟩
  · simp only [readType, hfirst, hsecond]
    exact .refl _
  · simp only [readType, hfirst, hsecond]
    cases hvalue with
    | array hitems => exact .error _ _
    | object hone hother hvalues => exact .error _ _
    | _ => exact .refl _

/-- The same head is read. -/
theorem alike_readHeader (h : Schema.Reordered first second) (name : String) (required : Bool) :
    Alike (· = ·) (readHeader field name required first)
      (readHeader field name required second) := by
  refine (alike_readType h).bind ?_
  rintro type _ rfl
  refine (alike_readText h "title").bind ?_
  rintro title _ rfl
  refine (alike_readText h "description").bind ?_
  rintro description _ rfl
  exact .refl _

/-- The same value of a keyword is read, where its reader does not depend on the order of keys. -/
theorem alike_readOptional {α : Type} {read : Json → Except SchemaError α}
    (hread : ∀ a b, a.Reordered b → Alike (· = ·) (read a) (read b))
    (h : Schema.Reordered first second) (key : String) :
    Alike (· = ·) (readOptional first key read) (readOptional second key read) := by
  rcases h.cases_get? key with ⟨hfirst, hsecond⟩ | ⟨a, b, hfirst, hsecond, hvalue⟩
  · simp only [readOptional, hfirst, hsecond]
    exact .refl _
  · simp only [readOptional, hfirst, hsecond]
    exact (hread a b hvalue).map fun _ _ => congrArg some

/-- Readers of values that are neither lists nor objects. -/
def RefusesParts {α : Type} (read : Json → Except SchemaError α) : Prop :=
  (∀ items, ∃ error, read (.array items) = .error error) ∧
    ∀ entries, ∃ error, read (.object entries) = .error error

/-- A reader that refuses lists and objects does not depend on the order of keys. -/
theorem RefusesParts.alike {α : Type} {read : Json → Except SchemaError α}
    (hread : RefusesParts read) {a b : Json} (h : a.Reordered b) :
    Alike (· = ·) (read a) (read b) := by
  cases h with
  | @array items others _ =>
      obtain ⟨error, herror⟩ := hread.1 items
      obtain ⟨other, hother⟩ := hread.1 others
      rw [herror, hother]
      exact .error _ _
  | @object entries others _ _ _ =>
      obtain ⟨error, herror⟩ := hread.2 entries
      obtain ⟨other, hother⟩ := hread.2 others
      rw [herror, hother]
      exact .error _ _
  | _ => exact .refl _

theorem refusesParts_readCount (key : String) : RefusesParts (readCount field key) :=
  ⟨fun _ => ⟨_, rfl⟩, fun _ => ⟨_, rfl⟩⟩

theorem refusesParts_readNumber (key : String) : RefusesParts (readNumber field key) :=
  ⟨fun _ => ⟨_, rfl⟩, fun _ => ⟨_, rfl⟩⟩

theorem refusesParts_readKeyword (key : String) : RefusesParts (readKeyword field key) :=
  ⟨fun _ => ⟨_, rfl⟩, fun _ => ⟨_, rfl⟩⟩

theorem refusesParts_readRestriction : RefusesParts (readRestriction field) :=
  ⟨fun _ => ⟨_, rfl⟩, fun _ => ⟨_, rfl⟩⟩

theorem refusesParts_readChoice : RefusesParts (readChoice field) :=
  ⟨fun _ => ⟨_, rfl⟩, fun _ => ⟨_, rfl⟩⟩

/-- The same value of a keyword is read by a reader that refuses lists and objects. -/
theorem RefusesParts.alike_readOptional {α : Type} {read : Json → Except SchemaError α}
    (hread : RefusesParts read) (h : Schema.Reordered first second) (key : String) :
    Alike (· = ·) (readOptional first key read) (readOptional second key read) :=
  Building.alike_readOptional (fun _ _ => hread.alike) h key

/-- The same choices are read. -/
theorem alike_readChoices (h : Schema.Reordered first second) :
    Alike (· = ·) (readOptional first "enum" (readChoices field))
      (readOptional second "enum" (readChoices field)) := by
  refine alike_readOptional (fun a b hvalue => ?_) h "enum"
  cases hvalue with
  | array hitems =>
      exact Alike.mapM_eq (fun _ _ hchoice => refusesParts_readChoice.alike hchoice) hitems
  | object hone hother hvalues => exact .error _ _
  | _ => exact .refl _

/-- Both schemas have keys that a kind does not accept, or none of them has. -/
theorem alike_checkKeys (h : Schema.Reordered first second) (kind : FieldKind) :
    Alike (· = ·) (checkKeys kind field first) (checkKeys kind field second) := by
  have hiff : kind.illegalKeys first = [] ↔ kind.illegalKeys second = [] := by
    rw [kind.illegalKeys_eq_nil_iff, kind.illegalKeys_eq_nil_iff]
    exact forall_congr' fun key => imp_congr_left h.perm_names.mem_iff
  unfold checkKeys
  cases hfirst : kind.illegalKeys first with
  | nil =>
      rw [hiff.mp hfirst]
      exact .ok rfl
  | cons key keys =>
      cases hsecond : kind.illegalKeys second with
      | nil =>
          rw [hiff.mpr hsecond] at hfirst
          cases hfirst
      | cons other others => exact .error _ _

/-- Both defaults fit, or none of them does. -/
theorem alike_checkDefault (h : Schema.Reordered first second) {fits : Json → Bool}
    (hfits : ∀ a b : Json, a.Reordered b → fits a = fits b) (cause : Json → Cause) :
    Alike (· = ·) (checkDefault fits cause field first) (checkDefault fits cause field second) := by
  unfold checkDefault
  rcases h.cases_get? "default" with ⟨hfirst, hsecond⟩ | ⟨a, b, hfirst, hsecond, hvalue⟩
  · rw [hfirst, hsecond]
    exact .ok rfl
  · rw [hfirst, hsecond]
    have hsame := hfits a b hvalue
    cases hvalue with
    | array hitems =>
        dsimp only
        rw [hsame]
        split
        · exact .ok rfl
        · exact .error _ _
    | object hone hother hvalues =>
        dsimp only
        rw [hsame]
        split
        · exact .ok rfl
        · exact .error _ _
    | _ => exact .refl _

/-- Both fields have a type of their kind, or none of them has. -/
theorem alike_checkType {one other : Field} (h : one.Reordered other) (location : String) :
    Alike Field.Reordered (checkType location one) (checkType location other) := by
  have hheader : one.header = other.header := h.spec.header_eq
  simp only [checkType, hheader, h.kind_eq]
  split
  · exact .ok h
  · exact .error _ _

/-! ## Fields without parts -/

/-- Switches are built alike. -/
theorem alike_buildBoolean (hscope : scope.Reordered place) (h : Schema.Reordered first second)
    (name : String) (required : Bool) :
    Alike Field.Reordered (buildBoolean scope name required first)
      (buildBoolean place name required second) := by
  simp only [buildBoolean, hscope.location_eq name, hscope.settings_eq]
  refine (alike_checkKeys h .boolean).bind fun _ _ _ => ?_
  refine (alike_readHeader h name required).bind ?_
  rintro header _ rfl
  have hfits : ∀ a b : Json, a.Reordered b → a.asBool?.isSome = b.asBool?.isSome := by
    intro a b hvalue
    cases hvalue <;> rfl
  refine (alike_checkDefault h hfits _).bind fun _ _ _ => ?_
  refine alike_checkType (.boolean ?_) _
  exact ⟨rfl, h.get? "default", rfl, rfl, rfl⟩

/-- Text fields are built alike. -/
theorem alike_buildString (hscope : scope.Reordered place) (h : Schema.Reordered first second)
    (name : String) (required : Bool) :
    Alike Field.Reordered (buildString scope name required first)
      (buildString place name required second) := by
  simp only [buildString, hscope.location_eq name, hscope.settings_eq]
  refine (alike_checkKeys h .string).bind fun _ _ _ => ?_
  refine (alike_readHeader h name required).bind ?_
  rintro header _ rfl
  refine (alike_readChoices h).bind ?_
  rintro choices _ rfl
  refine ((refusesParts_readCount _).alike_readOptional h "maxLength").bind ?_
  rintro maxLength _ rfl
  refine (refusesParts_readRestriction.alike_readOptional h "pattern").bind ?_
  rintro restriction _ rfl
  refine ((refusesParts_readKeyword _).alike_readOptional h "format").bind ?_
  rintro format _ rfl
  refine alike_checkType (.string ?_) _
  exact ⟨rfl, h.get? "default", rfl, rfl, rfl⟩

/-- The same bounds are read. -/
theorem alike_boundsOf (h : Schema.Reordered first second) :
    Alike (· = ·) (boundsOf field first) (boundsOf field second) := by
  refine ((refusesParts_readNumber _).alike_readOptional h "minimum").bind ?_
  rintro minimum _ rfl
  refine ((refusesParts_readNumber _).alike_readOptional h "maximum").bind ?_
  rintro maximum _ rfl
  refine ((refusesParts_readNumber _).alike_readOptional h "exclusiveMinimum").bind ?_
  rintro low _ rfl
  refine ((refusesParts_readNumber _).alike_readOptional h "exclusiveMaximum").bind ?_
  rintro high _ rfl
  exact .refl _

/-- Number fields are built alike. -/
theorem alike_buildNumber (hscope : scope.Reordered place) (h : Schema.Reordered first second)
    (name : String) (required : Bool) :
    Alike Field.Reordered (buildNumber scope name required first)
      (buildNumber place name required second) := by
  simp only [buildNumber, checkNoChoices, hscope.location_eq name, hscope.settings_eq,
    h.has_eq "enum"]
  refine (alike_checkKeys h .number).bind fun _ _ _ => ?_
  refine (alike_readHeader h name required).bind ?_
  rintro header _ rfl
  refine (Alike.refl _).bind fun _ _ _ => ?_
  refine (alike_boundsOf h).bind ?_
  rintro bounds _ rfl
  refine ((refusesParts_readKeyword _).alike_readOptional h "format").bind ?_
  rintro format _ rfl
  refine alike_checkType (.number ?_) _
  exact ⟨rfl, h.get? "default", rfl, rfl, rfl⟩

/-! ## Lists -/

/-- Builders that make fields in another order from schemas in another order. -/
def BuildsAlike (inner : Build) : Prop :=
  ∀ ⦃scope place : Scope⦄ ⦃first second : Schema⦄ (name : String) (required : Bool),
    scope.Reordered place → Schema.Reordered first second →
      Alike Field.Reordered (inner scope name required first) (inner place name required second)

/-- Choices become texts alike. -/
theorem reordered_withTextChoices (h : Schema.Reordered first second) :
    Schema.Reordered (withTextChoices first) (withTextChoices second) := by
  unfold withTextChoices
  rw [h.has_eq "type", h.has_eq "enum"]
  split
  · exact h.put "type" (.string _)
  · exact h

/-- The items of two lists are written alike. -/
theorem alike_writtenItems (h : Schema.Reordered first second) :
    Alike Schema.Reordered (writtenItems field first) (writtenItems field second) := by
  rcases h.cases_get? "items" with ⟨hfirst, hsecond⟩ | ⟨a, b, hfirst, hsecond, hvalue⟩
  · simp only [writtenItems, hfirst, hsecond]
    exact .error _ _
  · simp only [writtenItems, hfirst, hsecond]
    cases hvalue with
    | @object entries others hone hother hvalues =>
        have hitems : Schema.Reordered entries others := ⟨hone, hother, hvalues⟩
        cases entries with
        | nil =>
            rw [List.length_eq_zero_iff.mp hitems.length_eq.symm]
            exact .error _ _
        | cons entry rest =>
            cases others with
            | nil => cases hitems.length_eq
            | cons other more => exact .ok hitems
    | _ => exact .error _ _

/-- The items of two lists have a type alike. -/
theorem alike_checkItemType (h : Schema.Reordered first second) :
    Alike Schema.Reordered (checkItemType field first) (checkItemType field second) := by
  rcases h.cases_get? "type" with ⟨hfirst, hsecond⟩ | ⟨a, b, hfirst, hsecond, hvalue⟩
  · simp only [checkItemType, hfirst, hsecond]
    exact .error _ _
  · simp only [checkItemType, hfirst, hsecond]
    cases hvalue with
    | string type =>
        dsimp only
        split
        · exact .error _ _
        · exact .ok h
    | _ => exact .error _ _

/-- The items of two lists have schemas alike. -/
theorem alike_itemSchema (hscope : scope.Reordered place) (h : Schema.Reordered first second) :
    Alike Schema.Reordered (itemSchema scope field first) (itemSchema place field second) := by
  refine (alike_writtenItems h).bind fun one other hwritten => ?_
  refine (Schema.alike_follow hscope.definitions hwritten hwritten).bind ?_
  intro items found hitems
  simp only [checkNoUnion, hitems.has_eq "anyOf", hitems.has_eq "allOf"]
  refine (Alike.refl _).bind fun _ _ _ => ?_
  refine (Schema.alike_collapseTypes hitems).bind fun collapsed result hcollapsed => ?_
  exact alike_checkItemType (reordered_withTextChoices hcollapsed)

/-- Lists are built alike when their items are. -/
theorem alike_buildArray (hinner : BuildsAlike inner) (hscope : scope.Reordered place)
    (h : Schema.Reordered first second) (name : String) (required : Bool) :
    Alike Field.Reordered (buildArray inner scope name required first)
      (buildArray inner place name required second) := by
  simp only [buildArray, hscope.location_eq name, hscope.settings_eq]
  refine (alike_checkKeys h .array).bind fun _ _ _ => ?_
  refine (alike_readHeader h name required).bind ?_
  rintro header _ rfl
  refine ((refusesParts_readCount _).alike_readOptional h "minItems").bind ?_
  rintro minItems _ rfl
  refine ((refusesParts_readCount _).alike_readOptional h "maxItems").bind ?_
  rintro maxItems _ rfl
  have hfits : ∀ a b : Json, a.Reordered b → a.asArray?.isSome = b.asArray?.isSome := by
    intro a b hvalue
    cases hvalue <;> rfl
  refine (alike_checkDefault h hfits _).bind fun _ _ _ => ?_
  have hinside := hscope.entering h
  refine (alike_itemSchema hinside h).bind fun items found hitems => ?_
  refine (hinside.child "[]").bind fun next below hnext => ?_
  refine (hinner name true hnext hitems).bind fun item part hitem => ?_
  refine alike_checkType (.array ?_ hitem) _
  exact ⟨rfl, h.get? "default", rfl, rfl, rfl⟩

/-! ## Groups -/

/-- Both schemas have properties, or none of them has. -/
theorem alike_readProperties (h : Schema.Reordered first second) :
    Alike Schema.Reordered (readProperties field first) (readProperties field second) := by
  rcases h.cases_get? "properties" with ⟨hfirst, hsecond⟩ | ⟨a, b, hfirst, hsecond, hvalue⟩
  · simp only [readProperties, hfirst, hsecond]
    exact .error _ _
  · simp only [readProperties, hfirst, hsecond]
    cases hvalue with
    | object hone hother hvalues => exact .ok ⟨hone, hother, hvalues⟩
    | _ => exact .error _ _

/-- The same names are required. -/
theorem alike_requiredNames (h : Schema.Reordered first second) :
    Alike (· = ·) (requiredNames field first) (requiredNames field second) := by
  rcases h.cases_get? "required" with ⟨hfirst, hsecond⟩ | ⟨a, b, hfirst, hsecond, hvalue⟩
  · simp only [requiredNames, hfirst, hsecond]
    exact .refl _
  · simp only [requiredNames, hfirst, hsecond]
    cases hvalue with
    | array hitems =>
        refine Alike.mapM_eq (fun one other hname => ?_) hitems
        cases hname with
        | string text => exact .refl _
        | _ => exact .error _ _
    | object hone hother hvalues => exact .error _ _
    | _ => exact .refl _

/-- The unions and references of two properties are resolved alike. -/
theorem alike_resolveProperty (hscope : scope.Reordered place)
    (h : Schema.Reordered first second) :
    Alike Schema.Reordered (resolveProperty scope field first)
      (resolveProperty place field second) := by
  simp only [resolveProperty, h.has_eq "allOf"]
  split
  · exact Schema.alike_collapseAllOf hscope.definitions h
  · have hfollow : Alike Schema.Reordered (Schema.follow scope.definitions field first first)
        (Schema.follow place.definitions field second second) :=
      Schema.alike_follow hscope.definitions h h
    rcases h.cases_get? "anyOf" with ⟨hfirst, hsecond⟩ | ⟨a, b, hfirst, hsecond, hvalue⟩
    · simp only [hfirst, hsecond]
      exact hfollow
    · simp only [hfirst, hsecond]
      cases hvalue with
      | array hitems =>
          cases hitems with
          | nil => exact hfollow
          | cons hbranch hrest =>
              refine (Schema.alike_collapseAnyOf hscope.definitions h).bind ?_
              rintro ⟨type, schema⟩ ⟨_, found⟩ ⟨rfl, hschema⟩
              exact .ok (hschema.putNew "type" (.string type))
      | _ => exact hfollow

/-- Two properties have a schema with a single type alike. -/
theorem alike_propertySchema (hscope : scope.Reordered place) (h : Schema.Reordered first second) :
    Alike Schema.Reordered (propertySchema scope field first)
      (propertySchema place field second) := by
  refine (alike_resolveProperty hscope h).bind fun resolved found hresolved => ?_
  refine (Schema.alike_collapseTypes hresolved).bind fun collapsed result hcollapsed => ?_
  have htyped := reordered_withTextChoices hcollapsed
  simp only [checkHasType, htyped.has_eq "type"]
  split
  · exact .ok htyped
  · exact .error _ _

/-- Two properties of a name are built alike. -/
theorem alike_buildProperty (hinner : BuildsAlike inner) (hscope : scope.Reordered place)
    (required : List String) (name : String) {value other : Json} (h : value.Reordered other) :
    Alike Field.Reordered (buildProperty inner scope required name value)
      (buildProperty inner place required name other) := by
  refine (hscope.child name).bind fun child below hchild => ?_
  rw [hchild.path_eq]
  refine (Schema.alike_ofJson h).bind fun property found hproperty => ?_
  refine (alike_propertySchema hchild hproperty).bind fun schema result hschema => ?_
  exact hinner name _ hchild hschema

/-- Properties are built when each of them is. -/
theorem exists_buildProperties_iff {required : List String} {properties : List (String × Json)} :
    (∃ fields, buildProperties inner scope required properties = .ok fields) ↔
      ∀ entry ∈ properties, ∃ field,
        buildProperty inner scope required entry.1 entry.2 = .ok field := by
  induction properties with
  | nil => simp [buildProperties]
  | cons entry rest ih =>
      obtain ⟨name, value⟩ := entry
      rw [List.forall_mem_cons, ← ih]
      simp only [buildProperties, bind_eq_ok, pure_eq_ok]
      constructor
      · rintro ⟨_, field, hfield, others, hothers, rfl⟩
        exact ⟨⟨field, hfield⟩, others, hothers⟩
      · rintro ⟨⟨field, hfield⟩, others, hothers⟩
        exact ⟨_, field, hfield, others, hothers, rfl⟩

/-- There is no field of a name that is no property. -/
theorem get?_buildProperties_of_none {required : List String} {properties : Schema}
    {fields : Entries Field} {name : String}
    (h : buildProperties inner scope required properties = .ok fields)
    (hname : properties.get? name = none) : fields.get? name = none := by
  rw [Entries.get?_eq_none_iff] at hname ⊢
  rwa [names_buildProperties h]

/-- Properties are built alike in any order. -/
theorem alike_buildProperties (hinner : BuildsAlike inner) (hscope : scope.Reordered place)
    (required : List String) (h : Schema.Reordered first second) :
    Alike (Entries.Reordered Field.Reordered) (buildProperties inner scope required first)
      (buildProperties inner place required second) := by
  refine alike_of_exists_iff ?_ fun fields parts hfields hparts => ?_
  · rw [exists_buildProperties_iff, exists_buildProperties_iff]
    exact h.forall_iff fun name a b hvalue =>
      (alike_buildProperty hinner hscope required name hvalue).exists_iff
  · refine ⟨?_, ?_, fun name => ?_⟩
    · rw [names_buildProperties hfields]
      exact h.nodup_first
    · rw [names_buildProperties hparts]
      exact h.nodup_second
    · rcases h.cases_get? name with ⟨hfirst, hsecond⟩ | ⟨a, b, hfirst, hsecond, hvalue⟩
      · rw [get?_buildProperties_of_none hfields hfirst,
          get?_buildProperties_of_none hparts hsecond]
        exact .none
      · obtain ⟨one, hone, hbuilt⟩ := exists_get?_of_buildProperties hfields hfirst
        obtain ⟨other, hother, hmade⟩ := exists_get?_of_buildProperties hparts hsecond
        rw [hone, hother]
        have halike := alike_buildProperty hinner hscope required name hvalue
        exact .some (halike.related_of_ok hbuilt hmade)

/-- Groups are built alike. -/
theorem alike_buildObject (hinner : BuildsAlike inner) (hscope : scope.Reordered place)
    (h : Schema.Reordered first second) (name : String) (required : Bool) :
    Alike Field.Reordered (buildObject inner scope name required first)
      (buildObject inner place name required second) := by
  simp only [buildObject, hscope.location_eq name, hscope.settings_eq]
  refine (alike_checkKeys h .object).bind fun _ _ _ => ?_
  refine (alike_readHeader h name required).bind ?_
  rintro header _ rfl
  refine (alike_readProperties h).bind fun properties written hproperties => ?_
  refine (alike_requiredNames h).bind ?_
  rintro names _ rfl
  have hfits : ∀ a b : Json, a.Reordered b → a.asObject?.isSome = b.asObject?.isSome := by
    intro a b hvalue
    cases hvalue <;> rfl
  refine (alike_checkDefault h hfits _).bind fun _ _ _ => ?_
  refine (alike_buildProperties hinner (hscope.entering h) names hproperties).bind ?_
  intro fields parts hfields
  refine alike_checkType (.object ?_ hfields.nodup_first hfields.nodup_second hfields.get?) _
  exact ⟨rfl, h.get? "default", rfl, rfl, rfl⟩

/-! ## The choice of a builder -/

/-- The builder for a kind builds alike when that of the parts does. -/
theorem alike_run (hinner : BuildsAlike inner) (kind : FieldKind) :
    BuildsAlike (run inner (.ofKind kind)) := by
  intro scope place first second name required hscope h
  cases kind with
  | boolean => exact alike_buildBoolean hscope h name required
  | string => exact alike_buildString hscope h name required
  | number => exact alike_buildNumber hscope h name required
  | array => exact alike_buildArray hinner hscope h name required
  | object => exact alike_buildObject hinner hscope h name required

/-- The same builder is found. -/
theorem find_eq (registry : Registry) (type : String) (h : Schema.Reordered first second) :
    registry.find field type first = registry.find field type second := by
  rcases h.cases_get? "format" with ⟨hfirst, hsecond⟩ | ⟨a, b, hfirst, hsecond, hvalue⟩
  · simp only [Registry.find, hfirst, hsecond]
  · simp only [Registry.find, hfirst, hsecond]
    cases hvalue <;> rfl

/-- The builder that is chosen for a schema builds alike when that of the parts does. -/
theorem buildsAlike_choose (hinner : BuildsAlike inner) : BuildsAlike (choose inner) := by
  intro scope place first second name required hscope h
  simp only [choose, hscope.location_eq name, ← hscope.registry_eq]
  refine (alike_readType h).bind ?_
  rintro type _ rfl
  rw [← find_eq scope.registry type h]
  cases hfind : scope.registry.find (place.location name) type first with
  | error error => exact .error _ _
  | ok builder =>
      obtain ⟨kind, rfl⟩ := exists_kind_of_find hscope.isBuiltIn hfind
      exact alike_run hinner kind name required hscope h

/-- Fields are built alike, however many levels may lie below them. -/
theorem buildsAlike_levels (room : Nat) : BuildsAlike (levels room) := by
  induction room with
  | zero =>
      intro scope place first second name required hscope h
      exact .error _ _
  | succ room ih => exact buildsAlike_choose ih

end Building

/-! ## Whole forms -/

namespace Form

/-- Schemas in another order give their forms the same name. -/
theorem nameOf_eq {first second : Schema} (h : Schema.Reordered first second) :
    nameOf first = nameOf second := by
  rcases h.cases_get? "title" with ⟨hfirst, hsecond⟩ | ⟨a, b, hfirst, hsecond, hvalue⟩
  · simp only [nameOf, hfirst, hsecond]
  · simp only [nameOf, hfirst, hsecond]
    cases hvalue <;> rfl

/-- A form does not depend on the order of keys in its schema: two schemas that differ only in this
order have no forms, or else forms that differ only in the order in which groups list their fields
and in the order of keys in defaults. -/
theorem alike_compile {registry : Registry} (hregistry : registry.IsBuiltIn) (settings : Settings)
    {first second : Json} (h : first.Reordered second) :
    Alike Reordered (compile registry settings first) (compile registry settings second) := by
  cases h with
  | @object entries others hfirst hsecond hvalues =>
      have hschema : Schema.Reordered entries others := ⟨hfirst, hsecond, hvalues⟩
      have hscope : (Scope.root registry settings).Reordered (Scope.root registry settings) :=
        ⟨hregistry, rfl, rfl, .none, rfl, rfl⟩
      simp only [compile, nameOf_eq hschema]
      have hlevels := Building.buildsAlike_levels (Scope.root registry settings).room
      refine (Building.alike_run hlevels .object _ false hscope hschema).bind ?_
      exact fun root other hroot => .ok ⟨hroot, rfl⟩
  | _ => exact .error _ _

/-- A schema with a choice that leads to a definition and with a group that has a default. -/
def parasolSchema : Json :=
  .object
    [("type", .string "object"),
      ("$defs",
        .object
          [("Color",
            .object
              [("type", .string "string"), ("enum", .array [.string "red", .string "blue"])])]),
      ("properties",
        .object
          [("color",
              .object
                [("anyOf",
                    .array
                      [.object [("$ref", .string "#/$defs/Color")],
                        .object [("type", .string "null")]]),
                  ("default", .string "red")]),
            ("size",
              .object
                [("type", .string "object"),
                  ("properties",
                    .object
                      [("width", .object [("type", .string "integer")]),
                        ("height",
                          .object
                            [("type", .string "integer"), ("minimum", .number (.integer 1))])]),
                  ("default",
                    .object
                      [("width", .number (.integer 3)), ("height", .number (.integer 4))])])])]

/-- The same schema with all keys the other way round. -/
def turnedParasolSchema : Json :=
  .object
    [("properties",
        .object
          [("size",
              .object
                [("default",
                    .object
                      [("height", .number (.integer 4)), ("width", .number (.integer 3))]),
                  ("properties",
                    .object
                      [("height",
                          .object
                            [("minimum", .number (.integer 1)), ("type", .string "integer")]),
                        ("width", .object [("type", .string "integer")])]),
                  ("type", .string "object")]),
            ("color",
              .object
                [("default", .string "red"),
                  ("anyOf",
                    .array
                      [.object [("$ref", .string "#/$defs/Color")],
                        .object [("type", .string "null")]])])]),
      ("$defs",
        .object
          [("Color",
            .object
              [("enum", .array [.string "red", .string "blue"]), ("type", .string "string")])]),
      ("type", .string "object")]

/-- Both schemas of a parasol have the same form, whose fields stand in the order of the schema. -/
theorem alike_compile_parasolSchema :
    parasolSchema.Reordered turnedParasolSchema ∧
      ∃ form other, compile Registry.standard {} parasolSchema = .ok form ∧
        compile Registry.standard {} turnedParasolSchema = .ok other ∧ form.Reordered other ∧
          form.fields.names = ["color", "size"] ∧ other.fields.names = ["size", "color"] := by
  have hreordered : parasolSchema.Reordered turnedParasolSchema := by decide +kernel
  have hform :
      (passes (compile Registry.standard {} parasolSchema) fun form =>
        form.fields.names == ["color", "size"]) = true := by
    decide +kernel
  have hother :
      (passes (compile Registry.standard {} turnedParasolSchema) fun form =>
        form.fields.names == ["size", "color"]) = true := by
    decide +kernel
  simp only [passes_iff, beq_iff_eq] at hform hother
  obtain ⟨form, hform, hnames⟩ := hform
  obtain ⟨other, hother, hturned⟩ := hother
  have halike := alike_compile Registry.isBuiltIn_standard {} hreordered
  exact ⟨hreordered, form, other, hform, hother, halike.related_of_ok hform hother, hnames, hturned⟩

end Form
end SchemaForm
