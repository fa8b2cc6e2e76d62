import SchemaForm.Form.Basic
import SchemaForm.Proofs.Schema.Proper

/-!
# Fields that are built

What a field looks like that compiling has made.  There is one case for each
builder, and the parts of a field are built in turn, so that a property of
all compiled fields is shown by induction on how they were built.

Main results:

- Theorem `header_of_run`, Theorem `head_of_run`: the builder for a kind makes a field of that kind,
  with the head that the schema has and the type that it names.
- Theorem `exists_item_of_run`, Theorem `exists_fields_of_run`: the parts of what the builders for
  lists and groups make.
- Theorem `exists_child_of_mem`: each field of a group is built one level below it, from the schema
  of one of its properties.
- Theorem `exists_builder_of_choose`: a field is made by a builder that is registered.
- Definition `Registry.Keeps`: what the builders beside those for kinds hand on from the parts that
  they have built to the whole.
- Theorem `makes_levels`: what each registered builder hands on, every field has that is built.
- Theorem `exists_run_of_compile`: the root of a form is the group that its schema describes.
- Theorem `builds_levels`: whatever a registry makes at a place of a schema is a built field.
- Theorem `built_of_compile`: the root of a form is a built group.
-/

namespace SchemaForm

open Result

/-- A field that is neither a list nor a group is a switch, a text field or a number field. -/
theorem Field.cases_leaf {field : Field} (h : field.kind ≠ .array ∧ field.kind ≠ .object) :
    (∃ spec, field = .boolean spec) ∨ (∃ spec, field = .string spec) ∨
      ∃ spec, field = .number spec := by
  cases field with
  | boolean spec => exact .inl ⟨spec, rfl⟩
  | string spec => exact .inr (.inl ⟨spec, rfl⟩)
  | number spec => exact .inr (.inr ⟨spec, rfl⟩)
  | array => exact absurd rfl h.1
  | object => exact absurd rfl h.2

/-! ## Registries -/

namespace Context

/-- The definitions in force at a place have distinct keys. -/
def Proper (context : Context) : Prop :=
  ∀ definitions, context.definitions = some definitions → Schema.Proper definitions

/-- The parts that a builder has built at a place have a property that may depend on whether they
are required and on their schemas. -/
def PartsHave (context : Context) (keyed : Prop) (property : Bool → Schema → Field → Prop) :
    Prop :=
  ∀ ⦃own : Schema⦄ ⦃step name : String⦄ ⦃required : Bool⦄ ⦃schema : Schema⦄ ⦃part : Field⦄,
    (keyed → own.Proper ∧ schema.Proper) →
      context.part own step name required schema = .ok part → property required schema part

end Context

/-- A builder keeps a property when it makes fields that have it, provided that the parts have it
that it has built.  The property may depend on the settings, on whether a field is required and on
its schema.  When the keys of schemas are known to be distinct (`keyed`), no other schemas need to
be considered. -/
def Constructor.Keeps (build : Constructor) (keyed : Prop)
    (property : Settings → Bool → Schema → Field → Prop) : Prop :=
  ∀ context name required schema field, (keyed → context.Proper ∧ schema.Proper) →
    context.PartsHave keyed (property context.settings) → field.foreignPart? = none →
      build context name required schema = .ok field →
        property context.settings required schema field

namespace Registry

/-- Only the builders for the five kinds of fields are registered, under any keys. -/
def IsBuiltIn (registry : Registry) : Prop :=
  ∀ entry ∈ registry.builders, ∃ kind, entry.2 = .ofKind kind

/-- The other builders make fields without parts under the patterns of the settings. -/
def IsRegular (registry : Registry) : Prop :=
  ∀ key build, (key, Builder.custom build) ∈ registry.builders →
    ∀ context name required schema field, build context name required schema = .ok field →
      (field.kind ≠ .array ∧ field.kind ≠ .object) ∧
        field.spec.patterns = context.settings.patterns

/-- The other builders keep a property. -/
def Keeps (registry : Registry) (keyed : Prop)
    (property : Settings → Bool → Schema → Field → Prop) : Prop :=
  ∀ key build, (key, Builder.custom build) ∈ registry.builders →
    Constructor.Keeps build keyed property

/-- Where only the builders for kinds are registered there are no others. -/
theorem IsBuiltIn.not_mem_custom {registry : Registry} (h : registry.IsBuiltIn) (key : String)
    (build : Constructor) : (key, Builder.custom build) ∉ registry.builders := by
  intro hbuild
  obtain ⟨kind, hkind⟩ := h _ hbuild
  cases hkind

/-- Where there are no other builders they are regular. -/
theorem IsBuiltIn.isRegular {registry : Registry} (h : registry.IsBuiltIn) :
    registry.IsRegular :=
  fun key build hbuild => absurd hbuild (h.not_mem_custom key build)

/-- Where there are no other builders they keep every property. -/
theorem IsBuiltIn.keeps {registry : Registry} (h : registry.IsBuiltIn) (keyed : Prop)
    (property : Settings → Bool → Schema → Field → Prop) : registry.Keeps keyed property :=
  fun key build hbuild => absurd hbuild (h.not_mem_custom key build)

/-- A builder may be registered where the others keep a property, if it keeps the property. -/
theorem Keeps.register {registry : Registry} {keyed : Prop}
    {property : Settings → Bool → Schema → Field → Prop} (h : registry.Keeps keyed property)
    {build : Constructor} (hbuild : Constructor.Keeps build keyed property) (type : String)
    (format : Option String) :
    (registry.register type format (.custom build)).Keeps keyed property := by
  intro key other hother
  rcases Entries.mem_put hother with hsame | hother
  · cases hsame
    exact hbuild
  · exact h key other hother

/-- A builder that has no parts built may be registered among regular ones, if it makes fields
without parts under the patterns of the settings. -/
theorem IsRegular.register_leaf {registry : Registry} (h : registry.IsRegular)
    {build : LeafBuilder}
    (hbuild : ∀ settings location name required schema field,
      build settings location name required schema = .ok field →
        (field.kind ≠ .array ∧ field.kind ≠ .object) ∧ field.spec.patterns = settings.patterns)
    (type : String) (format : Option String) :
    (registry.register type format (.leaf build)).IsRegular := by
  intro key other hother
  rcases Entries.mem_put hother with hsame | hother
  · cases hsame
    exact fun context name required schema field hfield => hbuild _ _ _ _ _ _ hfield
  · exact h key other hother

/-- Registering a builder for a kind adds no other builder. -/
theorem IsBuiltIn.register {registry : Registry} (h : registry.IsBuiltIn) (type : String)
    (format : Option String) (kind : FieldKind) :
    (registry.register type format (.ofKind kind)).IsBuiltIn := by
  intro entry hentry
  rcases Entries.mem_put hentry with rfl | hentry
  · exact ⟨kind, rfl⟩
  · exact h entry hentry

/-- Removing a builder adds none. -/
theorem IsBuiltIn.unregister {registry : Registry} (h : registry.IsBuiltIn) (type : String)
    (format : Option String) : (registry.unregister type format).IsBuiltIn := by
  intro entry hentry
  exact h entry (List.mem_filter.mp hentry).1

/-- The standard registry has the builders for the five kinds. -/
theorem isBuiltIn_standard : standard.IsBuiltIn := by
  have hempty : empty.IsBuiltIn := by
    intro entry hentry
    cases hentry
  exact (((((hempty.register _ _ _).register _ _ _).register _ _ _).register _ _ _).register
    _ _ _).register _ _ _

/-- A builder that is found for a schema is registered. -/
theorem mem_of_find {registry : Registry} {field type : String} {schema : Schema}
    {builder : Builder} (h : registry.find field type schema = .ok builder) :
    ∃ key, (key, builder) ∈ registry.builders := by
  simp only [find] at h
  split at h
  · rename_i found hfound
    simp only [Except.ok.injEq] at h
    subst h
    rcases Option.or_eq_some_iff.mp hfound with hformat | ⟨-, htype⟩
    · split at hformat
      · exact ⟨_, Entries.mem_of_get? hformat⟩
      · cases hformat
    · exact ⟨_, Entries.mem_of_get? htype⟩
  · cases h

end Registry

namespace Building

/-! ## The shape of built fields -/

/-- The fields that the builders of a registry make under settings.  When the keys of the schema
are distinct (`keyed`), so are the names of every group. -/
inductive Built (registry : Registry) (settings : Settings) (keyed : Prop) : Field → Prop where
  | boolean {header : Header} {default : Option Json} (htype : header.type = "boolean")
      (hdefault : ∀ value ∈ default, value = .null ∨ ∃ on, value = .bool on) :
      Built registry settings keyed
        (.boolean ⟨header, { default := default }, [], settings.patterns⟩)
  | string {header : Header} {default : Option Json} {format : Option String}
      {choices : Option (List String)} {maxLength : Option Nat} {restriction : Option Restriction}
      (htype : header.type = "string") :
      Built registry settings keyed
        (.string
          ⟨header,
            { default := default
              format := format
              choices := choices
              suggester := choices.isSome && settings.suggestChoices
              maxLength := maxLength
              restriction := restriction
              password := format == some "password" },
            [], settings.patterns⟩)
  | number {header : Header} {default : Option Json} {format : Option String}
      {bounds : Option Bounds} (htype : header.type = "integer" ∨ header.type = "number") :
      Built registry settings keyed
        (.number
          ⟨header, { default := default, format := format, bounds := bounds },
            numberRules header.type bounds, settings.patterns⟩)
  | array {header : Header} {default : Option Json} {minItems maxItems : Option Nat} {item : Field}
      (htype : header.type = "array")
      (hdefault : ∀ value ∈ default, value = .null ∨ ∃ items, value = .array items)
      (hitem : Built registry settings keyed item)
      (hgroup : registry.IsRegular → item.kind ≠ .object) :
      Built registry settings keyed
        (.array
          ⟨header, { default := default, minItems := minItems, maxItems := maxItems }, [],
            settings.patterns⟩
          item)
  | object {header : Header} {default : Option Json} {fields : List (String × Field)}
      (htype : header.type = "object")
      (hdefault : ∀ value ∈ default, value = .null ∨ ∃ entries, value = .object entries)
      (hnames : keyed → (Entries.names fields).Nodup)
      (hfields : ∀ entry ∈ fields, Built registry settings keyed entry.2) :
      Built registry settings keyed
        (.object ⟨header, { default := default }, [], settings.patterns⟩ fields)
  | other {key : String} {build : Constructor} {context : Context} {name : String}
      {required : Bool} {schema : Schema} {field : Field}
      (hbuild : (key, Builder.custom build) ∈ registry.builders)
      (hsettings : context.settings = settings) (hproper : keyed → context.Proper ∧ schema.Proper)
      (hparts : ∀ ⦃own : Schema⦄ ⦃step name : String⦄ ⦃required : Bool⦄ ⦃schema : Schema⦄
        ⦃part : Field⦄, (keyed → own.Proper ∧ schema.Proper) →
          context.part own step name required schema = .ok part →
            Built registry settings keyed part)
      (htypes : field.foreignPart? = none)
      (hfield : build context name required schema = .ok field) :
      Built registry settings keyed field

/-! ## Steps of the builders -/

/-- A type that is checked belongs to the kind of the field. -/
theorem checkType_eq_ok {location : String} {field built : Field} :
    checkType location field = .ok built ↔
      field = built ∧ field.header.type ∈ field.kind.types := by
  simp only [checkType, List.contains_iff_mem]
  split
  · rename_i htype
    simp [htype]
  · rename_i htype
    simp [htype]

/-- A default that is checked is `null` or fits. -/
theorem fits_of_checkDefault {fits : Json → Bool} {cause : Json → Cause} {field : String}
    {schema : Schema} (h : checkDefault fits cause field schema = .ok ()) :
    ∀ value ∈ schema.get? "default", value = .null ∨ fits value = true := by
  intro value hvalue
  rw [Option.mem_def] at hvalue
  simp only [checkDefault, hvalue] at h
  split at h
  · rename_i heq
    cases heq
  · rename_i heq
    cases heq
    exact .inl rfl
  · rename_i heq
    cases heq
    split at h
    · exact .inr ‹_›
    · cases h

/-- The head of a field has the type that the schema names. -/
theorem type_of_readHeader {field name : String} {required : Bool} {schema : Schema}
    {header : Header} (h : readHeader field name required schema = .ok header) :
    schema.get? "type" = some (.string header.type) := by
  simp only [readHeader, bind_eq_ok, pure_eq_ok] at h
  obtain ⟨type, htype, -, -, -, -, rfl⟩ := h
  simp only [readType] at htype
  split at htype
  · rename_i hget
    cases htype
    exact hget
  · cases htype
  · cases htype

variable {registry : Registry} {settings : Settings} {keyed : Prop}

/-- A switch is built. -/
theorem built_buildBoolean {scope : Scope} {name : String} {required : Bool} {schema : Schema}
    {field : Field} (h : buildBoolean scope name required schema = .ok field) :
    Built registry scope.settings keyed field := by
  simp only [buildBoolean, bind_eq_ok, checkType_eq_ok] at h
  obtain ⟨-, -, header, -, ⟨⟩, hdefault, rfl, htype⟩ := h
  refine .boolean (by simpa [Field.kind, Field.header, Field.spec, FieldKind.types] using htype) ?_
  intro value hvalue
  refine (fits_of_checkDefault hdefault value hvalue).imp_right ?_
  intro hfits
  cases value <;> simp_all [Json.asBool?]

/-- A text field is built. -/
theorem built_buildString {scope : Scope} {name : String} {required : Bool} {schema : Schema}
    {field : Field} (h : buildString scope name required schema = .ok field) :
    Built registry scope.settings keyed field := by
  simp only [buildString, bind_eq_ok, checkType_eq_ok] at h
  obtain ⟨-, -, header, -, choices, -, maxLength, -, restriction, -, format, -, rfl, htype⟩ := h
  exact .string (by simpa [Field.kind, Field.header, Field.spec, FieldKind.types] using htype)

/-- A number field is built. -/
theorem built_buildNumber {scope : Scope} {name : String} {required : Bool} {schema : Schema}
    {field : Field} (h : buildNumber scope name required schema = .ok field) :
    Built registry scope.settings keyed field := by
  simp only [buildNumber, bind_eq_ok, checkType_eq_ok] at h
  obtain ⟨-, -, header, -, -, -, bounds, -, format, -, rfl, htype⟩ := h
  exact .number (by simpa [Field.kind, Field.header, Field.spec, FieldKind.types] using htype)

/-- The names of the fields of a group are the keys of its properties. -/
theorem names_buildProperties {inner : Build} {scope : Scope} {required : List String}
    {properties : List (String × Json)} {fields : List (String × Field)}
    (h : buildProperties inner scope required properties = .ok fields) :
    Entries.names fields = Entries.names properties := by
  induction properties generalizing fields with
  | nil =>
      simp only [buildProperties, Except.ok.injEq] at h
      rw [← h]
      rfl
  | cons entry rest ih =>
      obtain ⟨name, value⟩ := entry
      simp only [buildProperties, bind_eq_ok, pure_eq_ok] at h
      obtain ⟨field, -, others, hothers, rfl⟩ := h
      have hnames := ih hothers
      simp only [Entries.names] at hnames
      simp [Entries.names, hnames]

/-- Places in a schema, with the settings and the registry of its root. -/
structure Inside (registry : Registry) (settings : Settings) (keyed : Prop) (scope : Scope) :
    Prop where
  registry_eq : scope.registry = registry
  settings_eq : scope.settings = settings
  proper : keyed → scope.Proper

/-- Builders of fields with a property, inside a schema. -/
def Makes (registry : Registry) (settings : Settings) (keyed : Prop)
    (property : Bool → Schema → Field → Prop) (build : Build) : Prop :=
  ∀ ⦃scope : Scope⦄ ⦃name : String⦄ ⦃required : Bool⦄ ⦃schema : Schema⦄ ⦃field : Field⦄,
    Inside registry settings keyed scope → (keyed → schema.Proper) →
      build scope name required schema = .ok field → property required schema field

/-- Builders that only make built fields, and groups only from schemas for groups. -/
abbrev Builds (registry : Registry) (settings : Settings) (keyed : Prop) (build : Build) : Prop :=
  Makes registry settings keyed
    (fun _ schema field => Built registry settings keyed field ∧
      (registry.IsRegular → field.kind = .object → schema.get? "type" = some (.string "object")))
    build

/-- The root of a schema is inside. -/
theorem inside_root : Inside registry settings keyed (Scope.root registry settings) := by
  refine ⟨rfl, rfl, fun _ definitions hdefinitions => ?_⟩
  cases hdefinitions

/-- The definitions of a schema keep a place inside. -/
theorem Inside.entering {scope : Scope} {schema : Schema}
    (h : Inside registry settings keyed scope) (hschema : keyed → schema.Proper) :
    Inside registry settings keyed (scope.entering schema) := by
  refine ⟨?_, ?_, fun hkeyed => proper_entering (h.proper hkeyed) (hschema hkeyed)⟩
  · rw [← h.registry_eq]
    unfold Scope.entering
    split <;> rfl
  · rw [← h.settings_eq]
    unfold Scope.entering
    split <;> rfl

/-- A step down keeps a place inside. -/
theorem Inside.child {scope next : Scope} {step : String}
    (h : Inside registry settings keyed scope) (hnext : scope.child step = .ok next) :
    Inside registry settings keyed next := by
  have hproper : keyed → next.Proper := fun hkeyed => proper_child (h.proper hkeyed) hnext
  simp only [Scope.child] at hnext
  split at hnext
  · cases hnext
  · cases hnext
    exact ⟨h.registry_eq, h.settings_eq, hproper⟩

/-- The items of a list are not described by a schema for groups. -/
theorem type_itemSchema {scope : Scope} {field : String} {schema items : Schema}
    (h : itemSchema scope field schema = .ok items) :
    items.get? "type" ≠ some (.string "object") := by
  simp only [itemSchema, bind_eq_ok] at h
  obtain ⟨-, -, -, -, -, -, collapsed, -, h⟩ := h
  unfold checkItemType at h
  split at h
  · rename_i type htype
    split at h
    · cases h
    · rename_i hobject
      simp only [Except.ok.injEq] at h
      rw [← h, htype]
      simpa using hobject
  · cases h

/-- A list is built when its items are. -/
theorem built_buildArray {inner : Build} (hinner : Builds registry settings keyed inner)
    {scope : Scope} {name : String} {required : Bool} {schema : Schema} {field : Field}
    (hscope : Inside registry settings keyed scope) (hschema : keyed → schema.Proper)
    (h : buildArray inner scope name required schema = .ok field) :
    Built registry settings keyed field := by
  simp only [buildArray, bind_eq_ok, checkType_eq_ok] at h
  obtain ⟨-, -, header, -, minItems, -, maxItems, -, ⟨⟩, hdefault, items, hitems, next, hnext,
    item, hitem, rfl, htype⟩ := h
  have hinside := hscope.entering hschema
  have hproper : keyed → items.Proper :=
    fun hkeyed => proper_itemSchema (hinside.proper hkeyed) (hschema hkeyed) hitems
  obtain ⟨hbuilt, hgroup⟩ := hinner (hinside.child hnext) hproper hitem
  rw [hscope.settings_eq]
  refine .array (by simpa [Field.kind, Field.header, Field.spec, FieldKind.types] using htype) ?_
    hbuilt fun hregular hobject => type_itemSchema hitems (hgroup hregular hobject)
  intro value hvalue
  refine (fits_of_checkDefault hdefault value hvalue).imp_right ?_
  intro hfits
  cases value <;> simp_all [Json.asArray?]

/-- Each field of a group is built one level below it, from the schema into which the property of
its name resolves. -/
theorem exists_child_of_mem {inner : Build} {scope : Scope} {names : List String}
    {properties : List (String × Json)} {fields : List (String × Field)}
    (h : buildProperties inner scope names properties = .ok fields) {entry : String × Field}
    (hentry : entry ∈ fields) :
    ∃ value child property schema, (entry.1, value) ∈ properties ∧
      scope.child entry.1 = .ok child ∧ Schema.ofJson child.path value = .ok property ∧
        propertySchema child child.path property = .ok schema ∧
          inner child entry.1 (names.contains entry.1) schema = .ok entry.2 := by
  induction properties generalizing fields with
  | nil =>
      cases h
      cases hentry
  | cons first rest ih =>
      obtain ⟨name, value⟩ := first
      simp only [buildProperties, bind_eq_ok, pure_eq_ok] at h
      obtain ⟨field, hfield, others, hothers, rfl⟩ := h
      rcases List.mem_cons.mp hentry with rfl | hentry
      · simp only [buildProperty, bind_eq_ok] at hfield
        obtain ⟨child, hchild, property, hproperty, schema, hschema, hfield⟩ := hfield
        exact ⟨value, child, property, schema, List.mem_cons_self, hchild, hproperty, hschema,
          hfield⟩
      · obtain ⟨found, child, property, schema, hfound, hbuilt⟩ := ih hothers hentry
        exact ⟨found, child, property, schema, List.mem_cons_of_mem _ hfound, hbuilt⟩

/-- The properties of a group are built when each of them is. -/
theorem built_buildProperties {inner : Build} (hinner : Builds registry settings keyed inner)
    {scope : Scope} {required : List String} {properties : List (String × Json)}
    {fields : List (String × Field)} (hscope : Inside registry settings keyed scope)
    (hproperties : keyed → ∀ entry ∈ properties, Json.Proper entry.2)
    (h : buildProperties inner scope required properties = .ok fields) :
    ∀ entry ∈ fields, Built registry settings keyed entry.2 := by
  intro entry hentry
  obtain ⟨value, child, property, schema, hvalue, hchild, hproperty, hschema, hfield⟩ :=
    exists_child_of_mem h hentry
  have hinside := hscope.child hchild
  have hproper : keyed → schema.Proper := by
    intro hkeyed
    have hdocument := hproperties hkeyed _ hvalue
    exact proper_propertySchema (hinside.proper hkeyed)
      (Schema.proper_ofJson hdocument hproperty) hschema
  exact (hinner hinside hproper hfield).1

/-- A group is built when its fields are. -/
theorem built_buildObject {inner : Build} (hinner : Builds registry settings keyed inner)
    {scope : Scope} {name : String} {required : Bool} {schema : Schema} {field : Field}
    (hscope : Inside registry settings keyed scope) (hschema : keyed → schema.Proper)
    (h : buildObject inner scope name required schema = .ok field) :
    Built registry settings keyed field := by
  simp only [buildObject, bind_eq_ok, checkType_eq_ok] at h
  obtain ⟨-, -, header, -, properties, hproperties, names, -, ⟨⟩, hdefault, fields, hfields, rfl,
    htype⟩ := h
  have hproper : keyed → Schema.Proper properties :=
    fun hkeyed => proper_readProperties (hschema hkeyed) hproperties
  rw [hscope.settings_eq]
  refine .object (by simpa [Field.kind, Field.header, Field.spec, FieldKind.types] using htype) ?_
    ?_ ?_
  · intro value hvalue
    refine (fits_of_checkDefault hdefault value hvalue).imp_right ?_
    intro hfits
    cases value <;> simp_all [Json.asObject?]
  · intro hkeyed
    rw [names_buildProperties hfields]
    exact (hproper hkeyed).nodup_names
  · exact built_buildProperties hinner (hscope.entering hschema)
      (fun hkeyed entry hentry => (hproper hkeyed).entry hentry) hfields

/-! ## Whole forms -/

/-- The builder for a kind makes a field of that kind, with a head from the schema and a type of
that kind. -/
theorem header_of_run {inner : Build} {kind : FieldKind} {scope : Scope} {name : String}
    {required : Bool} {schema : Schema} {field : Field}
    (h : run inner (.ofKind kind) scope name required schema = .ok field) :
    field.kind = kind ∧
      readHeader (scope.location name) name required schema = .ok field.header ∧
        field.header.type ∈ kind.types := by
  cases kind with
  | boolean =>
      simp only [run, buildBoolean, bind_eq_ok, checkType_eq_ok] at h
      obtain ⟨_, _, header, hheader, _, _, rfl, htype⟩ := h
      exact ⟨rfl, hheader, htype⟩
  | string =>
      simp only [run, buildString, bind_eq_ok, checkType_eq_ok] at h
      obtain ⟨_, _, header, hheader, _, _, _, _, _, _, _, _, rfl, htype⟩ := h
      exact ⟨rfl, hheader, htype⟩
  | number =>
      simp only [run, buildNumber, bind_eq_ok, checkType_eq_ok] at h
      obtain ⟨_, _, header, hheader, _, _, _, _, _, _, rfl, htype⟩ := h
      exact ⟨rfl, hheader, htype⟩
  | array =>
      simp only [run, buildArray, bind_eq_ok, checkType_eq_ok] at h
      obtain ⟨_, _, header, hheader, _, _, _, _, _, _, _, _, _, _, _, _, rfl, htype⟩ := h
      exact ⟨rfl, hheader, htype⟩
  | object =>
      simp only [run, buildObject, bind_eq_ok, checkType_eq_ok] at h
      obtain ⟨_, _, header, hheader, _, _, _, _, _, _, _, _, rfl, htype⟩ := h
      exact ⟨rfl, hheader, htype⟩

/-- The builder for a kind makes a field of that kind whose type the schema names. -/
theorem head_of_run {inner : Build} {kind : FieldKind} {scope : Scope} {name : String}
    {required : Bool} {schema : Schema} {field : Field}
    (h : run inner (.ofKind kind) scope name required schema = .ok field) :
    field.kind = kind ∧ schema.get? "type" = some (.string field.header.type) ∧
      field.header.type ∈ kind.types := by
  obtain ⟨hkind, hheader, htype⟩ := header_of_run h
  exact ⟨hkind, type_of_readHeader hheader, htype⟩

/-- The builder for lists makes a list, whose items are built one level below it. -/
theorem exists_item_of_run {inner : Build} {scope : Scope} {name : String} {required : Bool}
    {schema : Schema} {field : Field}
    (h : run inner (.ofKind .array) scope name required schema = .ok field) :
    ∃ spec items next item, field = .array spec item ∧
      spec.attributes.default = schema.get? "default" ∧
        itemSchema (scope.entering schema) (scope.location name) schema = .ok items ∧
          (scope.entering schema).child "[]" = .ok next ∧
            inner next name true items = .ok item := by
  simp only [run, buildArray, bind_eq_ok, checkType_eq_ok] at h
  obtain ⟨_, _, _, _, _, _, _, _, _, _, items, hitems, next, hnext, item, hitem, rfl, _⟩ := h
  exact ⟨_, items, next, item, rfl, rfl, hitems, hnext, hitem⟩

/-- The builder for groups makes a group, whose fields are built from the properties. -/
theorem exists_fields_of_run {inner : Build} {scope : Scope} {name : String} {required : Bool}
    {schema : Schema} {field : Field}
    (h : run inner (.ofKind .object) scope name required schema = .ok field) :
    ∃ spec properties names fields, field = .object spec fields ∧
      spec.attributes.default = schema.get? "default" ∧
        readProperties (scope.location name) schema = .ok properties ∧
          requiredNames (scope.location name) schema = .ok names ∧
            buildProperties inner (scope.entering schema) names properties = .ok fields := by
  simp only [run, buildObject, bind_eq_ok, checkType_eq_ok] at h
  obtain ⟨_, _, _, _, properties, hproperties, names, hnames, _, _, fields, hfields, rfl, _⟩ := h
  exact ⟨_, properties, names, fields, rfl, rfl, hproperties, hnames, hfields⟩

/-- A field is made by a builder that is registered. -/
theorem exists_builder_of_choose {inner : Build} {scope : Scope} {name : String} {required : Bool}
    {schema : Schema} {field : Field}
    (h : choose inner scope name required schema = .ok field) :
    ∃ key builder, (key, builder) ∈ scope.registry.builders ∧
      run inner builder scope name required schema = .ok field := by
  simp only [choose, bind_eq_ok] at h
  obtain ⟨type, -, builder, hbuilder, hfield⟩ := h
  obtain ⟨key, hkey⟩ := Registry.mem_of_find hbuilder
  exact ⟨key, builder, hkey, hfield⟩

/-- Where only builders for kinds are registered a field is made by one of them. -/
theorem exists_kind_of_choose {inner : Build} {scope : Scope} {name : String} {required : Bool}
    {schema : Schema} {field : Field} (hregistry : scope.registry.IsBuiltIn)
    (h : choose inner scope name required schema = .ok field) :
    ∃ kind, run inner (.ofKind kind) scope name required schema = .ok field := by
  obtain ⟨key, builder, hkey, hfield⟩ := exists_builder_of_choose h
  obtain ⟨kind, rfl⟩ := hregistry _ hkey
  exact ⟨kind, hfield⟩

/-- The root of a form is the group that its schema describes. -/
theorem exists_run_of_compile {document : Json} {form : Form}
    (h : Form.compile registry settings document = .ok form) :
    ∃ schema, document = .object schema ∧
      run (levels (Scope.root registry settings).room) (.ofKind .object)
        (Scope.root registry settings) (Form.nameOf schema) false schema = .ok form.root := by
  unfold Form.compile at h
  split at h
  · rename_i schema
    simp only [bind_eq_ok, pure_eq_ok] at h
    obtain ⟨root, hroot, rfl⟩ := h
    exact ⟨schema, rfl, hroot⟩
  · cases h

/-- The builder for a kind makes a built field when the builder of the parts does. -/
theorem built_run {inner : Build} (hinner : Builds registry settings keyed inner)
    {kind : FieldKind} {scope : Scope} {name : String} {required : Bool} {schema : Schema}
    {field : Field} (hscope : Inside registry settings keyed scope)
    (hschema : keyed → schema.Proper)
    (h : run inner (.ofKind kind) scope name required schema = .ok field) :
    Built registry settings keyed field := by
  cases kind with
  | boolean => exact hscope.settings_eq ▸ built_buildBoolean h
  | string => exact hscope.settings_eq ▸ built_buildString h
  | number => exact hscope.settings_eq ▸ built_buildNumber h
  | array => exact built_buildArray hinner hscope hschema h
  | object => exact built_buildObject hinner hscope hschema h

/-- A builder beside those for kinds makes a field whose parts have types of their kinds. -/
theorem run_custom_eq_ok {inner : Build} {build : Constructor} {scope : Scope} {name : String}
    {required : Bool} {schema : Schema} {field : Field} :
    run inner (.custom build) scope name required schema = .ok field ↔
      build (context inner scope) name required schema = .ok field ∧
        field.foreignPart? = none := by
  simp only [run, bind_eq_ok, checkParts]
  constructor
  · rintro ⟨made, hmade, hchecked⟩
    split at hchecked
    · rename_i htypes
      cases hchecked
      exact ⟨hmade, htypes⟩
    · cases hchecked
  · rintro ⟨hmade, htypes⟩
    exact ⟨field, hmade, by rw [htypes]⟩

variable {property : Bool → Schema → Field → Prop} {inner : Build}

/-- The definitions in force at a place inside a proper schema are proper. -/
theorem Inside.proper_context {scope : Scope} (h : Inside registry settings keyed scope)
    (hkeyed : keyed) : (context inner scope).Proper :=
  h.proper hkeyed

/-- The parts that are built at a place are what the builder of parts makes inside the schema. -/
theorem Inside.partsHave {scope : Scope} (h : Inside registry settings keyed scope)
    (hinner : Makes registry settings keyed property inner) :
    (context inner scope).PartsHave keyed property := by
  intro own step name required schema part hproper hpart
  simp only [context, bind_eq_ok] at hpart
  obtain ⟨next, hnext, hpart⟩ := hpart
  have hinside := (h.entering fun hkeyed => (hproper hkeyed).1).child hnext
  exact hinner hinside (fun hkeyed => (hproper hkeyed).2) hpart

/-- A builder beside those for kinds keeps what the registry says of it. -/
theorem makes_run_custom {property : Settings → Bool → Schema → Field → Prop}
    (hregistry : registry.Keeps keyed property) {key : String} {build : Constructor}
    (hbuild : (key, Builder.custom build) ∈ registry.builders)
    (hinner : Makes registry settings keyed (property settings) inner) :
    Makes registry settings keyed (property settings) (run inner (.custom build)) := by
  intro scope name required schema field hscope hschema h
  obtain ⟨hfield, htypes⟩ := run_custom_eq_ok.mp h
  have hproper : keyed → (context inner scope).Proper ∧ schema.Proper :=
    fun hkeyed => ⟨hscope.proper_context hkeyed, hschema hkeyed⟩
  have hsettings : (context inner scope).settings = settings := hscope.settings_eq
  have hmade :=
    hregistry key build hbuild (context inner scope) name required schema field hproper
  rw [hsettings] at hmade
  exact hmade (hscope.partsHave hinner) htypes hfield

/-- What each registered builder hands on from the parts to the whole, every field has that is
built, however many levels may lie below it. -/
theorem makes_levels
    (hrun : ∀ {inner : Build}, Makes registry settings keyed property inner →
      ∀ key builder, (key, builder) ∈ registry.builders →
        Makes registry settings keyed property (run inner builder)) (room : Nat) :
    Makes registry settings keyed property (levels room) := by
  induction room with
  | zero =>
      intro scope name required schema field _ _ h
      cases h
  | succ room ih =>
      intro scope name required schema field hscope hschema h
      obtain ⟨key, builder, hkey, hfield⟩ := exists_builder_of_choose h
      rw [hscope.registry_eq] at hkey
      exact hrun ih key builder hkey hscope hschema hfield

/-- A registered builder makes built fields when that of the parts does. -/
theorem builds_run (hinner : Builds registry settings keyed inner) (key : String)
    (builder : Builder) (hkey : (key, builder) ∈ registry.builders) :
    Builds registry settings keyed (run inner builder) := by
  intro scope name required schema field hscope hschema h
  cases builder with
  | ofKind kind =>
      refine ⟨built_run hinner hscope hschema h, fun _ hobject => ?_⟩
      obtain ⟨hkind, hget, htype⟩ := head_of_run h
      rw [hobject] at hkind
      rw [← hkind, FieldKind.types, List.mem_singleton] at htype
      rw [hget, htype]
  | custom build =>
      obtain ⟨hfield, htypes⟩ := run_custom_eq_ok.mp h
      have hparts := hscope.partsHave hinner
      refine ⟨.other hkey hscope.settings_eq
        (fun hkeyed => ⟨hscope.proper_context hkeyed, hschema hkeyed⟩)
        (fun _ _ _ _ _ _ hproper hpart => (hparts hproper hpart).1) htypes hfield,
        fun hregular hobject => ?_⟩
      exact absurd hobject (hregular key build hkey _ _ _ _ _ hfield).1.2

/-- A field is built however many levels may lie below it. -/
theorem builds_levels (room : Nat) : Builds registry settings keyed (levels room) :=
  makes_levels builds_run room

/-- The root of a form is a built group. -/
theorem built_of_compile {schema : Json} {form : Form} (hschema : keyed → schema.Proper)
    (h : Form.compile registry settings schema = .ok form) :
    Built registry settings keyed form.root ∧ form.root.kind = .object := by
  obtain ⟨entries, rfl, hroot⟩ := exists_run_of_compile h
  exact ⟨built_run (builds_levels _) inside_root hschema hroot, (head_of_run hroot).1⟩

end Building
end SchemaForm
