import Mathlib.Logic.Function.Iterate
import SchemaForm.Proofs.Building.Built

/-!
# The limit of the depth

Building goes down a schema through references, so that it is bounded by the
limit of the depth and not by the size of the schema.  The limit is only asked
for on the way to a child.  Another limit therefore leaves a form as it is, or
cuts it at the first child that lies too deep.

Main results:

- Theorem `iterate_choose`: what stands below the levels that fit is never asked for.
- Theorem `cut_run`: under another limit a field is the same, or is cut for its height.
- Theorem `Form.compile_withLimit`: a limit of the depth cuts the forms that are higher, leaves
  the others as they are, and ends every recursion.
-/

namespace SchemaForm

open Result

/-! ## Heights of fields -/

namespace Field

mutual

/-- The longest chain of steps from a field to its parts. -/
def height : Field → Nat
  | .boolean _ | .string _ | .number _ => 0
  | .array _ item => height item + 1
  | .object _ fields => heightOfFields fields

/-- The longest chain of steps from a group with the given fields to its parts. -/
def heightOfFields : List (String × Field) → Nat
  | [] => 0
  | (_, field) :: rest => max (height field + 1) (heightOfFields rest)

end

end Field

/-! ## Steps to children -/

namespace Scope

/-- The same place under another limit of the depth. -/
def withLimit (scope : Scope) (limit : Nat) : Scope :=
  { scope with settings := { scope.settings with depthLimit := limit } }

/-- Definitions do not depend on the limit. -/
theorem entering_withLimit (scope : Scope) (limit : Nat) (schema : Schema) :
    (scope.withLimit limit).entering schema = (scope.entering schema).withLimit limit := by
  unfold entering
  split <;> rfl

/-- Errors name the place alike under every limit. -/
@[simp]
theorem location_withLimit (scope : Scope) (limit : Nat) :
    (scope.withLimit limit).location = scope.location :=
  rfl

/-- The definitions of a schema leave the depth of a place as it is. -/
@[simp]
theorem depth_entering (scope : Scope) (schema : Schema) :
    (scope.entering schema).depth = scope.depth := by
  unfold entering
  split <;> rfl

/-- The definitions of a schema leave the registry of a place as it is. -/
@[simp]
theorem registry_entering (scope : Scope) (schema : Schema) :
    (scope.entering schema).registry = scope.registry := by
  unfold entering
  split <;> rfl

/-- Below a child there is one level less. -/
theorem room_child {scope next : Scope} {step : String} (h : scope.child step = .ok next) :
    next.room + 1 = scope.room := by
  simp only [child] at h
  split at h
  · cases h
  · cases h
    simp only [room]
    omega

/-- Below a child that knows the definitions of a schema there is one level less. -/
theorem room_child_entering {scope next : Scope} {schema : Schema} {step : String}
    (h : (scope.entering schema).child step = .ok next) : next.room + 1 = scope.room := by
  rw [room_child h]
  unfold entering
  split <;> rfl

/-- A child that knows the definitions of a schema has the same registry. -/
theorem registry_child_entering {scope next : Scope} {schema : Schema} {step : String}
    (h : (scope.entering schema).child step = .ok next) : next.registry = scope.registry := by
  simp only [child] at h
  split at h
  · cases h
  · cases h
    exact registry_entering scope schema

end Scope

namespace Building

/-! ## The recursion -/

/-- Builders that do the same wherever there is one level less than below a place. -/
def AgreeBelow (scope : Scope) (inner other : Build) : Prop :=
  ∀ next : Scope, next.room + 1 = scope.room → inner next = other next

section

variable {inner other : Build} {scope : Scope}

/-- The items of a list are built at a child. -/
theorem buildArray_congr (h : AgreeBelow scope inner other) :
    buildArray inner scope = buildArray other scope := by
  funext name required schema
  simp only [buildArray]
  -- Everything before the child is read from the place and the schema alone.
  iterate 6 refine bind_congr fun _ => ?_
  refine bind_congr_ok fun next hnext => ?_
  rw [h next (Scope.room_child_entering hnext)]

/-- The properties of a group are built at children. -/
theorem buildProperties_congr (h : AgreeBelow scope inner other) (schema : Schema)
    (required : List String) (properties : List (String × Json)) :
    buildProperties inner (scope.entering schema) required properties =
      buildProperties other (scope.entering schema) required properties := by
  induction properties with
  | nil => rfl
  | cons entry rest ih =>
      obtain ⟨name, value⟩ := entry
      have hfield : buildProperty inner (scope.entering schema) required name value =
          buildProperty other (scope.entering schema) required name value := by
        refine bind_congr_ok fun next hnext => ?_
        rw [h next (Scope.room_child_entering hnext)]
      simp only [buildProperties, hfield, ih]

/-- What a builder knows about a place names its parts at children only. -/
theorem context_congr (h : AgreeBelow scope inner other) :
    context inner scope = context other scope := by
  simp only [context, Context.mk.injEq, true_and]
  funext schema step name required part
  refine bind_congr_ok fun next hnext => ?_
  rw [h next (Scope.room_child_entering hnext)]

/-- A builder asks for parts at children only. -/
theorem run_congr (h : AgreeBelow scope inner other) (builder : Builder) :
    run inner builder scope = run other builder scope := by
  cases builder with
  | custom build => simp only [run, context_congr h]
  | ofKind kind =>
      cases kind with
      | boolean => rfl
      | string => rfl
      | number => rfl
      | array => exact buildArray_congr h
      | object =>
          funext name required schema
          simp only [run, buildObject, buildProperties_congr h]

/-- The builder that the registry has for a schema asks for parts at children only. -/
theorem choose_congr (h : AgreeBelow scope inner other) :
    choose inner scope = choose other scope := by
  funext name required schema
  simp only [choose, run_congr h]

end

/-- The levels that fit below a place build the same as any greater number of them, and what stands
below them is never asked for. -/
theorem iterate_choose (start : Build) {levels : Nat} {scope : Scope} (h : scope.room < levels) :
    choose^[levels] start scope = scope.compile := by
  induction levels generalizing scope with
  | zero => omega
  | succ levels ih =>
      rw [Function.iterate_succ_apply']
      refine choose_congr fun next hroom => ?_
      rw [ih (by omega), ← hroom]
      rfl

/-- A builder may ask for parts through any number of levels that covers the room. -/
theorem run_iterate_choose (start : Build) {levels : Nat} {scope : Scope}
    (h : scope.room ≤ levels) (builder : Builder) :
    run (choose^[levels] start) builder scope = scope.compileWith builder := by
  refine run_congr (fun next hroom => ?_) builder
  rw [iterate_choose start (by omega), ← hroom]
  rfl

/-- A builder has its parts built as any other field. -/
theorem compileWith_eq (scope : Scope) (builder : Builder) :
    scope.compileWith builder = run Scope.compile builder scope := by
  refine run_congr (fun next hroom => ?_) builder
  rw [← hroom]
  rfl

/-- The builder for a schema has its parts built in the same way as the field itself. -/
theorem compile_eq_choose (scope : Scope) : scope.compile = choose Scope.compile scope := by
  funext name required schema
  simp only [choose, ← compileWith_eq]
  rfl

/-! ## Cutting -/

/-- What a computation that gives a value gives under a limit, when it goes down as far as the given
reach: the same value, or the error that the nesting is too deep. -/
structure Cut {α : Type} (limit reach : Nat) (value : α) (result : Except SchemaError α) :
    Prop where
  whole : reach ≤ limit → result = .ok value
  short : limit < reach → ∃ path, result = .error ⟨path, .tooDeep limit⟩

namespace Cut

variable {α β : Type} {limit reach first second : Nat}

/-- What gives its value within the limit is not cut. -/
theorem of_ok {value : α} {result : Except SchemaError α} (hresult : result = .ok value)
    (h : reach ≤ limit) : Cut limit reach value result :=
  ⟨fun _ => hresult, fun hshort => absurd h (Nat.not_le.mpr hshort)⟩

/-- Two steps are cut by the one that reaches deeper; the second one counts where the first one is
whole. -/
theorem bind {a : α} {b : β} {x : Except SchemaError α} {f : α → Except SchemaError β}
    (hx : Cut limit first a x) (hf : first ≤ limit → Cut limit second b (f a)) :
    Cut limit (max first second) b (x >>= f) := by
  by_cases hfirst : first ≤ limit
  · rw [hx.whole hfirst]
    refine ⟨fun h => (hf hfirst).whole (by omega), fun h => (hf hfirst).short (by omega)⟩
  · obtain ⟨path, herror⟩ := hx.short (by omega)
    rw [herror]
    exact ⟨fun h => absurd h (by omega), fun _ => ⟨path, rfl⟩⟩

/-- A last step that reaches no deeper does not change where a computation is cut. -/
theorem bind_ok {a : α} {b : β} {x : Except SchemaError α} {f : α → Except SchemaError β}
    (hx : Cut limit reach a x) (hf : f a = .ok b) : Cut limit reach b (x >>= f) := by
  have h := hx.bind fun _ => of_ok hf (Nat.zero_le limit)
  rwa [Nat.max_zero] at h

end Cut

/-- A child under another limit is the same, or is cut for its depth. -/
theorem cut_child {scope next : Scope} {step : String} (limit : Nat)
    (h : scope.child step = .ok next) :
    Cut limit next.depth (next.withLimit limit) ((scope.withLimit limit).child step) := by
  have hdepth := Scope.depth_child h
  simp only [Scope.child] at h
  split at h
  · cases h
  · cases h
    refine ⟨fun hwhole => if_neg ?_, fun hshort => ⟨_, if_pos ?_⟩⟩
    · simpa [Scope.withLimit] using hwhole
    · simpa [Scope.withLimit, Nat.lt_succ_iff] using hshort

section

variable {inner : Build} {limit : Nat}

/-- A builder whose fields are cut for their heights at the places that are registered alike and
have less room than the given one. -/
def CutsBelow (scope : Scope) (limit : Nat) (inner : Build) : Prop :=
  ∀ (next : Scope) (name : String) (required : Bool) (schema : Schema) (field : Field),
    next.registry = scope.registry → next.room < scope.room → next.depth ≤ limit →
      inner next name required schema = .ok field →
        Cut limit (next.depth + field.height) field
          (inner (next.withLimit limit) name required schema)

/-- A child and the levels below it reach one level further down than its field is high. -/
theorem reach_child {scope next : Scope} {schema : Schema} {step : String}
    (h : (scope.entering schema).child step = .ok next) (field : Field) :
    scope.depth + (field.height + 1) = max next.depth (next.depth + field.height) := by
  rw [Scope.depth_child h, Scope.depth_entering]
  omega

/-- The items of a list are one level below it. -/
theorem cut_buildArray {scope : Scope} (hinner : CutsBelow scope limit inner)
    {name : String} {required : Bool} {schema : Schema} {field : Field}
    (h : buildArray inner scope name required schema = .ok field) :
    Cut limit (scope.depth + field.height) field
      (buildArray inner (scope.withLimit limit) name required schema) := by
  simp only [buildArray, bind_eq_ok] at h
  obtain ⟨⟨⟩, hkeys, header, hheader, minItems, hmin, maxItems, hmax, ⟨⟩, hdefault, items, hitems,
    next, hnext, item, hitem, hchecked⟩ := h
  obtain ⟨rfl, -⟩ := checkType_eq_ok.mp hchecked
  have hitems' : itemSchema ((scope.entering schema).withLimit limit) (scope.location name) schema =
      .ok items := hitems
  -- The list itself does not see the limit; the step to the child and the items do.
  simp only [buildArray, Scope.location_withLimit, Scope.entering_withLimit, hkeys, hheader, hmin,
    hmax, hdefault, hitems', ok_bind]
  have hregistry := Scope.registry_child_entering hnext
  have hroom := Scope.room_child_entering hnext
  rw [Field.height, reach_child hnext item]
  refine (cut_child limit hnext).bind fun hle => ?_
  exact (hinner _ _ _ _ _ hregistry (by omega) hle hitem).bind_ok hchecked

/-- A property of a group is one level below it. -/
theorem cut_buildProperty {scope : Scope} (hinner : CutsBelow scope limit inner)
    {schema : Schema} {required : List String} {name : String} {value : Json} {field : Field}
    (h : buildProperty inner (scope.entering schema) required name value = .ok field) :
    Cut limit (scope.depth + (field.height + 1)) field
      (buildProperty inner ((scope.entering schema).withLimit limit) required name value) := by
  simp only [buildProperty, bind_eq_ok] at h
  obtain ⟨next, hnext, property, hproperty, resolved, hresolved, hfield⟩ := h
  have hregistry := Scope.registry_child_entering hnext
  have hroom := Scope.room_child_entering hnext
  rw [reach_child hnext field]
  refine (cut_child limit hnext).bind fun hle => ?_
  have hpath : (next.withLimit limit).path = next.path := rfl
  have hresolved' : propertySchema (next.withLimit limit) next.path property = .ok resolved :=
    hresolved
  simp only [hpath, hproperty, hresolved', ok_bind]
  exact hinner _ _ _ _ _ hregistry (by omega) hle hfield

/-- The properties of a group are cut for the highest one. -/
theorem cut_buildProperties {scope : Scope} (hinner : CutsBelow scope limit inner)
    (hdepth : scope.depth ≤ limit) {schema : Schema} {required : List String}
    {properties : List (String × Json)} {fields : List (String × Field)}
    (h : buildProperties inner (scope.entering schema) required properties = .ok fields) :
    Cut limit (scope.depth + Field.heightOfFields fields) fields
      (buildProperties inner ((scope.entering schema).withLimit limit) required properties) := by
  induction properties generalizing fields with
  | nil =>
      cases h
      exact .of_ok rfl hdepth
  | cons entry rest ih =>
      obtain ⟨name, value⟩ := entry
      simp only [buildProperties, bind_eq_ok, pure_eq_ok] at h
      obtain ⟨field, hfield, others, hothers, rfl⟩ := h
      rw [Field.heightOfFields, ← Nat.add_max_add_left]
      refine (cut_buildProperty hinner hfield).bind fun _ => Cut.bind_ok (ih hothers) ?_
      rfl

/-- The fields of a group are one level below it. -/
theorem cut_buildObject {scope : Scope} (hinner : CutsBelow scope limit inner)
    (hdepth : scope.depth ≤ limit)
    {name : String} {required : Bool} {schema : Schema} {field : Field}
    (h : buildObject inner scope name required schema = .ok field) :
    Cut limit (scope.depth + field.height) field
      (buildObject inner (scope.withLimit limit) name required schema) := by
  simp only [buildObject, bind_eq_ok] at h
  obtain ⟨⟨⟩, hkeys, header, hheader, properties, hproperties, names, hnames, ⟨⟩, hdefault, fields,
    hfields, hchecked⟩ := h
  obtain ⟨rfl, -⟩ := checkType_eq_ok.mp hchecked
  simp only [buildObject, Scope.location_withLimit, Scope.entering_withLimit, hkeys, hheader,
    hproperties, hnames, hdefault, ok_bind]
  refine Cut.bind_ok (cut_buildProperties hinner hdepth hfields) ?_
  exact hchecked

/-- The builder for a kind cuts its field for its height when the parts are cut for theirs. -/
theorem cut_run {kind : FieldKind} {scope : Scope} (hinner : CutsBelow scope limit inner)
    (hdepth : scope.depth ≤ limit)
    {name : String} {required : Bool} {schema : Schema} {field : Field}
    (h : run inner (.ofKind kind) scope name required schema = .ok field) :
    Cut limit (scope.depth + field.height) field
      (run inner (.ofKind kind) (scope.withLimit limit) name required schema) := by
  have hkind := (head_of_run h).1
  -- A field without parts is built without the limit, and has no height.
  cases kind with
  | boolean =>
      cases field <;> cases hkind
      exact .of_ok h hdepth
  | string =>
      cases field <;> cases hkind
      exact .of_ok h hdepth
  | number =>
      cases field <;> cases hkind
      exact .of_ok h hdepth
  | array => exact cut_buildArray hinner h
  | object => exact cut_buildObject hinner hdepth h

end

/-- Fields are cut for their heights when only the builders for kinds are registered. -/
theorem cut_compile {limit : Nat} {scope : Scope} (hregistry : scope.registry.IsBuiltIn)
    (hdepth : scope.depth ≤ limit) {name : String} {required : Bool} {schema : Schema}
    {field : Field} (h : scope.compile name required schema = .ok field) :
    Cut limit (scope.depth + field.height) field
      ((scope.withLimit limit).compile name required schema) := by
  induction hroom : scope.room using Nat.strongRecOn
    generalizing scope name required schema field with
  | _ room ih =>
      have hinner : CutsBelow scope limit Scope.compile := by
        intro next name required schema field hsame hless hnext hfield
        exact ih next.room (hroom ▸ hless) (hsame ▸ hregistry) hnext hfield rfl
      rw [compile_eq_choose] at h ⊢
      simp only [choose, bind_eq_ok] at h
      obtain ⟨type, htype, builder, hbuilder, hfield⟩ := h
      have hbuilder' : (scope.withLimit limit).registry.find (scope.location name) type schema =
          .ok builder := hbuilder
      simp only [choose, Scope.location_withLimit, htype, hbuilder', ok_bind]
      obtain ⟨key, hkey⟩ := Registry.mem_of_find hbuilder
      obtain ⟨kind, rfl⟩ := hregistry _ hkey
      exact cut_run hinner hdepth hfield

end Building

/-! ## Whole forms -/

namespace Form

open Building

/-- The form of a schema whose parts are built by the given builder. -/
def compileUsing (inner : Build) (registry : Registry) (settings : Settings) (schema : Json) :
    Except SchemaError Form :=
  match schema with
  | .object schema => do
      let root ←
        run inner (.ofKind .object) (Scope.root registry settings) (nameOf schema) false schema
      return ⟨root, settings⟩
  | _ => .error ⟨defaultName, .rootNotObject⟩

/-- The parts of a form are built as any other field is built. -/
theorem compile_eq_compileUsing :
    compile = compileUsing Scope.compile := by
  funext registry settings schema
  cases schema <;> simp only [compile, compileUsing, compileWith_eq]

/-- Compiling reaches no further down than the limit of the depth. -/
theorem compileUsing_iterate_choose (start : Build) (registry : Registry) {settings : Settings}
    {levels : Nat} (h : settings.depthLimit ≤ levels) (schema : Json) :
    compileUsing (choose^[levels] start) registry settings schema =
      compile registry settings schema := by
  have hrun : ∀ builder, run (choose^[levels] start) builder (Scope.root registry settings) =
      (Scope.root registry settings).compileWith builder :=
    run_iterate_choose start h
  cases schema <;> simp only [compile, compileUsing, hrun]

/-- A form under another limit is the same, or is cut for its height. -/
theorem cut_compile {registry : Registry} (hregistry : registry.IsBuiltIn) {settings : Settings}
    {schema : Json} {form : Form} (limit : Nat)
    (h : compile registry settings schema = .ok form) :
    Cut limit form.root.height ⟨form.root, { settings with depthLimit := limit }⟩
      (compile registry { settings with depthLimit := limit } schema) := by
  rw [compile_eq_compileUsing] at h ⊢
  cases schema with
  | object entries =>
      simp only [compileUsing, bind_eq_ok, pure_eq_ok] at h
      obtain ⟨root, hroot, rfl⟩ := h
      have hinner : CutsBelow (Scope.root registry settings) limit Scope.compile := by
        intro next name required schema field hsame _ hdepth hfield
        exact Building.cut_compile (hsame ▸ hregistry) hdepth hfield
      have hcut := cut_run hinner (Nat.zero_le limit) hroot
      rw [show (Scope.root registry settings).depth = 0 from rfl, Nat.zero_add] at hcut
      exact hcut.bind_ok rfl
  | _ => cases h

/-- Another limit of the depth leaves a form as it is unless the form is higher, and then nests too
deep.  Under every limit compiling ends: however many levels are built below the root, what stands
below the levels that the limit allows is never asked for. -/
theorem compile_withLimit {registry : Registry} (hregistry : registry.IsBuiltIn)
    (settings : Settings) (schema : Json) (limit : Nat) :
    (∀ form, compile registry settings schema = .ok form →
      (form.root.height ≤ limit →
        compile registry { settings with depthLimit := limit } schema =
          .ok ⟨form.root, { settings with depthLimit := limit }⟩) ∧
      (limit < form.root.height →
        ∃ error, compile registry { settings with depthLimit := limit } schema = .error error ∧
          error.errorClass = .unsupportedCombination ∧ error.cause = .tooDeep limit)) ∧
    ∀ (start : Build) (levels : Nat), settings.depthLimit ≤ levels →
      compileUsing (choose^[levels] start) registry settings schema =
        compile registry settings schema := by
  refine ⟨fun form hform => ?_, fun start levels hlevels => ?_⟩
  · have hcut := cut_compile hregistry limit hform
    refine ⟨hcut.whole, fun hlt => ?_⟩
    obtain ⟨path, herror⟩ := hcut.short hlt
    exact ⟨_, herror, rfl, rfl⟩
  · exact compileUsing_iterate_choose start registry hlevels schema

/-- A schema whose items are three levels below the root, two of them through references. -/
def addressSchema : Json :=
  .object
    [("type", .string "object"),
      ("$defs",
        .object
          [("Line", .object [("type", .string "string")]),
            ("Address",
              .object
                [("type", .string "object"),
                  ("properties",
                    .object
                      [("lines",
                        .object
                          [("type", .string "array"),
                            ("items", .object [("$ref", .string "#/$defs/Line")])])])])]),
      ("properties", .object [("home", .object [("$ref", .string "#/$defs/Address")])])]

/-- The form of an address needs three levels and is the same under each limit that has them. -/
theorem compile_addressSchema :
    ∃ form, compile Registry.standard {} addressSchema = .ok form ∧ form.root.height = 3 ∧
      compile Registry.standard { depthLimit := 3 } addressSchema =
        .ok ⟨form.root, { depthLimit := 3 }⟩ ∧
      (∃ error, compile Registry.standard { depthLimit := 2 } addressSchema = .error error ∧
        error.errorClass = .unsupportedCombination ∧ error.cause = .tooDeep 2) ∧
      compileUsing (choose^[32] fun _ _ _ _ => .error ⟨"", .rootNotObject⟩) Registry.standard {}
        addressSchema = .ok form := by
  have hregistry := Registry.isBuiltIn_standard
  have hevaluated :
      (match compile Registry.standard {} addressSchema with
        | .ok form => form.root.height == 3
        | .error _ => false) = true := by
    decide +kernel
  split at hevaluated
  · rename_i form hform
    have hheight := eq_of_beq hevaluated
    have hwhole := ((compile_withLimit hregistry {} addressSchema 3).1 form hform).1 (by omega)
    have hshort := ((compile_withLimit hregistry {} addressSchema 2).1 form hform).2 (by omega)
    have hlevels := (compile_withLimit hregistry {} addressSchema 3).2
      (fun _ _ _ _ => .error ⟨"", .rootNotObject⟩) 32 (Nat.le_refl 32)
    exact ⟨form, hform, hheight, hwhole, hshort, hlevels.trans hform⟩
  · cases hevaluated

/-- A definition that refers to itself nests too deep under every limit; this is the default one. -/
example :
    (match compile Registry.standard {}
        (.object
          [("type", .string "object"),
            ("$defs",
              .object
                [("Node",
                  .object
                    [("type", .string "object"),
                      ("properties",
                        .object [("next", .object [("$ref", .string "#/$defs/Node")])])])]),
            ("properties", .object [("next", .object [("$ref", .string "#/$defs/Node")])])]) with
      | .ok _ => false
      | .error error => error.cause matches .tooDeep 32) = true := by
  decide +kernel

end Form
end SchemaForm
