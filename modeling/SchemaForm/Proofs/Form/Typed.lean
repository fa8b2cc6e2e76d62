import SchemaForm.Proofs.Field.Part
import SchemaForm.Proofs.Form.Canonical

/-!
# Types of what is read

What a draft in the shape of a form reads as has the types that the schema names:
every field holds a value of its type, and texts, integers and numbers may be
missing.  One kind of field stands out.  A format of dates or paths decides how a
text is read before the type does, so that an integer or a number in such a format
is read as a text.

Main results:

- Definition `Field.dataType`: the type of the data of a field.
- Theorem `Codec.isOf_of_nativeOfText`: the type of what a codec reads, whatever the text is.
- Theorem `Field.hasTypes_of_read`: what is read of a field has the types of its data.
- Theorem `Field.isTyped_of_offersForTexts`: where only texts offer choices, fields that are checked
  when they are put together have types of their kinds.
- Theorem `Building.isTyped_of_compile`: so have the fields of a form.
- Theorem `Form.hasTypes_read`: what is read of a form has the types of its data.
-/

namespace SchemaForm

open Result

/-! ## Values of a type -/

/-- Whether a value has a type; where something is entered as a text there may be no value. -/
def Json.isOf (type : String) : Json → Bool
  | .null => type == "integer" || type == "number" || type == "string"
  | .bool _ => type == "boolean"
  | .number (.integer _) => type == "integer" || type == "number"
  | .number (.float _) => type == "number"
  | .string _ => type == "string"
  | .array _ => type == "array"
  | .object _ => type == "object"

/-- The formats in which a value is a text, whatever the type is. -/
def Codec.textFormats : List String :=
  ["date", "date-time", "path", "file-path", "directory-path"]

namespace Field

/-- The type of the data of a field: the one that the schema names, but for numbers whose format
makes them texts. -/
def dataType (field : Field) : String :=
  if field.kind = .number ∧ field.attributes.format.any Codec.textFormats.contains = true then
    "string"
  else field.header.type

mutual

/-- Whether a value of a field has the type that each part of the field is given, a group being an
object with the names of its fields in order. -/
def hasTypes (typeOf : Field → String) : Field → Json → Bool
  | .array spec item => fun native =>
      native.isOf (typeOf (.array spec item)) &&
        match native with
        | .array items => items.all (hasTypes typeOf item)
        | _ => true
  | .object spec fields => fun native =>
      native.isOf (typeOf (.object spec fields)) &&
        match native with
        | .object entries => haveTypes typeOf fields entries
        | _ => true
  | field => fun native => native.isOf (typeOf field)

/-- Whether values have the names of fields in order and the types that the parts are given. -/
def haveTypes (typeOf : Field → String) : List (String × Field) → List (String × Json) → Bool
  | [] => fun entries => entries.isEmpty
  | (name, field) :: rest => fun entries =>
      match entries with
      | (other, native) :: others =>
          other == name && hasTypes typeOf field native && haveTypes typeOf rest others
      | [] => false

end

@[simp]
theorem hasTypes_boolean (typeOf : Field → String) (spec : Spec) (native : Json) :
    hasTypes typeOf (.boolean spec) native = native.isOf (typeOf (.boolean spec)) :=
  rfl

@[simp]
theorem hasTypes_string (typeOf : Field → String) (spec : Spec) (native : Json) :
    hasTypes typeOf (.string spec) native = native.isOf (typeOf (.string spec)) :=
  rfl

@[simp]
theorem hasTypes_number (typeOf : Field → String) (spec : Spec) (native : Json) :
    hasTypes typeOf (.number spec) native = native.isOf (typeOf (.number spec)) :=
  rfl

theorem haveTypes_iff {typeOf : Field → String} {fields : List (String × Field)}
    {entries : List (String × Json)} :
    haveTypes typeOf fields entries = true ↔
      List.Forall₂ (fun field entry => entry.1 = field.1 ∧ field.2.hasTypes typeOf entry.2 = true)
        fields entries := by
  induction fields generalizing entries with
  | nil => simp [haveTypes]
  | cons field rest ih =>
      obtain ⟨name, field⟩ := field
      cases entries with
      | nil => simp [haveTypes]
      | cons entry others => simp [haveTypes, ih]

end Field

/-! ## Codecs -/

namespace Codec

/-- The type of the data that a codec reads. -/
def dataType : Codec → String
  | .integer => "integer"
  | .number => "number"
  | .date _ | .dateTime _ | .path | .plain => "string"

/-- The value of a text has the type of its codec. -/
theorem isOf_of_readText {codec : Codec} {text : String} {scalar : Scalar}
    (h : codec.readText text = .ok scalar) : scalar.toNative.isOf codec.dataType = true := by
  cases codec with
  | integer =>
      simp only [readText] at h
      split at h <;> cases h
      rfl
  | number =>
      simp only [readText] at h
      split at h
      · split at h
        · rename_i hfinite
          cases h
          simp only [Scalar.toNative, Json.ofBinary64, if_pos hfinite]
          rfl
        · cases h
      · cases h
  | date pattern =>
      simp only [readText] at h
      split at h <;> cases h
      rfl
  | dateTime pattern =>
      simp only [readText] at h
      split at h <;> cases h
      rfl
  | path =>
      cases h
      rfl
  | plain =>
      cases h
      rfl

/-- What a codec reads has its type, or is `null` for the empty text. -/
theorem isOf_of_nativeOfText {codec : Codec} {text : String} {native : Json}
    (h : codec.nativeOfText text = .ok native) : native.isOf codec.dataType = true := by
  rcases nativeOfText_eq_ok.mp h with ⟨-, rfl⟩ | ⟨-, scalar, hread, rfl⟩
  · cases codec <;> rfl
  · exact isOf_of_readText hread

/-- The format of a field decides about the type of what is read before its type does. -/
theorem dataType_ofField {type : String}
    (htype : type = "integer" ∨ type = "number" ∨ type = "string") (format : Option String)
    (patterns : DatePatterns) :
    (ofField type format patterns).dataType =
      if format.any textFormats.contains = true then "string" else type := by
  unfold ofField
  split
  · rfl
  · rfl
  · rfl
  · rfl
  · rfl
  · rename_i hdate hdateTime hpath hfile hdirectory
    have hother : ¬ format.any textFormats.contains = true := by
      cases format with
      | none => exact Bool.false_ne_true
      | some format =>
          simp_all [textFormats]
    rw [if_neg hother]
    rcases htype with rfl | rfl | rfl <;> rfl

end Codec

/-! ## Fields with types of their kinds -/

namespace Field

/-- Fields with types of their kinds, of which only those for texts offer choices. -/
inductive IsTyped : Field → Prop where
  | boolean {spec : Spec} (htype : spec.header.type = "boolean")
      (hchoices : spec.attributes.choices = none) : IsTyped (.boolean spec)
  | string {spec : Spec} (htype : spec.header.type = "string") : IsTyped (.string spec)
  | number {spec : Spec} (htype : spec.header.type = "integer" ∨ spec.header.type = "number")
      (hchoices : spec.attributes.choices = none) : IsTyped (.number spec)
  | array {spec : Spec} {item : Field} (htype : spec.header.type = "array")
      (hchoices : spec.attributes.choices = none) (hitem : IsTyped item) :
      IsTyped (.array spec item)
  | object {spec : Spec} {fields : List (String × Field)} (htype : spec.header.type = "object")
      (hchoices : spec.attributes.choices = none) (hfields : ∀ entry ∈ fields, IsTyped entry.2) :
      IsTyped (.object spec fields)

/-- A field that offers choices is for texts. -/
theorem IsTyped.kind_of_choices {field : Field} (h : field.IsTyped)
    (hchoices : field.attributes.choices.isSome = true) : field.kind = .string := by
  cases h with
  | string => rfl
  | boolean _ hnone | number _ hnone | array _ hnone | object _ hnone =>
      rw [attributes, Field.spec, hnone] at hchoices
      cases hchoices

/-- The parts of a field have types of their kinds when the field has. -/
theorem IsTyped.of_isPart {part field : Field} (h : field.IsTyped) (hpart : part.IsPart field) :
    part.IsTyped := by
  refine hpart.inherits (fun _ _ hlist => ?_) (fun _ _ hgroup => ?_) h
  · cases hlist with
    | array _ _ hitem => exact hitem
  · cases hgroup with
    | object _ _ hfields => exact hfields

/-- Fields of which only the parts for texts offer choices. -/
def OffersForTexts (field : Field) : Prop :=
  ∀ part : Field, part.IsPart field → part.attributes.choices.isSome = true → part.kind = .string

/-- Where the parts of a field have types of their kinds, only those for texts offer choices. -/
theorem IsTyped.offersForTexts {field : Field} (h : field.IsTyped) : field.OffersForTexts :=
  fun _ hpart hchoices => (h.of_isPart hpart).kind_of_choices hchoices

/-- A field whose own type belongs to its kind names one of the types of the kind. -/
theorem type_mem_of_selfIfForeign {field : Field} (h : field.selfIfForeign = none) :
    field.header.type ∈ field.kind.types := by
  unfold selfIfForeign at h
  split at h
  · rename_i htype
    exact List.contains_iff_mem.mp htype
  · cases h

theorem foreignPartOf?_eq_none {fields : List (String × Field)} :
    foreignPartOf? fields = none ↔ ∀ entry ∈ fields, entry.2.foreignPart? = none := by
  induction fields with
  | nil => simp [foreignPartOf?]
  | cons entry rest ih => simp [foreignPartOf?, ih]

/-- Where every part has a type of its kind, only the choices have to be looked at. -/
theorem isTyped_of_offersForTexts {field : Field} (htypes : field.foreignPart? = none)
    (h : field.OffersForTexts) : field.IsTyped := by
  -- A field that is not for texts offers no choices itself.
  have hnone {field : Field} (h : field.OffersForTexts) (hkind : field.kind ≠ .string) :
      field.attributes.choices = none := by
    by_contra hsome
    exact hkind (h field .self (Option.isSome_iff_ne_none.mpr hsome))
  induction field using Field.induction with
  | boolean spec =>
      have htype := type_mem_of_selfIfForeign htypes
      exact .boolean (List.mem_singleton.mp htype) (hnone h (by simp [kind]))
  | string spec =>
      have htype := type_mem_of_selfIfForeign htypes
      exact .string (List.mem_singleton.mp htype)
  | number spec =>
      have htype := type_mem_of_selfIfForeign htypes
      exact .number (List.mem_pair.mp htype) (hnone h (by simp [kind]))
  | array spec item ih =>
      obtain ⟨hitem, hself⟩ := Option.or_eq_none_iff.mp htypes
      have htype := type_mem_of_selfIfForeign hself
      exact .array (List.mem_singleton.mp htype) (hnone h (by simp))
        (ih hitem fun part hpart => h part (.item hpart))
  | object spec fields ih =>
      obtain ⟨hfields, hself⟩ := Option.or_eq_none_iff.mp htypes
      have htype := type_mem_of_selfIfForeign hself
      rw [foreignPartOf?_eq_none] at hfields
      exact .object (List.mem_singleton.mp htype) (hnone h (by simp)) fun entry hentry =>
        ih entry hentry (hfields entry hentry) fun part hpart => h part (.field hentry hpart)

/-- A field that is no number has data of the type that the schema names. -/
theorem dataType_of_ne_number {field : Field} (h : field.kind ≠ .number) :
    field.dataType = field.header.type := by
  rw [dataType, if_neg fun hboth => h hboth.1]

/-- A text has the type of a text field. -/
theorem hasTypes_ofString {field : Field} (hfield : field.IsTyped) (hkind : field.kind = .string)
    (text : String) : field.hasTypes dataType (.string text) = true := by
  cases hfield with
  | string htype =>
      rw [hasTypes_string, dataType_of_ne_number (by simp [kind])]
      simp [Json.isOf, header, Field.spec, htype]
  | _ => cases hkind

/-- A number has data of the type of its codec. -/
theorem dataType_number {spec : Spec}
    (htype : spec.header.type = "integer" ∨ spec.header.type = "number") :
    dataType (.number spec) = spec.codec.dataType := by
  rw [Spec.codec, Codec.dataType_ofField (htype.imp_right .inl), dataType]
  simp only [kind, true_and]
  rfl

/-- What is read of a draft in the shape of a field has the types of its data. -/
theorem hasTypes_of_read {field : Field} (hfield : field.IsTyped) {draft : Draft} {native : Json}
    (hdraft : field.fits draft = true) (h : field.read draft = .ok native) :
    field.hasTypes dataType native = true := by
  induction hfield generalizing draft native with
  | @boolean spec htype _ =>
      have hdata : dataType (.boolean spec) = "boolean" :=
        (dataType_of_ne_number (by simp [kind])).trans htype
      cases draft with
      | toggle on =>
          cases h
          rw [hasTypes_boolean, hdata]
          rfl
      | _ => cases h
  | @string spec htype =>
      have hdata : dataType (.string spec) = "string" :=
        (dataType_of_ne_number (by simp [kind])).trans htype
      rw [hasTypes_string, hdata]
      rcases cases_fits_string hdraft with ⟨-, chosen, rfl⟩ | ⟨-, text, rfl⟩
      · cases h
        cases chosen <;> rfl
      · have hcodec : spec.codec.dataType = "string" := by
          rw [Spec.codec, Codec.dataType_ofField (.inr (.inr htype)), htype, ite_self]
        exact hcodec ▸ Codec.isOf_of_nativeOfText h
  | @number spec htype _ =>
      rw [hasTypes_number, dataType_number htype]
      cases draft with
      | text text => exact Codec.isOf_of_nativeOfText h
      | _ => cases h
  | @array spec item htype _ hitem ih =>
      have hdata : dataType (.array spec item) = "array" :=
        (dataType_of_ne_number (by simp)).trans htype
      rcases cases_fits_array hdraft with ⟨hsome, chosen, rfl⟩ | ⟨-, items, rfl, hitems⟩
      · cases h
        simp only [hasTypes, hdata, Json.ofStrings, Json.isOf, beq_self_eq_true, Bool.true_and,
          List.all_map, List.all_eq_true]
        intro text _
        exact hasTypes_ofString hitem (hitem.kind_of_choices hsome) text
      · obtain ⟨natives, hnatives, rfl⟩ := read_list_eq_ok.mp h
        simp only [hasTypes, hdata, Json.isOf, beq_self_eq_true, Bool.true_and, List.all_eq_true]
        intro native hnative
        obtain ⟨node, hmem, hread⟩ := exists_of_forall₂ hnatives.flip hnative
        exact ih (hitems node hmem) hread
  | @object spec fields htype _ _ ih =>
      have hdata : dataType (.object spec fields) = "object" :=
        (dataType_of_ne_number (by simp)).trans htype
      obtain ⟨entries, rfl, hnodes⟩ := cases_fits_object hdraft
      obtain ⟨natives, hnatives, rfl⟩ := read_group_eq_ok.mp h
      simp only [hasTypes, hdata, Json.isOf, beq_self_eq_true, Bool.true_and, haveTypes_iff]
      -- Each value is read of the node that the group has for its field.
      have hread : ∀ field ∈ fields, ∀ native,
          field.2.readNode (Entries.get? entries field.1) = .ok native →
            field.2.hasTypes dataType native = true := by
        intro field hmem native hnative
        obtain ⟨node, hnode, hfits⟩ := hnodes field hmem
        rw [hnode] at hnative
        exact ih field hmem hfits hnative
      have hparts := (List.forall₂_and_left _ _).mpr ⟨hread, hnatives⟩
      exact hparts.imp fun field entry h => ⟨h.2.1, h.1 entry.2 h.2.2⟩

end Field

/-! ## Registries and forms -/

/-- The builders beside those for the five kinds make fields with types of their kinds. -/
def Registry.MakesTyped (registry : Registry) : Prop :=
  registry.Keeps False fun _ _ _ field => field.IsTyped

/-- The builders beside those for the five kinds offer choices for texts only. -/
def Registry.OffersForTexts (registry : Registry) : Prop :=
  registry.Keeps False fun _ _ _ field => field.OffersForTexts

/-- Where there are no other builders they offer no choices. -/
theorem Registry.IsBuiltIn.offersForTexts {registry : Registry} (h : registry.IsBuiltIn) :
    registry.OffersForTexts :=
  h.keeps False _

/-- Fields have types of their kinds wherever they are put together, so that it is enough that the
other builders offer choices for texts only. -/
theorem Registry.OffersForTexts.makesTyped {registry : Registry} (h : registry.OffersForTexts) :
    registry.MakesTyped := by
  intro key build hbuild context name required schema field hproper hparts htypes hfield
  refine Field.isTyped_of_offersForTexts htypes ?_
  refine h key build hbuild context name required schema field hproper ?_ htypes hfield
  intro own step name required schema part hkeyed hpart
  exact (hparts hkeyed hpart).offersForTexts

namespace Building

variable {registry : Registry} {settings : Settings} {field : Field}

/-- Built fields have types of their kinds. -/
theorem isTyped_of_built (hregistry : registry.MakesTyped)
    (h : Built registry settings False field) : field.IsTyped := by
  induction h with
  | boolean htype => exact .boolean htype rfl
  | string htype => exact .string htype
  | number htype => exact .number htype rfl
  | array htype _ _ _ ih => exact .array htype rfl ih
  | object htype _ _ _ ih => exact .object htype rfl ih
  | other hbuild _ hproper _ htypes hfield ih =>
      exact hregistry _ _ hbuild _ _ _ _ _ hproper ih htypes hfield

/-- Every part of a built field has a type of its kind, whatever the other builders make. -/
theorem foreignPart?_of_built (h : Built registry settings False field) :
    field.foreignPart? = none := by
  have hself {field : Field} (htype : field.header.type ∈ field.kind.types) :
      field.selfIfForeign = none :=
    if_pos (List.contains_iff_mem.mpr htype)
  induction h with
  | boolean htype => exact hself (List.mem_singleton.mpr htype)
  | string htype => exact hself (List.mem_singleton.mpr htype)
  | number htype => exact hself (List.mem_pair.mpr htype)
  | array htype _ _ _ ih =>
      exact Option.or_eq_none_iff.mpr ⟨ih, hself (List.mem_singleton.mpr htype)⟩
  | object htype _ _ _ ih =>
      exact Option.or_eq_none_iff.mpr
        ⟨Field.foreignPartOf?_eq_none.mpr ih, hself (List.mem_singleton.mpr htype)⟩
  | other _ _ _ _ htypes => exact htypes

/-- The fields of a form have types of their kinds, if only those for texts offer choices. -/
theorem isTyped_of_compile {schema : Json} {form : Form}
    (h : Form.compile registry settings schema = .ok form)
    (hchoices : form.root.OffersForTexts) : form.root.IsTyped :=
  Field.isTyped_of_offersForTexts (foreignPart?_of_built (built_of_compile False.elim h).1)
    hchoices

/-- Only the fields for texts in a form offer choices, if so it is with the other builders. -/
theorem offersForTexts_of_compile (hregistry : registry.OffersForTexts) {schema : Json}
    {form : Form} (h : Form.compile registry settings schema = .ok form) :
    form.root.OffersForTexts :=
  (isTyped_of_built hregistry.makesTyped (built_of_compile False.elim h).1).offersForTexts

end Building

namespace Form

/-- What is read of a draft in the shape of a form has the types that the schema names, but for
numbers in a format of dates or paths, which are texts.  Only fields for texts may offer choices, as
the builders for kinds see to it. -/
theorem hasTypes_read {registry : Registry} {settings : Settings} {schema : Json} {form : Form}
    {draft : Draft} {native : Json} (hform : compile registry settings schema = .ok form)
    (hchoices : form.root.OffersForTexts) (hdraft : form.root.fits draft = true)
    (hread : form.read draft = .ok native) : form.root.hasTypes Field.dataType native = true :=
  Field.hasTypes_of_read (Building.isTyped_of_compile hform hchoices) hdraft hread

/-- An appointment has the types of its data. -/
theorem hasTypes_appointment :
    ∃ form, compile Registry.standard {} appointmentSchema = .ok form ∧
      form.root.OffersForTexts ∧ form.root.fits appointmentDraft = true ∧
        form.read appointmentDraft = .ok appointment ∧
          form.root.hasTypes Field.dataType appointment = true := by
  obtain ⟨form, hform, -, hfits, hread⟩ := compile_appointmentSchema
  have hchoices :=
    Building.offersForTexts_of_compile Registry.isBuiltIn_standard.offersForTexts hform
  exact ⟨form, hform, hchoices, hfits, hread, hasTypes_read hform hchoices hfits hread⟩

/-- A schema with an integer in the format of paths. -/
def portSchema : Json :=
  .object
    [("type", .string "object"),
      ("properties",
        .object [("port", .object [("type", .string "integer"), ("format", .string "path")])])]

/-- An integer in the format of paths is read as a text. -/
theorem hasTypes_portSchema :
    ∃ form native, compile Registry.standard {} portSchema = .ok form ∧
      form.root.fits (.group [("port", .text "5")]) = true ∧
        form.read (.group [("port", .text "5")]) = .ok native ∧
          form.root.hasTypes (fun field => field.header.type) native = false := by
  have hevaluated :
      (passes (compile Registry.standard {} portSchema) fun form =>
        form.root.fits (.group [("port", .text "5")]) &&
          passes (form.read (.group [("port", .text "5")])) fun native =>
            !form.root.hasTypes (fun field => field.header.type) native) = true := by
    decide +kernel
  simp only [passes_iff, Bool.and_eq_true, Bool.not_eq_true'] at hevaluated
  obtain ⟨form, hform, hfits, native, hread, htypes⟩ := hevaluated
  exact ⟨form, native, hform, hfits, hread, htypes⟩

end Form
end SchemaForm
