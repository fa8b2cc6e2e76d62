import SchemaForm.Proofs.Form.Canonical

/-!
# Values of the wrong type

Loading data stops at the first value whose type does not go with its field.  The
error names the place of this value, put together on the way back from the value to
the root, with what its field expects and the type that was found.  Defaults do not come into
it when the form opens, as the groups in the form are opened with it, and when the groups open
that are items of lists, each of which is opened when it is loaded.

Main results:

- Definition `Field.part?`, Definition `Json.part?`: a field and a value at a place.
- Definition `Field.expectation`: what a field expects in data.
- Theorem `Field.exists_isMisfit_of_load`: the value at which loading stops.
- Theorem `Form.exists_isMisfit_of_load_misshapen`: so it is in a form that opens.
- Theorem `Form.not_exists_isMisfit_invoice`: a default may be named instead where a group among the
  items of a list does not open.
-/

namespace SchemaForm

open Result

/-! ## Places in fields and data -/

/-- A step down into a group or a list. -/
inductive Location.Step where
  | name (name : String)
  | position (index : Nat)
deriving DecidableEq

/-- A step as a text. -/
def Location.Step.text : Step → String
  | .name found => found
  | .position index => Location.position index

open Location (Step)

/-- An error at the end of some steps, seen from where they start. -/
def DataError.withinSteps (place : List Step) (error : DataError) : DataError :=
  place.foldr (fun step error => error.within step.text) error

/-- The value at the end of some steps through objects and arrays. -/
def Json.part? : Json → List Step → Option Json
  | value, [] => some value
  | .object entries, .name name :: place =>
      (Entries.get? entries name).bind fun child => child.part? place
  | .array items, .position index :: place => items[index]?.bind fun child => child.part? place
  | _, _ => none

namespace Field

/-- The field at the end of some steps through groups and lists.  All positions of a list have the
field of its items. -/
def part? : Field → List Step → Option Field
  | field, [] => some field
  | .object _ fields, .name name :: place =>
      (Entries.get? fields name).bind fun child => child.part? place
  | .array _ item, .position _ :: place => item.part? place
  | _, _ => none

/-- Whether some steps end at a position of a list of choices. -/
def endsInChoices : Field → List Step → Bool
  | .array _ item, [.position _] => item.attributes.choices.isSome
  | .array _ item, .position _ :: place => item.endsInChoices place
  | .object _ fields, .name name :: place =>
      (Entries.get? fields name).any fun child => child.endsInChoices place
  | _, _ => false

/-- What a field expects in data: what its codec does, unless it is a switch, a closed list, a list
or a group. -/
def expectation : Field → String
  | .boolean _ => "a boolean"
  | .string spec => if isSelect (.string spec) then "a string" else spec.codec.expectation
  | .number spec => spec.codec.expectation
  | .array .. => "an array"
  | .object .. => "an object"

/-- A value in data for a field that has the wrong type for its place. -/
structure IsMisfit (field : Field) (native : Json) (place : List Step) (target : Field)
    (value : Json) (expected : String) : Prop where
  field_eq : field.part? place = some target
  value_eq : native.part? place = some value
  expected_eq : expected = if field.endsInChoices place then "a string" else target.expectation
  /-- The value is refused for its type even where it stands alone. -/
  refused : if field.endsInChoices place then
      choiceText value = .error (.shape "" expected value)
    else target.load value = .error (.shape "" expected value)

variable {spec : Spec} {field child item target : Field} {fields : List (String × Field)}
  {native value : Json} {place : List Step} {path expected actual : String}

/-! ## Steps -/

/-- A value that a field refuses for its type does not fit at its own place. -/
theorem isMisfit_self (h : field.load native = .error (.shape "" field.expectation native)) :
    field.IsMisfit native [] field native field.expectation where
  field_eq := by simp [part?]
  value_eq := by simp [Json.part?]
  expected_eq := by simp [endsInChoices]
  refused := by simpa [endsInChoices] using h

/-- A value that is refused as a choice does not fit at its position in the list of choices. -/
theorem isMisfit_choice {natives : List Json} {index : Nat}
    (hchoices : item.attributes.choices.isSome = true) (hvalue : natives[index]? = some value)
    (h : choiceText value = .error (.shape "" "a string" value)) :
    IsMisfit (.array spec item) (.array natives) [.position index] item value "a string" where
  field_eq := by simp [part?]
  value_eq := by simp [Json.part?, hvalue]
  expected_eq := by simp [endsInChoices, hchoices]
  refused := by simpa [endsInChoices, hchoices] using h

/-- What does not fit in the value of a field does not fit in the data for its group. -/
theorem IsMisfit.of_entry {natives : Entries Json} {name : String}
    (h : child.IsMisfit native place target value expected)
    (hchild : Entries.get? fields name = some child) (hnative : natives.get? name = some native) :
    IsMisfit (.object spec fields) (.object natives) (.name name :: place) target value
      expected where
  field_eq := by simpa [part?, hchild] using h.field_eq
  value_eq := by simpa [Json.part?, hnative] using h.value_eq
  expected_eq := by simpa [endsInChoices, hchild] using h.expected_eq
  refused := by simpa [endsInChoices, hchild] using h.refused

/-- What does not fit in an item does not fit in the data for its list. -/
theorem IsMisfit.of_item {natives : List Json} {index : Nat}
    (h : item.IsMisfit native place target value expected)
    (hchoices : item.attributes.choices.isSome = false)
    (hnative : natives[index]? = some native) :
    IsMisfit (.array spec item) (.array natives) (.position index :: place) target value
      expected := by
  have hends : endsInChoices (.array spec item) (.position index :: place) =
      item.endsInChoices place := by
    cases place with
    | nil => simp [endsInChoices, hchoices]
    | cons step place => simp [endsInChoices]
  refine ⟨?_, ?_, hends ▸ h.expected_eq, hends ▸ h.refused⟩
  · simpa [part?] using h.field_eq
  · simpa [Json.part?, hnative] using h.value_eq

/-! ## Refused values -/

/-- A choice is refused only for its type. -/
theorem eq_shape_of_choiceText {error : DataError} (h : choiceText native = .error error) :
    error = .shape "" "a string" native := by
  cases native <;> cases h <;> rfl

end Field

namespace Codec

variable {codec : Codec} {field path expected actual : String}

/-- A value is never refused for its type when it is written. -/
theorem encode_ne_misshapen (value : Option Scalar) :
    codec.encode value ≠ .error (.misshapen path expected actual) := by
  have hwritten : ∀ pattern text,
      written pattern text ≠ .error (.misshapen path expected actual) := by
    intro pattern text
    cases text <;> exact nofun
  cases value with
  | none => exact nofun
  | some scalar =>
      cases codec <;> cases scalar <;> first | exact hwritten _ _ | exact nofun

/-- When a codec refuses data for its type, the error says what the codec expects. -/
theorem eq_shape_of_textOfNative {native : Json}
    (h : codec.textOfNative field native = .error (.misshapen path expected actual)) :
    DataError.misshapen path expected actual = .shape field codec.expectation native := by
  rcases bind_eq_error.mp h with h | ⟨scalar, -, h⟩
  · unfold ofNative at h
    split at h
    · cases h
    · split at h <;> split at h <;> first | (cases h; rfl) | (split at h <;> cases h) | cases h
  · exact absurd h (encode_ne_misshapen scalar)

end Codec

namespace Field

variable {spec : Spec} {field child item target : Field} {fields : List (String × Field)}
  {native value : Json} {place : List Step} {path expected actual : String}

/-- An error of shape below a step is one seen from where the step starts. -/
theorem withinSteps_cons {step : Step} {inner : String} {error : DataError}
    (h : DataError.withinSteps place error = .misshapen inner expected actual)
    (hpath : Location.above step.text inner = path) :
    DataError.withinSteps (step :: place) error = .misshapen path expected actual := by
  rw [DataError.withinSteps, List.foldr_cons, ← DataError.withinSteps, h, DataError.within, hpath]

/-- A field that refuses data for its own type stops at the data itself. -/
theorem exists_isMisfit_self (hshape : DataError.misshapen path expected actual =
      .shape "" field.expectation native)
    (h : field.load native = .error (.misshapen path expected actual)) :
    ∃ place target value, field.IsMisfit native place target value expected ∧
      value.typeName = actual ∧
        DataError.withinSteps place (.misshapen "" expected actual) =
          .misshapen path expected actual := by
  rw [hshape] at h
  cases hshape
  exact ⟨[], field, native, isMisfit_self h, rfl, rfl⟩

/-- The value at which loading stops because of its type.  It is only asked that the field opens if
it is a group, and that the groups among the items of its lists do. -/
theorem exists_isMisfit_of_load (hitems : field.ItemsOpen)
    (hopened : field.kind = .object → ∃ start, field.opened = .ok start) (hnative : native.Proper)
    (h : field.load native = .error (.misshapen path expected actual)) :
    ∃ place target value, field.IsMisfit native place target value expected ∧
      value.typeName = actual ∧
        DataError.withinSteps place (.misshapen "" expected actual) =
          .misshapen path expected actual := by
  induction hitems generalizing native path with
  | boolean spec =>
      refine exists_isMisfit_self ?_ h
      cases native <;> cases h <;> rfl
  | string spec =>
      by_cases hselect : isSelect (.string spec) = true
      · refine exists_isMisfit_self ?_ h
        rw [expectation, if_pos hselect]
        cases native with
        | null => cases h
        | _ =>
            simp only [load, hselect, if_true, map_eq_error] at h
            exact eq_shape_of_choiceText h
      · refine exists_isMisfit_self ?_ h
        rw [load_input (isInput_string (Bool.eq_false_iff.mpr hselect)), map_eq_error] at h
        rw [expectation, if_neg hselect]
        exact Codec.eq_shape_of_textOfNative h
  | number spec =>
      refine exists_isMisfit_self ?_ h
      rw [load_input rfl, map_eq_error] at h
      exact Codec.eq_shape_of_textOfNative h
  | @array spec item hgroup _ ih =>
      cases native with
      | array natives =>
          simp only [load, loadItems] at h
          split at h
          · rename_i hchoices
            rw [map_eq_error] at h
            obtain ⟨index, value, error, hvalue, herror, hwithin⟩ := exists_of_eachItem_eq_error h
            obtain rfl := eq_shape_of_choiceText herror
            obtain ⟨inner, hinner, hpath⟩ := DataError.within_eq_misshapen.mp hwithin
            cases hinner
            rw [Nat.zero_add] at hpath
            exact ⟨[.position index], item, value, isMisfit_choice hchoices hvalue herror, rfl,
              withinSteps_cons rfl hpath⟩
          · rename_i hchoices
            rw [map_eq_error] at h
            obtain ⟨index, value, error, hvalue, herror, hwithin⟩ := exists_of_eachItem_eq_error h
            obtain ⟨inner, rfl, hpath⟩ := DataError.within_eq_misshapen.mp hwithin
            obtain ⟨place, target, found, hmisfit, htype, hplace⟩ :=
              ih hgroup (hnative.item (List.mem_of_getElem? hvalue)) herror
            rw [Nat.zero_add] at hpath
            exact ⟨.position index :: place, target, found,
              hmisfit.of_item (Bool.eq_false_iff.mpr hchoices) hvalue, htype,
              withinSteps_cons hplace hpath⟩
      | _ => exact exists_isMisfit_self (by cases h <;> rfl) h
  | @object spec fields _ ih =>
      cases native with
      | object natives =>
          obtain ⟨start, hstart⟩ := hopened rfl
          obtain ⟨-, base, -, -, rfl⟩ := opened_object_eq_ok.mp hstart
          rw [load_object_of_opened hstart, map_eq_error] at h
          obtain ⟨⟨name, value⟩, hentry, loader, error, hloader, herror, hwithin⟩ :=
            exists_of_mergeInto_eq_error h
          rw [get?_loaders] at hloader
          obtain ⟨child, hchild, rfl⟩ := Option.map_eq_some_iff.mp hloader
          have hfield := Entries.mem_of_get? hchild
          obtain ⟨inner, rfl, hpath⟩ := DataError.within_eq_misshapen.mp hwithin
          obtain ⟨place, target, found, hmisfit, htype, hplace⟩ :=
            ih _ hfield (fun _ => exists_opened_of_mem ⟨_, hstart⟩ hfield) (hnative.entry hentry)
              herror
          exact ⟨.name name :: place, target, found,
            hmisfit.of_entry hchild (Entries.get?_of_mem hnative.nodup_names hentry), htype,
            withinSteps_cons hplace hpath⟩
      | _ => exact exists_isMisfit_self (by cases h <;> rfl) h

end Field

namespace Form

/-- When a form opens, with the groups among the items of its lists, and data is refused for its
type, the error leads through fields and data to a value of the type that it names, and says what is
expected there. -/
theorem exists_isMisfit_of_load_misshapen {form : Form} {native : Json}
    {path expected actual : String} (hitems : form.root.ItemsOpen)
    (hopened : ∃ start, form.opened = .ok start) (hnative : native.Proper)
    (h : form.load native = .error (.misshapen path expected actual)) :
    ∃ place target value, form.root.IsMisfit native place target value expected ∧
      value.typeName = actual ∧
        DataError.withinSteps place (.misshapen "" expected actual) =
          .misshapen path expected actual :=
  Field.exists_isMisfit_of_load hitems (fun _ => hopened) hnative h

/-- A schema with a list of lists of integers in a group with a default. -/
def tableSchema : Json :=
  .object
    [("type", .string "object"),
      ("properties",
        .object
          [("table",
            .object
              [("type", .string "object"),
                ("properties",
                  .object
                    [("rows",
                        .object
                          [("type", .string "array"),
                            ("items",
                              .object
                                [("type", .string "array"),
                                  ("items", .object [("type", .string "integer")])])]),
                      ("marks",
                        .object
                          [("type", .string "array"),
                            ("items", .object [("enum", .array [.string "a", .string "b"])])])]),
                ("default", .object [("rows", .array [.array []])])])])]

/-- Data for a table with a text among the integers. -/
def table : Json :=
  .object
    [("table",
      .object
        [("marks", .array [.bool true, .string "c"]),
          ("rows",
            .array
              [.array [.number (.integer 1)], .array [.number (.integer 2), .string "x"], .null])])]

/-- The text among the integers of a table is where loading stops. -/
theorem exists_isMisfit_of_load_table :
    ∃ form place target value, compile Registry.standard {} tableSchema = .ok form ∧
      form.root.ItemsOpen ∧ (∃ start, form.opened = .ok start) ∧
        form.load table = .error (.misshapen "table.rows[1][1]" "an integer" "string") ∧
          form.root.IsMisfit table place target value "an integer" ∧
            value.typeName = "string" ∧
              DataError.withinSteps place (.misshapen "" "an integer" "string") =
                .misshapen "table.rows[1][1]" "an integer" "string" := by
  have hregistry := Registry.isBuiltIn_standard.isRegular.opensItems
  have hnative : table.Proper := by decide +kernel
  have hevaluated :
      (passes (compile Registry.standard {} tableSchema) fun form =>
        Rule.succeeded form.opened &&
          failsWith (form.load table) fun error =>
            error == .misshapen "table.rows[1][1]" "an integer" "string") = true := by
    decide +kernel
  simp only [passes_iff, failsWith_iff, Bool.and_eq_true, beq_iff_eq] at hevaluated
  obtain ⟨form, hform, hopened, _, hload, rfl⟩ := hevaluated
  have hitems := Building.itemsOpen_of_compile hregistry hform
  have hstart := exists_of_succeeded hopened
  obtain ⟨place, target, value, hmisfit⟩ :=
    exists_isMisfit_of_load_misshapen hitems hstart hnative hload
  exact ⟨form, place, target, value, hform, hitems, hstart, hload, hmisfit⟩

/-- A step into an object with a single entry leads to its value. -/
theorem part?_of_single_entry {name : String} {child value : Json} {step : Step}
    {place : List Step} (h : Json.part? (.object [(name, child)]) (step :: place) = some value) :
    child.part? place = some value := by
  cases step with
  | name step =>
      simp only [Json.part?, Entries.get?_cons, Entries.get?_nil] at h
      split at h
      · simpa using h
      · simp at h
  | position index => cases h

/-- A step into an array with a single item leads to the item. -/
theorem part?_of_single_item {child value : Json} {step : Step} {place : List Step}
    (h : Json.part? (.array [child]) (step :: place) = some value) :
    child.part? place = some value := by
  cases step with
  | name step => cases h
  | position index =>
      cases index with
      | zero => simpa [Json.part?] using h
      | succ index => simp [Json.part?] at h

/-- No value in an invoice is a text: it holds one value below another, and the last is a number. -/
theorem typeName_part?_invoice {place : List Step} {value : Json}
    (h : invoice.part? place = some value) : value.typeName ≠ "string" := by
  rcases place with _ | ⟨_, place⟩
  · cases h
    decide
  have hrows := part?_of_single_entry h
  rcases place with _ | ⟨_, place⟩
  · cases hrows
    decide
  have hrow := part?_of_single_item hrows
  rcases place with _ | ⟨_, place⟩
  · cases hrow
    decide
  have hcount := part?_of_single_entry hrow
  rcases place with _ | ⟨_, place⟩
  · cases hcount
    decide
  · simp [Json.part?] at hcount

/-- Where the rows of an invoice do not open, an invoice with a row is refused for a text that it
does not hold: the text is the default of the count. -/
theorem not_exists_isMisfit_invoice :
    ∃ form, compile Registry.withRows {} (invoiceSchema (.string "x")) = .ok form ∧
      (∃ start, form.opened = .ok start) ∧
        form.load invoice = .error (.misshapen "rows[0].count" "an integer" "string") ∧
          ¬ ∃ place target value, form.root.IsMisfit invoice place target value "an integer" ∧
            value.typeName = "string" ∧
              DataError.withinSteps place (.misshapen "" "an integer" "string") =
                .misshapen "rows[0].count" "an integer" "string" := by
  have hevaluated :
      (passes (compile Registry.withRows {} (invoiceSchema (.string "x"))) fun form =>
        Rule.succeeded form.opened &&
          failsWith (form.load invoice) fun error =>
            error == .misshapen "rows[0].count" "an integer" "string") = true := by
    decide +kernel
  simp only [passes_iff, failsWith_iff, Bool.and_eq_true, succeeded_iff, beq_iff_eq] at hevaluated
  obtain ⟨form, hform, hopened, _, hload, rfl⟩ := hevaluated
  refine ⟨form, hform, hopened, hload, ?_⟩
  rintro ⟨place, target, value, hmisfit, htype, -⟩
  exact typeName_part?_invoice hmisfit.value_eq htype

end Form
end SchemaForm
