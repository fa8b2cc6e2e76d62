import SchemaForm.Proofs.Codec.Writable
import SchemaForm.Proofs.Form.Shape
import SchemaForm.Widget

/-!
# Widgets and opened forms

The widgets of a form and the draft with which it opens are made apart from the
same fields.  Both have the shape of the form.  A widget starts with the default
of its own field, which is also what the field opens as.  The default of a group
only goes into the draft, so that widget and draft may differ below it.

Main results:

- Theorem `shows_of_ofField`: the widget of a field is one of six, by the kind of the field.
- Theorem `sameShape_eq`: the drafts that have the shape of a widget are those of its field.
- Theorem `startsAs_opened`: a widget starts with what its field opens as.
- Theorem `exists_ofField_iff`: a field that opens has a widget when the items of its lists have.
- Theorem `Form.widget_of_opened`: the widgets of a form next to the draft with which it opens.
- Theorem `Form.widget_defaultSchema`: a widget that starts with another value than the draft.
-/

namespace SchemaForm

open Result

namespace Widget

/-! ## Parts of widgets -/

/-- The widget of a group under a name. -/
def child? (widget : Widget) (name : String) : Option Widget :=
  match widget with
  | .group _ _ _ children => Entries.get? children name
  | _ => none

/-- The widget at the end of a path of names through groups. -/
def find? (widget : Widget) : List String → Option Widget
  | [] => some widget
  | name :: path => (widget.child? name).bind fun child => child.find? path

/-- The kind of draft that a widget edits. -/
def draftKind : Widget → String
  | .input _ => "text"
  | .select _ => "choice"
  | .switch .. => "toggle"
  | .multiSelect .. => "choices"
  | .list .. => "list"
  | .group .. => "group"

/-- The input at a place of a widget. -/
def lineAt? (widget : Widget) (path : List String) : Option TextInput :=
  match widget.find? path with
  | some (.input line) => some line
  | _ => none

theorem lineAt?_eq_some {widget : Widget} {path : List String} {line : TextInput} :
    widget.lineAt? path = some line ↔ widget.find? path = some (.input line) := by
  unfold lineAt?
  split
  · rename_i found hfound
    simp [hfound]
  · rename_i hother
    simpa using hother line

mutual

/-- Whether a widget and a draft have the same shape: nodes of the same kinds, with the same names
in the same order. -/
def sameShape : Widget → Draft → Bool
  | .list _ _ _ item _ => fun draft =>
      match draft with
      | .list items => items.all (sameShape item)
      | _ => false
  | .group _ _ _ children => fun draft =>
      match draft with
      | .group entries => sameShapes children entries
      | _ => false
  | widget => fun draft => draft.kind == widget.draftKind

/-- Whether named widgets and the nodes of a group have the same names and shapes. -/
def sameShapes : List (String × Widget) → List (String × Draft) → Bool
  | [] => fun entries => entries.isEmpty
  | (name, widget) :: rest => fun entries =>
      match entries with
      | (other, node) :: others => other == name && sameShape widget node && sameShapes rest others
      | [] => false

end

/-- Whether a widget for a field starts with the value of a draft.  The data of a list is loaded
item by item; a group has no value of its own. -/
def StartsAs (field : Field) : Widget → Draft → Prop
  | .input line, .text text => line.value = text
  | .select choices, .choice chosen => choices.value = chosen
  | .switch _ _ on, .toggle toggled => on = toggled
  | .multiSelect _ _ selected, .choices chosen => selected = chosen
  | .list _ _ _ _ data, .list items =>
      ∃ item, field.item? = some item ∧
        List.Forall₂ (fun native draft => item.load native = .ok draft) data items
  | .group .., .group _ => True
  | _, _ => False

/-- The widgets of a group are those of its fields. -/
theorem ofFields_eq_ok {fields : List (String × Field)} {children : List (String × Widget)} :
    ofFields fields = .ok children ↔
      List.Forall₂ (fun field child => child.1 = field.1 ∧ ofField field.2 = .ok child.2) fields
        children := by
  induction fields generalizing children with
  | nil =>
      simp only [ofFields, Except.ok.injEq, List.forall₂_nil_left_iff]
      exact eq_comm
  | cons field rest ih =>
      obtain ⟨name, field⟩ := field
      simp only [ofFields, bind_eq_ok, pure_eq_ok, ih, List.forall₂_cons_left_iff]
      constructor
      · rintro ⟨widget, hwidget, others, hothers, rfl⟩
        exact ⟨(name, widget), others, ⟨rfl, hwidget⟩, hothers, rfl⟩
      · rintro ⟨⟨_, widget⟩, others, ⟨rfl, hwidget⟩, hothers, rfl⟩
        exact ⟨widget, hwidget, others, hothers, rfl⟩

/-- A group has the group of the widgets of its fields. -/
theorem exists_ofFields {spec : Spec} {fields : List (String × Field)} {widget : Widget}
    (h : ofField (.object spec fields) = .ok widget) :
    ∃ children, ofFields fields = .ok children ∧
      widget = .group spec.header.name spec.header.label spec.header.required children := by
  obtain ⟨children, hchildren, rfl⟩ := map_eq_ok.mp h
  exact ⟨children, hchildren, rfl⟩

/-- The widgets that show fields, one for each way to enter a value. -/
inductive Shows : Field → Widget → Prop where
  | switch (spec : Spec) :
      Shows (.boolean spec)
        (.switch spec.header.name (Field.displayLabel (.boolean spec)) spec.defaultIsOn)
  | select {spec : Spec} (hselect : Field.isSelect (.string spec) = true) :
      Shows (.string spec) (.select (choiceListOf (.string spec)))
  | input {field : Field} {line : TextInput} (hinput : field.isInput = true)
      (hline : inputOf field = .ok line) : Shows field (.input line)
  | multiSelect {spec : Spec} {item : Field} {choices : List String}
      (hchoices : item.attributes.choices = some choices) :
      Shows (.array spec item)
        (.multiSelect spec.header.name choices (spec.defaultItems.map Json.plainText))
  | list {spec : Spec} {item : Field} {part : Widget} (hchoices : item.attributes.choices = none)
      (hpart : ofField item = .ok part) :
      Shows (.array spec item)
        (.list spec.header.name spec.header.label spec.header.required part spec.defaultItems)
  | group {spec : Spec} {fields : List (String × Field)} {children : List (String × Widget)}
      (hchildren : ofFields fields = .ok children) :
      Shows (.object spec fields)
        (.group spec.header.name spec.header.label spec.header.required children)

/-- The widget of a field shows it. -/
theorem shows_of_ofField {field : Field} {widget : Widget} (h : ofField field = .ok widget) :
    Shows field widget := by
  cases field with
  | boolean spec =>
      cases h
      exact .switch spec
  | string spec =>
      by_cases hselect : Field.isSelect (.string spec) = true
      · simp only [ofField, if_pos hselect, Except.ok.injEq] at h
        exact h ▸ .select hselect
      · simp only [ofField, if_neg hselect] at h
        obtain ⟨line, hline, rfl⟩ := map_eq_ok.mp h
        exact .input (Field.isInput_string (Bool.eq_false_iff.mpr hselect)) hline
  | number spec =>
      obtain ⟨line, hline, rfl⟩ := map_eq_ok.mp h
      exact .input rfl hline
  | array spec item =>
      simp only [ofField] at h
      split at h
      · cases h
        exact .multiSelect ‹_›
      · obtain ⟨part, hpart, rfl⟩ := map_eq_ok.mp h
        exact .list ‹_› hpart
  | object spec fields =>
      obtain ⟨children, hchildren, rfl⟩ := exists_ofFields h
      exact .group hchildren

/-- A list has a widget for choices, or one for its items. -/
theorem ofField_array {spec : Spec} {item : Field} {widget : Widget}
    (h : ofField (.array spec item) = .ok widget) :
    (item.attributes.choices.isSome = true ∧ ∃ choices, widget =
        .multiSelect spec.header.name choices (spec.defaultItems.map Json.plainText)) ∨
      (item.attributes.choices.isSome = false ∧ ∃ part, ofField item = .ok part ∧
        widget = .list spec.header.name spec.header.label spec.header.required part
          spec.defaultItems) := by
  cases shows_of_ofField h with
  | multiSelect hchoices => exact .inl ⟨by rw [hchoices]; rfl, _, rfl⟩
  | list hchoices hpart => exact .inr ⟨by rw [hchoices]; rfl, _, hpart, rfl⟩
  | input hinput => cases hinput

/-- The widget of a form has the widget of a field at the place of the field. -/
theorem exists_find?_ofField {field target : Field} {widget : Widget} {path : List String}
    (hwidget : ofField field = .ok widget) (hfield : Form.descend field path = some target) :
    ∃ part, widget.find? path = some part ∧ ofField target = .ok part := by
  induction path generalizing field widget with
  | nil =>
      cases hfield
      exact ⟨widget, rfl, hwidget⟩
  | cons name path ih =>
      obtain ⟨spec, fields, child, rfl, hchild, htarget⟩ := Form.descend_cons.mp hfield
      obtain ⟨children, hchildren, rfl⟩ := exists_ofFields hwidget
      obtain ⟨part, hpart, hwidget⟩ :=
        Field.get?_of_forall₂ (r := fun field widget => ofField field = .ok widget)
          (ofFields_eq_ok.mp hchildren) hchild
      obtain ⟨found, hfound, htarget⟩ := ih hwidget htarget
      refine ⟨found, ?_, htarget⟩
      simp only [find?, child?, hpart, Option.bind_some]
      exact hfound

/-! ## Shapes -/

/-- The widgets of fields have the shapes of the fields when each of them has. -/
theorem sameShapes_eq {fields : List (String × Field)} {children : List (String × Widget)}
    (hchildren : ofFields fields = .ok children)
    (h : ∀ field ∈ fields, ∀ {widget}, ofField field.2 = .ok widget →
      ∀ draft, widget.sameShape draft = field.2.isShaped draft)
    (entries : List (String × Draft)) :
    sameShapes children entries = Field.areShaped fields entries := by
  rw [ofFields_eq_ok] at hchildren
  induction hchildren generalizing entries with
  | nil => rfl
  | @cons field child _ _ hchild _ ih =>
      obtain ⟨name, widget⟩ := child
      obtain ⟨rfl, hwidget⟩ := hchild
      have hfirst := h field List.mem_cons_self hwidget
      have hrest := ih fun other hother => h other (List.mem_cons_of_mem _ hother)
      cases entries with
      | nil => rfl
      | cons entry others => simp only [sameShapes, Field.areShaped, hfirst, hrest]

/-- The drafts that have the shape of a widget are those in the shape of its field. -/
theorem sameShape_eq {field : Field} {widget : Widget} (h : ofField field = .ok widget)
    (draft : Draft) : widget.sameShape draft = field.isShaped draft := by
  induction field using Field.induction generalizing widget draft with
  | boolean spec =>
      cases h
      rfl
  | string spec =>
      simp only [ofField] at h
      split at h
      · rename_i hselect
        cases h
        simp only [sameShape, Field.isShaped, Field.draftKind_string, if_pos hselect]
        rfl
      · rename_i hselect
        obtain ⟨line, -, rfl⟩ := map_eq_ok.mp h
        simp only [sameShape, Field.isShaped, Field.draftKind_string, if_neg hselect]
        rfl
  | number spec =>
      obtain ⟨line, -, rfl⟩ := map_eq_ok.mp h
      rfl
  | array spec item ih =>
      rcases ofField_array h with ⟨hchoices, choices, rfl⟩ | ⟨hchoices, part, hpart, rfl⟩
      · simp only [sameShape, Field.isShaped, Field.draftKind_array, if_pos hchoices]
        cases draft <;> simp [Draft.kind, draftKind]
      · have hpart : part.sameShape = item.isShaped := funext (ih hpart)
        simp only [sameShape, Field.isShaped, Field.draftKind_array, hchoices, hpart]
        cases draft <;> simp [Draft.kind]
  | object spec fields ih =>
      obtain ⟨children, hchildren, rfl⟩ := exists_ofFields h
      cases draft with
      | group entries =>
          simp only [sameShape, Field.isShaped]
          exact sameShapes_eq hchildren (fun field hfield => ih field hfield) entries
      | _ => rfl

/-! ## Start values -/

/-- An input starts with the text of the default. -/
theorem defaultText_of_inputOf {field : Field} {line : TextInput} (h : inputOf field = .ok line) :
    field.spec.defaultText = .ok line.value := by
  simp only [inputOf, bind_eq_ok, pure_eq_ok] at h
  obtain ⟨value, hvalue, rfl⟩ := h
  exact hvalue

/-- A list opens with the items of its default. -/
theorem opened_array (spec : Spec) (item : Field) :
    Field.opened (.array spec item) = Field.loadItems item item.load spec.defaultItems := by
  have hempty : Field.loadItems item item.load [] = .ok (Field.cleared (.array spec item)) := by
    unfold Field.loadItems Field.cleared
    split <;> rfl
  simp only [Field.opened, Spec.defaultItems]
  cases spec.attributes.default with
  | none => exact hempty.symm
  | some value =>
      cases value with
      | array natives => rfl
      | _ => exact hempty.symm

/-- The texts of choices in data are the data as plain texts. -/
theorem map_plainText_of_choiceText {natives : List Json} {texts : List String}
    (h : Field.eachItem Field.choiceText 0 natives = .ok texts) :
    natives.map Json.plainText = texts := by
  rw [Field.eachItem_eq_ok] at h
  have hplain : List.Forall₂ (fun native text => native.plainText = text) natives texts := by
    refine h.imp fun native text htext => ?_
    unfold Field.choiceText at htext
    split at htext <;> cases htext <;> rfl
  rw [← List.forall₂_map_left_iff, List.forall₂_eq_eq_eq] at hplain
  exact hplain

/-- A widget starts with what its field opens as. -/
theorem startsAs_opened {field : Field} {widget : Widget} {base : Draft}
    (hwidget : ofField field = .ok widget) (hbase : field.opened = .ok base) :
    widget.StartsAs field base := by
  cases field with
  | boolean spec =>
      cases hwidget
      cases hbase
      rfl
  | string spec =>
      simp only [ofField] at hwidget
      simp only [Field.opened] at hbase
      split at hwidget
      · rename_i hselect
        cases hwidget
        rw [if_pos hselect] at hbase
        cases hbase
        rfl
      · rename_i hselect
        rw [if_neg hselect] at hbase
        obtain ⟨line, hline, rfl⟩ := map_eq_ok.mp hwidget
        obtain ⟨text, htext, rfl⟩ := map_eq_ok.mp hbase
        exact Except.ok.inj ((defaultText_of_inputOf hline).symm.trans htext)
  | number spec =>
      obtain ⟨line, hline, rfl⟩ := map_eq_ok.mp hwidget
      obtain ⟨text, htext, rfl⟩ := map_eq_ok.mp hbase
      exact Except.ok.inj ((defaultText_of_inputOf hline).symm.trans htext)
  | array spec item =>
      rw [opened_array, Field.loadItems] at hbase
      rcases ofField_array hwidget with ⟨hchoices, choices, rfl⟩ | ⟨hchoices, part, -, rfl⟩
      · rw [if_pos hchoices] at hbase
        obtain ⟨texts, htexts, rfl⟩ := map_eq_ok.mp hbase
        exact map_plainText_of_choiceText htexts
      · rw [hchoices] at hbase
        obtain ⟨drafts, hdrafts, rfl⟩ := map_eq_ok.mp hbase
        exact ⟨item, rfl, Field.eachItem_eq_ok.mp hdrafts⟩
  | object spec fields =>
      obtain ⟨children, -, rfl⟩ := exists_ofFields hwidget
      obtain ⟨_, group, -, -, rfl⟩ := Field.opened_object_eq_ok.mp hbase
      trivial

end Widget

/-! ## Fields with a widget -/

namespace Field

mutual

/-- Whether the items of every list have a widget, where they are not choices. -/
def itemsShow : Field → Bool
  | .array _ item => item.attributes.choices.isSome || Rule.succeeded (Widget.ofField item)
  | .object _ fields => fieldsItemsShow fields
  | _ => true

/-- Whether the items of every list in a group have a widget. -/
def fieldsItemsShow : List (String × Field) → Bool
  | [] => true
  | (_, field) :: rest => itemsShow field && fieldsItemsShow rest

end

theorem fieldsItemsShow_iff {fields : List (String × Field)} :
    fieldsItemsShow fields = true ↔ ∀ field ∈ fields, field.2.itemsShow = true := by
  induction fields with
  | nil => simp [fieldsItemsShow]
  | cons field rest ih => simp only [fieldsItemsShow, Bool.and_eq_true, ih, List.forall_mem_cons]

end Field

namespace Widget

/-- A group has a widget when each of its fields has. -/
theorem exists_ofField_object_iff {spec : Spec} {fields : List (String × Field)} :
    (∃ widget, ofField (.object spec fields) = .ok widget) ↔
      ∀ field ∈ fields, ∃ widget, ofField field.2 = .ok widget := by
  constructor
  · rintro ⟨widget, hwidget⟩ field hfield
    obtain ⟨children, hchildren, -⟩ := exists_ofFields hwidget
    obtain ⟨child, -, -, hchild⟩ := Field.exists_of_forall₂ (ofFields_eq_ok.mp hchildren) hfield
    exact ⟨child.2, hchild⟩
  · intro h
    have hchildren : ∀ field ∈ fields, ∃ child : String × Widget, child.1 = field.1 ∧
        ofField field.2 = .ok child.2 := by
      intro field hfield
      obtain ⟨widget, hwidget⟩ := h field hfield
      exact ⟨(field.1, widget), rfl, hwidget⟩
    obtain ⟨children, hchildren⟩ := Field.exists_forall₂ hchildren
    exact ⟨_, ofField_object (ofFields_eq_ok.mpr hchildren)⟩

/-- An input field whose default has a text has a widget. -/
theorem exists_ofField_input {field : Field} (hinput : field.isInput = true) {text : String}
    (htext : field.spec.defaultText = .ok text) : ∃ widget, ofField field = .ok widget := by
  have hline : ∃ line, inputOf field = .ok line := by
    simp only [inputOf, htext, ok_bind]
    exact ⟨_, rfl⟩
  obtain ⟨line, hline⟩ := hline
  refine ⟨.input line, ?_⟩
  cases field with
  | string spec =>
      have hselect : Field.isSelect (.string spec) = false := by
        simpa [Field.isInput] using hinput
      simp only [ofField, hselect, hline]
      rfl
  | number spec =>
      simp only [ofField, hline]
      rfl
  | _ => cases hinput

/-- A list has a widget when it has choices or its items have a widget. -/
theorem exists_ofField_array_iff {spec : Spec} {item : Field} :
    (∃ widget, ofField (.array spec item) = .ok widget) ↔
      (item.attributes.choices.isSome || Rule.succeeded (ofField item)) = true := by
  simp only [ofField]
  cases item.attributes.choices with
  | none =>
      rw [Option.isSome_none, Bool.false_or, succeeded_iff]
      exact exists_map_eq_ok
  | some choices => exact iff_of_true ⟨_, rfl⟩ rfl

/-- A field that opens has a widget exactly when the items of its lists have. -/
theorem exists_ofField_iff {field : Field} (hopened : ∃ start, field.opened = .ok start) :
    (∃ widget, ofField field = .ok widget) ↔ field.itemsShow = true := by
  induction field using Field.induction with
  | boolean spec => exact iff_of_true ⟨_, rfl⟩ rfl
  | string spec =>
      refine iff_of_true ?_ rfl
      by_cases hselect : Field.isSelect (.string spec) = true
      · exact ⟨_, if_pos hselect⟩
      · obtain ⟨start, hstart⟩ := hopened
        simp only [Field.opened, if_neg hselect] at hstart
        obtain ⟨text, htext, -⟩ := map_eq_ok.mp hstart
        exact exists_ofField_input (Field.isInput_string (Bool.eq_false_iff.mpr hselect)) htext
  | number spec =>
      refine iff_of_true ?_ rfl
      obtain ⟨start, hstart⟩ := hopened
      obtain ⟨text, htext, -⟩ := map_eq_ok.mp hstart
      exact exists_ofField_input rfl htext
  | array spec item ih => exact exists_ofField_array_iff
  | object spec fields ih =>
      rw [exists_ofField_object_iff, Field.itemsShow, Field.fieldsItemsShow_iff]
      exact forall₂_congr fun field hfield =>
        ih field hfield (Field.exists_opened_of_mem hopened hfield)

/-- Under patterns that can be written every field has a widget. -/
theorem exists_ofField_of_isWritable {patterns : DatePatterns} (hpatterns : patterns.IsWritable)
    {field : Field} (hfield : field.IsRegular patterns) : ∃ widget, ofField field = .ok widget := by
  induction hfield with
  | boolean spec => exact ⟨_, rfl⟩
  | @string spec hspec =>
      by_cases hselect : Field.isSelect (.string spec) = true
      · exact ⟨_, if_pos hselect⟩
      · obtain ⟨text, htext⟩ := Spec.exists_defaultText (hspec.symm ▸ hpatterns)
        exact exists_ofField_input (Field.isInput_string (Bool.eq_false_iff.mpr hselect)) htext
  | @number spec hspec =>
      obtain ⟨text, htext⟩ := Spec.exists_defaultText (hspec.symm ▸ hpatterns)
      exact exists_ofField_input rfl htext
  | array _ _ ih =>
      rw [exists_ofField_array_iff, Bool.or_eq_true]
      exact .inr (succeeded_iff.mpr ih)
  | object _ _ ih => exact exists_ofField_object_iff.mpr ih

end Widget

/-! ## Forms -/

namespace Form

/-- A form that opens has widgets exactly when the items of its lists have.  They have the shape of
the draft with which it opens.  At each place through groups the widget starts with what the field
there opens as, and so does the draft where the defaults of the groups around it say nothing about
the place. -/
theorem widget_of_opened {form : Form} {start : Draft} (hopened : form.opened = .ok start) :
    ((∃ widget, Widget.ofField form.root = .ok widget) ↔ form.root.itemsShow = true) ∧
      ∀ widget, Widget.ofField form.root = .ok widget →
        widget.sameShape start = true ∧
          ∀ path field, descend form.root path = some field →
            ∃ part node base, widget.find? path = some part ∧ start.find? path = some node ∧
              field.opened = .ok base ∧ part.StartsAs field base ∧
                (form.root.spares path [] = true → node = base) := by
  refine ⟨Widget.exists_ofField_iff ⟨start, hopened⟩, fun widget hwidget => ⟨?_, ?_⟩⟩
  · rw [Widget.sameShape_eq hwidget]
    exact Field.isShaped_opened hopened
  · intro path field hfield
    obtain ⟨part, hpart, hmade⟩ := Widget.exists_find?_ofField hwidget hfield
    obtain ⟨node, hnode, -⟩ :=
      Field.exists_find?_of_isShaped (Field.isShaped_opened hopened) hfield
    obtain ⟨base, hbase⟩ := Field.exists_opened_of_descend ⟨start, hopened⟩ hfield
    refine ⟨part, node, base, hpart, hnode, hbase, Widget.startsAs_opened hmade hbase, ?_⟩
    intro hspares
    rw [Field.find?_opened hopened hfield hbase hspares, Option.some.injEq] at hnode
    exact hnode.symm

/-- Under patterns that can be written every form has widgets. -/
theorem exists_widget_of_isWritable {registry : Registry} {settings : Settings} {schema : Json}
    {form : Form} (hregistry : registry.IsRegular) (hschema : schema.Proper)
    (hpatterns : settings.patterns.IsWritable)
    (hform : compile registry settings schema = .ok form) :
    ∃ widget, Widget.ofField form.root = .ok widget :=
  Widget.exists_ofField_of_isWritable hpatterns
    (Building.regular_of_compile hregistry hschema hform).1

/-- A schema with a field that has a default, and a default of the root for another field. -/
def defaultSchema : Json :=
  .object
    [("type", .string "object"),
      ("properties",
        .object
          [("a", .object [("type", .string "string"), ("default", .string "inner")]),
            ("b", .object [("type", .string "string")])]),
      ("default", .object [("b", .string "outer")])]

/-- The input of a field with a default starts with the text with which the form opens. -/
theorem widget_spared_defaultSchema :
    ∃ form start widget line, compile Registry.standard {} defaultSchema = .ok form ∧
      form.opened = .ok start ∧ Widget.ofField form.root = .ok widget ∧
        widget.sameShape start = true ∧ widget.find? ["a"] = some (.input line) ∧
          line.value = "inner" ∧ start.find? ["a"] = some (.text "inner") := by
  have hevaluated :
      (passes (compile Registry.standard {} defaultSchema) fun form =>
        (passes form.opened fun start => start.textAt? ["a"] == some "inner") &&
          form.root.itemsShow && (descend form.root ["a"]).isSome &&
            form.root.spares ["a"] []) = true := by
    decide +kernel
  simp only [passes_iff, Bool.and_eq_true, beq_iff_eq, Draft.textAt?_eq_some] at hevaluated
  obtain ⟨form, hform, ⟨⟨⟨start, hopened, hstart⟩, hitems⟩, hfield⟩, hspares⟩ := hevaluated
  obtain ⟨field, hfield⟩ := Option.isSome_iff_exists.mp hfield
  obtain ⟨hiff, hwidgets⟩ := widget_of_opened hopened
  obtain ⟨widget, hwidget⟩ := hiff.mpr hitems
  obtain ⟨hshape, hplaces⟩ := hwidgets widget hwidget
  obtain ⟨part, node, base, hpart, hnode, -, hvalue, hsame⟩ := hplaces ["a"] field hfield
  rw [← hsame hspares, Option.some.inj (hnode.symm.trans hstart)] at hvalue
  cases part with
  | input line =>
      exact ⟨form, start, widget, line, hform, hopened, hwidget, hshape, hpart, hvalue, hstart⟩
  | _ => cases hvalue

/-- The input of a field for which a group around it has a default starts without it. -/
theorem widget_defaultSchema :
    ∃ form start widget line, compile Registry.standard {} defaultSchema = .ok form ∧
      form.opened = .ok start ∧ Widget.ofField form.root = .ok widget ∧
        widget.find? ["b"] = some (.input line) ∧ line.value = "" ∧
          start.find? ["b"] = some (.text "outer") := by
  have hevaluated :
      (passes (compile Registry.standard {} defaultSchema) fun form =>
        (passes form.opened fun start => start.textAt? ["b"] == some "outer") &&
          passes (Widget.ofField form.root) fun widget =>
            (widget.lineAt? ["b"]).any fun line => line.value == "") = true := by
    decide +kernel
  simp only [passes_iff, Bool.and_eq_true, beq_iff_eq, Draft.textAt?_eq_some, Option.any_eq_true,
    Widget.lineAt?_eq_some] at hevaluated
  obtain ⟨form, hform, ⟨start, hopened, hstart⟩, widget, hwidget, line, hpart, hline⟩ := hevaluated
  exact ⟨form, start, widget, line, hform, hopened, hwidget, hpart, hline, hstart⟩

end Form
end SchemaForm
