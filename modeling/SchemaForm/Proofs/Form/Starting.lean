import SchemaForm.Proofs.Building.Defaults
import SchemaForm.Proofs.Form.Complete
import SchemaForm.Proofs.Form.Place
import SchemaForm.Proofs.Widget.Start

/-!
# Where a draft starts from

A field starts from data, if there is any for it, or else with its own default.
A group hands down what the data for it has under the name of a field, or else
what its default has there; only where both lack the name does the field start
with its own default.  So one can tell from the data which input fields show
their own defaults.

Main results:

- Theorem `exists_nodes_of_draftFor`: each node of a group is made from what the group hands down to
  its field.
- Theorem `exists_load_of_draftFor_array`: a list is always loaded, from its default if there is no
  data.
- Theorem `exists_corresponds_of_draftFor`: what is shown by a field that is neither a group nor
  entered as text stands for data.
- Theorem `mem_showingDefaultIn`: the fields of a group that show their own defaults.
-/

namespace SchemaForm

open Result

/-! ## What a group hands down -/

namespace Spec

/-- The entries of a default that is an object. -/
def defaultEntries (spec : Spec) : Entries Json :=
  (spec.attributes.default.bind Json.asObject?).getD []

/-- What a group hands down to the field of a name when data is given for the group, or none: what
stands under the name in the data, or else in the default of the group.  Without an object the
fields are cleared. -/
def handDown (spec : Spec) (given : Option Json) (name : String) : Option Json :=
  match given with
  | none => spec.defaultEntries.get? name
  | some (.object natives) => (Entries.get? natives name).or (spec.defaultEntries.get? name)
  | some _ => some .null

variable {spec : Spec}

/-- The items of a proper default are proper. -/
theorem proper_defaultItems (h : ∀ value ∈ spec.attributes.default, value.Proper) :
    (Json.array spec.defaultItems).Proper := by
  unfold defaultItems
  cases hvalue : spec.attributes.default with
  | none => exact .array (by simp)
  | some value =>
      cases value with
      | array items => exact h _ hvalue
      | _ => exact .array (by simp [Json.asArray?])

/-- The entries of a proper default are proper. -/
theorem proper_defaultEntries (h : ∀ value ∈ spec.attributes.default, value.Proper) :
    (Json.object spec.defaultEntries).Proper := by
  have hempty : (Json.object []).Proper := .object List.nodup_nil (by simp)
  unfold defaultEntries
  cases hvalue : spec.attributes.default with
  | none => exact hempty
  | some value =>
      cases value with
      | object entries => exact h _ hvalue
      | _ => exact hempty

/-- A group hands down proper data when its default and the data for it are proper. -/
theorem proper_handDown (hdefault : ∀ value ∈ spec.attributes.default, value.Proper)
    {given : Option Json} (hgiven : ∀ value ∈ given, value.Proper) {name : String} :
    ∀ value ∈ spec.handDown given name, value.Proper := by
  have hentries := proper_defaultEntries hdefault
  intro value hvalue
  unfold handDown at hvalue
  split at hvalue
  · exact hentries.get? hvalue
  · rcases Option.or_eq_some_iff.mp hvalue with hnative | ⟨-, hentry⟩
    · exact (hgiven _ rfl).get? hnative
    · exact hentries.get? hentry
  · cases hvalue
    exact .null

end Spec

namespace Field

/-! ## Drafts for given data -/

/-- The draft of a field when data is given for it, or none. -/
def draftFor (field : Field) (given : Option Json) : Except DataError Draft :=
  match given with
  | none => field.opened
  | some native => field.load native

section Groups

variable {spec : Spec} {fields : List (String × Field)} {given : Option Json} {draft : Draft}

/-- The default of a group is merged as the object that it is. -/
theorem mergeDefault_eq (loaders : Entries (Json → Except DataError Draft)) (spec : Spec)
    (group : Entries Draft) :
    mergeDefault loaders spec group = mergeInto loaders group spec.defaultEntries := by
  unfold mergeDefault Spec.defaultEntries
  cases spec.attributes.default with
  | none => rfl
  | some value => cases value <;> rfl

/-- Merging hands down what is under the name of a field, and leaves the node of the field alone if
there is nothing. -/
theorem exists_node_of_mergeInto {group merged : Entries Draft} {natives : Entries Json}
    (hdistinct : natives.names.Nodup) (h : mergeInto (loaders fields) group natives = .ok merged)
    {name : String} {field : Field} (hfield : Entries.get? fields name = some field) {node : Draft}
    (hnode : group.get? name = some node) (hstart : field.draftFor given = .ok node) :
    ∃ after, merged.get? name = some after ∧
      field.draftFor ((natives.get? name).or given) = .ok after := by
  cases hnative : natives.get? name with
  | none =>
      have hname : name ∉ natives.names := Entries.get?_eq_none_iff.mp hnative
      exact ⟨node, by rw [get?_mergeInto_of_notMem h hname, hnode], hstart⟩
  | some native =>
      have hloader := get?_loaders_of_get? hfield
      obtain ⟨after, hafter, hget⟩ := get?_mergeInto hdistinct h hloader hnative
      exact ⟨after, hget, hafter⟩

/-- Each node of a group that opens is made from what the default hands down to its field. -/
theorem exists_node_of_opened (hnames : (Entries.names fields).Nodup)
    (hdefault : ∀ value ∈ spec.attributes.default, value.Proper) {base : Entries Draft}
    (h : opened (.object spec fields) = .ok (.group base)) {field : String × Field}
    (hfield : field ∈ fields) :
    ∃ node, base.get? field.1 = some node ∧
      field.2.draftFor (spec.defaultEntries.get? field.1) = .ok node := by
  obtain ⟨drafts, _, hdrafts, hbase, hsame⟩ := opened_object_eq_ok.mp h
  cases hsame
  have hget := Entries.get?_of_mem hnames hfield
  obtain ⟨node, hnode, hopened⟩ := get?_openedFields hdrafts hget
  rw [mergeDefault_eq] at hbase
  have hdistinct := (Spec.proper_defaultEntries hdefault).nodup_names
  have hstart : field.2.draftFor none = .ok node := hopened
  have hafter := exists_node_of_mergeInto hdistinct hbase hget hnode hstart
  rwa [Option.or_none] at hafter

/-- A group has the names of its fields, and each of its nodes is made from what the group hands
down to its field. -/
theorem exists_nodes_of_draftFor (hnames : (Entries.names fields).Nodup)
    (hdefault : ∀ value ∈ spec.attributes.default, value.Proper)
    (hgiven : ∀ value ∈ given, value.Proper)
    (h : draftFor (.object spec fields) given = .ok draft) :
    ∃ entries : Entries Draft, draft = .group entries ∧ entries.names = Entries.names fields ∧
      ∀ field ∈ fields, ∃ node, entries.get? field.1 = some node ∧
        field.2.draftFor (spec.handDown given field.1) = .ok node := by
  cases given with
  | none =>
      obtain ⟨-, base, -, -, rfl⟩ := opened_object_eq_ok.mp h
      exact ⟨base, rfl, names_opened h, fun field hfield =>
        exists_node_of_opened hnames hdefault h hfield⟩
  | some native =>
      cases native with
      | null =>
          have hcleared : cleared (.object spec fields) = draft := by
            rw [draftFor, load_null] at h
            exact Except.ok.inj h
          subst hcleared
          refine ⟨clearedFields fields, rfl, names_clearedFields fields, fun field hfield => ?_⟩
          exact ⟨field.2.cleared, get?_clearedFields hnames hfield, load_null field.2⟩
      | object natives =>
          obtain ⟨base, merged, hopened, hmerged, rfl⟩ := load_object_eq_ok.mp h
          refine ⟨merged, rfl, names_mergeInto_loaders (names_opened hopened) hmerged, ?_⟩
          intro field hfield
          obtain ⟨node, hnode, hstart⟩ := exists_node_of_opened hnames hdefault hopened hfield
          exact exists_node_of_mergeInto (hgiven _ rfl).nodup_names hmerged
            (Entries.get?_of_mem hnames hfield) hnode hstart
      | _ => simp [draftFor, load] at h

end Groups

/-- A list is loaded from the data for it, or else from its default. -/
theorem exists_load_of_draftFor_array {spec : Spec} {item : Field} {given : Option Json}
    {draft : Draft} (hdefault : ∀ value ∈ spec.attributes.default, value.Proper)
    (hgiven : ∀ value ∈ given, value.Proper)
    (h : draftFor (.array spec item) given = .ok draft) :
    ∃ native : Json, native.Proper ∧ load (.array spec item) native = .ok draft := by
  cases given with
  | none =>
      rw [draftFor, Widget.opened_array] at h
      exact ⟨.array spec.defaultItems, Spec.proper_defaultItems hdefault, h⟩
  | some native => exact ⟨native, hgiven _ rfl, h⟩

/-- What a field shows that is neither a group nor entered as text stands for data, even if it is a
default. -/
theorem exists_corresponds_of_draftFor {field : Field} (hfield : field.IsRegular {})
    (hdefaults : field.HasProperDefaults) (hinput : field.isInput = false)
    (hgroup : field.kind ≠ .object) {given : Option Json}
    (hgiven : ∀ value ∈ given, value.Proper) {draft : Draft}
    (h : field.draftFor given = .ok draft) : ∃ native, field.Corresponds native draft := by
  have hloaded : ∀ {native : Json}, native.Proper → field.load native = .ok draft →
      ∃ settled, field.Corresponds settled draft := by
    intro native hnative hload
    have hcomplete := isComplete_of_isRegular hfield hgroup native
    exact exists_corresponds_of_load hfield.isReloadable hnative hcomplete
      (fun hobject => absurd hobject hgroup) hload
  cases field with
  | boolean spec =>
      cases given with
      | none =>
          cases h
          exact ⟨.bool spec.defaultIsOn, rfl, rfl⟩
      | some native => exact hloaded (hgiven native rfl) h
  | string spec =>
      have hselect : isSelect (.string spec) = true := by simpa [isInput] using hinput
      cases given with
      | none =>
          simp only [draftFor, opened, hselect, if_true, Except.ok.injEq] at h
          subst h
          exact ⟨_, corresponds_select hselect spec.initialChoice⟩
      | some native => exact hloaded (hgiven native rfl) h
  | number spec => cases hinput
  | array spec item =>
      cases hdefaults with
      | leaf hkind => exact absurd rfl hkind.1
      | array hdefault =>
          obtain ⟨native, hnative, hload⟩ := exists_load_of_draftFor_array hdefault hgiven h
          exact hloaded hnative hload
  | object => exact absurd rfl hgroup

/-! ## Fields that show their own defaults -/

mutual

/-- The input fields in a field that show their own defaults when data is given for the field, or
none. -/
def showingDefault : Field → Option Json → List Field
  | .string spec => fun given =>
      if given.isNone && !isSelect (.string spec) then [.string spec] else []
  | .number spec => fun given => if given.isNone then [.number spec] else []
  | .object spec fields => fun given => showingDefaultIn fields (spec.handDown given)
  | _ => fun _ => []

/-- The input fields that show their own defaults in named fields to which data is handed down. -/
def showingDefaultIn : List (String × Field) → (String → Option Json) → List Field
  | [] => fun _ => []
  | (name, field) :: rest => fun handed =>
      showingDefault field (handed name) ++ showingDefaultIn rest handed

end

/-- The fields that show their own defaults in a group are those of its parts. -/
theorem mem_showingDefaultIn {fields : List (String × Field)} {handed : String → Option Json}
    {shown : Field} :
    shown ∈ showingDefaultIn fields handed ↔
      ∃ field ∈ fields, shown ∈ field.2.showingDefault (handed field.1) := by
  induction fields with
  | nil => simp [showingDefaultIn]
  | cons field rest ih => simp [showingDefaultIn, ih]

/-- What holds of the fields that show their own defaults in each part holds of those in the
group. -/
theorem forall_showingDefault_object {spec : Spec} {fields : List (String × Field)}
    {given : Option Json} {holds : Field → Prop} :
    (∀ shown ∈ showingDefault (.object spec fields) given, holds shown) ↔
      ∀ field ∈ fields, ∀ shown ∈ field.2.showingDefault (spec.handDown given field.1),
        holds shown := by
  simp only [showingDefault, mem_showingDefaultIn]
  constructor
  · intro h field hfield shown hshown
    exact h shown ⟨field, hfield, hshown⟩
  · rintro h shown ⟨field, hfield, hshown⟩
    exact h field hfield shown hshown

/-- An input field shows its own default when no data is given for it. -/
theorem showingDefault_input {field : Field} (hinput : field.isInput = true) (given : Option Json) :
    field.showingDefault given = if given.isNone then [field] else [] := by
  cases field with
  | string spec =>
      have hselect : isSelect (.string spec) = false := by simpa [isInput] using hinput
      simp [showingDefault, hselect]
  | number spec => rfl
  | _ => cases hinput

/-- A field that is neither a group nor entered as text shows no default that would be listed. -/
theorem showingDefault_eq_nil {field : Field} (hinput : field.isInput = false)
    (hgroup : field.kind ≠ .object) (given : Option Json) : field.showingDefault given = [] := by
  cases field with
  | string spec =>
      have hselect : isSelect (.string spec) = true := by simpa [isInput] using hinput
      simp [showingDefault, hselect]
  | number spec => cases hinput
  | object spec fields => exact absurd rfl hgroup
  | _ => rfl

/-- An input field holds the text of the data for it, or else that of its default. -/
theorem draftFor_input {field : Field} (hinput : field.isInput = true) (given : Option Json) :
    field.draftFor given =
      (match given with
        | none => field.spec.defaultText
        | some native => field.spec.codec.textOfNative "" native).map .text := by
  cases given with
  | some native => exact load_input hinput native
  | none =>
      cases field with
      | string spec =>
          have hselect : isSelect (.string spec) = false := by simpa [isInput] using hinput
          simp [draftFor, opened, hselect, Field.spec]
      | number spec => rfl
      | _ => cases hinput

end Field
end SchemaForm
