import SchemaForm.Proofs.Field.Settled
import SchemaForm.Proofs.Form.Starting

/-!
# Checking normalized data

Normalizing writes every text back in its settled form.  Texts that come from
data are settled already, so that data without findings keeps them.  The default
of an input field need not be settled: it may be accepted as it is shown and
refused by the pattern or the greatest length of the field once it is written
back.

Main results:

- Theorem `findings_eq_nil_of_place`: whether a draft has findings does not depend on its place.
- Theorem `reloadsWhen_shown`, Theorem `reloadsWhen_input`, Theorem `reloadsWhen_group`: when a
  draft without findings has none after it is read and loaded again.
- Theorem `reloadsWhen_of_draftFor`: this depends on the defaults that show.
- Theorem `Form.exists_normalize_iff`: when normalized data has no findings.
- Theorem `Form.check_normalize_deadlineSchema`: data without findings whose normal form has some.
-/

namespace SchemaForm
namespace Field

open Result

variable {around : Surroundings}

/-! ## Findings at other places -/

/-- A list has no findings when its items have none at any place. -/
theorem findingsOfItems_eq_nil {α : Type} {find : String → α → List Finding} {items : List α}
    (h : ∀ item ∈ items, ∀ place, find place item = []) (path : String) (index : Nat) :
    findingsOfItems find path index items = [] := by
  induction items generalizing index with
  | nil => rfl
  | cons first rest ih =>
      obtain ⟨hfirst, hrest⟩ := List.forall_mem_cons.mp h
      rw [findingsOfItems, hfirst, ih hrest, List.append_nil]

/-- The items of a list have no findings when none of them has violations. -/
theorem findingsOfItems_located_eq_nil {α : Type} {violations : α → List Violation} {path : String}
    {index : Nat} {items : List α} :
    findingsOfItems (fun place item => located place (violations item)) path index items = [] ↔
      ∀ item ∈ items, violations item = [] := by
  constructor
  · intro h item hitem
    obtain ⟨place, hplace⟩ := forall_findingsOfItems h item hitem
    exact located_eq_nil.mp hplace
  · intro h
    exact findingsOfItems_eq_nil (fun item hitem place => located_eq_nil.mpr (h item hitem)) path
      index

/-- The number of items has no findings when it is within its bounds. -/
theorem countFindings_eq_nil_iff {spec : Spec} {path : String} {count : Nat} :
    countFindings spec path count = [] ↔
      (∀ least ∈ spec.attributes.minItems, least ≤ count) ∧
        ∀ most ∈ spec.attributes.maxItems, count ≤ most := by
  unfold countFindings
  cases spec.attributes.minItems <;> cases spec.attributes.maxItems <;> simp

/-- A group has no findings when its nodes have none at any place. -/
theorem findingsOfFields_eq_nil {fields : List (String × Field)} {entries : Entries Draft}
    (h : ∀ field ∈ fields, ∀ place,
      field.2.findings around place ((entries.get? field.1).getD field.2.cleared) = [])
    (path : String) : findingsOfFields around fields path entries = [] := by
  induction fields with
  | nil => rfl
  | cons first rest ih =>
      obtain ⟨name, first⟩ := first
      obtain ⟨hfirst, hrest⟩ := List.forall_mem_cons.mp h
      simp only [findingsOfFields, hfirst, ih hrest, List.append_nil]

/-- Whether a draft has findings does not depend on its place. -/
theorem findings_eq_nil_of_place {field : Field} {path : String} {draft : Draft}
    (h : field.findings around path draft = []) (place : String) :
    field.findings around place draft = [] := by
  induction field using Field.induction generalizing path place draft with
  | boolean spec =>
      cases draft with
      | toggle on => rfl
      | _ => cases h
  | string spec =>
      cases draft with
      | text text =>
          simp only [findings, located_eq_nil] at h ⊢
          exact h
      | choice chosen =>
          simp only [findings, located_eq_nil] at h ⊢
          exact h
      | _ => cases h
  | number spec =>
      cases draft with
      | text text =>
          simp only [findings, located_eq_nil] at h ⊢
          exact h
      | _ => cases h
  | array spec item ih =>
      cases draft with
      | choices chosen =>
          simp only [findings, List.append_eq_nil_iff, findingsOfItems_located_eq_nil,
            countFindings_eq_nil_iff] at h ⊢
          exact h
      | list items =>
          simp only [findings, List.append_eq_nil_iff, countFindings_eq_nil_iff] at h ⊢
          refine ⟨findingsOfItems_eq_nil (fun node hnode other => ?_) _ _, h.2⟩
          obtain ⟨found, hfound⟩ := forall_findingsOfItems h.1 node hnode
          exact ih hfound other
      | _ => cases h
  | object spec fields ih =>
      cases draft with
      | group entries =>
          simp only [findings] at h ⊢
          refine findingsOfFields_eq_nil (fun field hfield other => ?_) place
          obtain ⟨found, hfound⟩ := forall_findingsOfFields h field hfield
          exact ih field hfield hfound other
      | _ => cases h

/-- A group with a node for each field has no findings exactly when none of the nodes has. -/
theorem findings_group_eq_nil_iff {spec : Spec} {fields : List (String × Field)}
    {entries : Entries Draft} {nodes : String × Field → Draft}
    (hnodes : ∀ field ∈ fields, entries.get? field.1 = some (nodes field)) :
    findings around (.object spec fields) "" (.group entries) = [] ↔
      ∀ field ∈ fields, field.2.findings around "" (nodes field) = [] := by
  have hnode : ∀ field ∈ fields, (entries.get? field.1).getD field.2.cleared = nodes field := by
    intro field hfield
    rw [hnodes field hfield, Option.getD_some]
  simp only [findings]
  constructor
  · intro h field hfield
    obtain ⟨place, hplace⟩ := forall_findingsOfFields h field hfield
    rw [hnode field hfield] at hplace
    exact findings_eq_nil_of_place hplace ""
  · intro h
    refine findingsOfFields_eq_nil (fun field hfield place => ?_) ""
    rw [hnode field hfield]
    exact findings_eq_nil_of_place (h field hfield) place

/-- An input field finds in a text what is wrong with it. -/
theorem findings_input {field : Field} (hinput : field.isInput = true) (path text : String) :
    field.findings around path (.text text) = located path (checkText around field text) := by
  cases field with
  | string spec => rfl
  | number spec => rfl
  | _ => cases hinput

/-! ## Defaults that are kept -/

/-- Whether the default of an input field passes the pattern and the greatest length of the field
when it is written back. -/
def keepsDefault (field : Field) : Bool :=
  passes field.spec.defaultText fun text =>
    passes (field.spec.codec.settle text) fun settled =>
      settled.isEmpty ||
        (field.patternViolations settled).isEmpty && (field.lengthViolations settled).isEmpty

/-- A default that is written back passes when it is empty or has none of these violations. -/
theorem keepsDefault_iff {field : Field} {text settled : String}
    (htext : field.spec.defaultText = .ok text)
    (hsettled : field.spec.codec.settle text = .ok settled) :
    field.keepsDefault = true ↔
      settled = "" ∨
        field.patternViolations settled = [] ∧ field.lengthViolations settled = [] := by
  simp [keepsDefault, passes, htext, hsettled]

/-! ## Drafts that are read and loaded again -/

/-- A draft is read, and what it reads as loads as a draft that has no findings exactly under a
condition. -/
def ReloadsWhen (around : Surroundings) (field : Field) (draft : Draft) (kept : Prop) : Prop :=
  ∃ native reloaded, field.read draft = .ok native ∧ field.load native = .ok reloaded ∧
    (field.findings around "" reloaded = [] ↔ kept)

/-- A draft without findings that stands for data has none when it is loaded again. -/
theorem reloadsWhen_of_corresponds {field : Field} {native : Json} {draft : Draft} {kept : Prop}
    (h : field.Corresponds native draft) (hfindings : field.findings around "" draft = [])
    (hkept : kept) : ReloadsWhen around field draft kept :=
  ⟨native, draft, h.read_eq, h.load_eq, iff_of_true hfindings hkept⟩

/-- What a field shows that is neither a group nor entered as text is read and loaded again, and has
no findings then. -/
theorem reloadsWhen_shown {field : Field} (hfield : field.IsRegular {})
    (hdefaults : field.HasProperDefaults) (hinput : field.isInput = false)
    (hgroup : field.kind ≠ .object) {given : Option Json}
    (hgiven : ∀ value ∈ given, value.Proper) {draft : Draft}
    (h : field.draftFor given = .ok draft) (hfindings : field.findings around "" draft = []) :
    ReloadsWhen around field draft
      (∀ shown ∈ field.showingDefault given, shown.keepsDefault = true) := by
  obtain ⟨native, hnative⟩ :=
    exists_corresponds_of_draftFor hfield hdefaults hinput hgroup hgiven h
  rw [showingDefault_eq_nil hinput hgroup]
  exact reloadsWhen_of_corresponds hnative hfindings (by simp)

/-- The text of an input field is read and loaded again.  It has no findings then, unless it is a
default that does not pass when it is written back. -/
theorem reloadsWhen_input {field : Field} (hinput : field.isInput = true)
    (hpatterns : field.spec.patterns = {}) {given : Option Json}
    (hgiven : ∀ value ∈ given, value.Proper) {draft : Draft}
    (h : field.draftFor given = .ok draft) (hfindings : field.findings around "" draft = [])
    (haccepts : ∀ text settled, checkText around field text = [] →
      field.spec.codec.settle text = .ok settled → settled = text ∨ settled ≠ "" ∧
        ∀ rule ∈ field.effectiveRules, rule.check around settled = none)
    (hread : ∀ text, checkText around field text = [] →
      ∃ native, field.spec.codec.nativeOfText text = .ok native) :
    ReloadsWhen around field draft
      (∀ shown ∈ field.showingDefault given, shown.keepsDefault = true) := by
  rw [showingDefault_input hinput]
  cases given with
  | some native =>
      obtain ⟨settled, hsettled⟩ :=
        exists_corresponds_of_load_input hinput hpatterns (hgiven native rfl) h
      exact reloadsWhen_of_corresponds hsettled hfindings (by simp)
  | none =>
      rw [draftFor_input hinput] at h
      obtain ⟨text, htext, rfl⟩ := map_eq_ok.mp h
      rw [findings_input hinput, located_eq_nil] at hfindings
      obtain ⟨native, hnative⟩ := hread text hfindings
      have hwritable : field.spec.codec.IsWritable :=
        Spec.isWritable_codec (hpatterns ▸ DatePatterns.isWritable_default)
      obtain ⟨settled, hsettled⟩ := Codec.exists_text_of_nativeOfText hwritable hnative ""
      have hsettle : field.spec.codec.settle text = .ok settled :=
        bind_eq_ok.mpr ⟨native, hnative, hsettled⟩
      refine ⟨native, .text settled, ?_, ?_, ?_⟩
      · rw [read_input hinput, hnative]
      · rw [load_input hinput, hsettled]
        rfl
      · rw [findings_input hinput, located_eq_nil,
          checkText_settled_iff hinput (haccepts text settled hfindings hsettle) hfindings]
        simp [keepsDefault_iff htext hsettle]

section Leaves

variable {spec : Spec} {given : Option Json} {draft : Draft}

/-- The draft of a text field is read and loaded again. -/
theorem reloadsWhen_string (htype : spec.header.type = "string") (hrules : spec.rules = [])
    (hpatterns : spec.patterns = {}) (hgiven : ∀ value ∈ given, value.Proper)
    (h : draftFor (.string spec) given = .ok draft)
    (hfindings : findings around (.string spec) "" draft = []) :
    ReloadsWhen around (.string spec) draft
      (∀ shown ∈ showingDefault (.string spec) given, shown.keepsDefault = true) := by
  by_cases hselect : isSelect (.string spec) = true
  · have hinput : isInput (.string spec) = false := by simp [isInput, hselect]
    have hleaf : kind (.string spec) ≠ .array ∧ kind (.string spec) ≠ .object := by simp [kind]
    exact reloadsWhen_shown (.string hpatterns) (.leaf hleaf) hinput hleaf.2 hgiven h hfindings
  · have hinput := isInput_string (Bool.eq_false_iff.mpr hselect)
    refine reloadsWhen_input hinput hpatterns hgiven h hfindings ?_ ?_
    · intro text settled _ hsettle
      exact accepts_settled_string htype hrules hpatterns hsettle
    · intro text htext
      exact exists_native_of_string htype htext

/-- The draft of a number field is read and loaded again. -/
theorem reloadsWhen_number {bounds : Option Bounds}
    (htype : spec.header.type = "integer" ∨ spec.header.type = "number")
    (hrules : spec.rules = Building.numberRules spec.header.type bounds)
    (hpatterns : spec.patterns = {}) (hgiven : ∀ value ∈ given, value.Proper)
    (h : draftFor (.number spec) given = .ok draft)
    (hfindings : findings around (.number spec) "" draft = []) :
    ReloadsWhen around (.number spec) draft
      (∀ shown ∈ showingDefault (.number spec) given, shown.keepsDefault = true) := by
  have hinput : isInput (.number spec) = true := rfl
  refine reloadsWhen_input hinput hpatterns hgiven h hfindings ?_ ?_
  · intro text settled htext hsettle
    exact accepts_settled_number htype hrules hpatterns htext hsettle
  · intro text htext
    exact exists_native_of_number htype hrules htext

end Leaves

/-- With distinct names, each field of a group can have an entry with a value of its own. -/
theorem exists_entries_eq {α : Type} {fields : List (String × Field)}
    (hnames : (Entries.names fields).Nodup) (value : String × Field → α) :
    ∃ entries : Entries α, entries.names = Entries.names fields ∧
      ∀ field ∈ fields, entries.get? field.1 = some (value field) := by
  have hvalue : ∀ field ∈ fields, ∃ found, found = value field :=
    fun field _ => ⟨value field, rfl⟩
  obtain ⟨entries, hentries, hvalues⟩ := exists_entries hnames hvalue
  refine ⟨entries, hentries, fun field hfield => ?_⟩
  obtain ⟨found, hfound, rfl⟩ := hvalues field hfield
  exact hfound

/-- A group that opens is read and loaded again when its nodes are. -/
theorem reloadsWhen_group {spec : Spec} {fields : List (String × Field)}
    (hnames : (Entries.names fields).Nodup)
    (hopened : ∃ start, opened (.object spec fields) = .ok start) {entries : Entries Draft}
    {nodes : String × Field → Draft} {kept : String × Field → Prop}
    (hnodes : ∀ field ∈ fields, entries.get? field.1 = some (nodes field))
    (h : ∀ field ∈ fields, ReloadsWhen around field.2 (nodes field) (kept field)) :
    ReloadsWhen around (.object spec fields) (.group entries) (∀ field ∈ fields, kept field) := by
  unfold ReloadsWhen at h
  choose! value again hread hload hkept using h
  obtain ⟨natives, hnatives, hvalue⟩ := exists_entries_eq hnames value
  obtain ⟨drafts, hdrafts, hagain⟩ := exists_entries_eq hnames again
  refine ⟨.object natives, .group drafts, ?_, ?_, ?_⟩
  · refine read_group_of_nodes hnames hnatives fun field hfield => ?_
    exact ⟨value field, nodes field, hvalue field hfield, hnodes field hfield, hread field hfield⟩
  · refine load_group_of_nodes hnames hopened hnatives hdrafts fun field hfield => ?_
    exact ⟨value field, again field, hvalue field hfield, hagain field hfield, hload field hfield⟩
  · rw [findings_group_eq_nil_iff hagain]
    exact forall₂_congr hkept

/-! ## Built fields -/

/-- A draft without findings is read and loaded again.  It has no findings then exactly when the
defaults that show in it pass when they are written back. -/
theorem reloadsWhen_of_draftFor {registry : Registry} {settings : Settings} {keyed : Prop}
    {field : Field} (hregistry : registry.IsBuiltIn) (hpatterns : settings.patterns = {})
    (hkeyed : keyed) (hfield : Building.Built registry settings keyed field)
    (hdefaults : field.HasProperDefaults)
    (hopened : field.kind = .object → ∃ start, field.opened = .ok start) {given : Option Json}
    (hgiven : ∀ value ∈ given, value.Proper) {draft : Draft}
    (h : field.draftFor given = .ok draft) (hfindings : field.findings around "" draft = []) :
    ReloadsWhen around field draft
      (∀ shown ∈ field.showingDefault given, shown.keepsDefault = true) := by
  have hregular := Building.regular_of_built hregistry.isRegular hkeyed hfield
  rw [hpatterns] at hregular
  induction hfield generalizing given draft with
  | boolean => exact reloadsWhen_shown hregular hdefaults rfl (by simp [kind]) hgiven h hfindings
  | string htype => exact reloadsWhen_string htype rfl hpatterns hgiven h hfindings
  | number htype => exact reloadsWhen_number htype rfl hpatterns hgiven h hfindings
  | array => exact reloadsWhen_shown hregular hdefaults rfl (by simp [kind]) hgiven h hfindings
  | @object _ _ fields _ _ hnames hbuilt ih =>
      cases hdefaults with
      | leaf hkind => exact absurd rfl hkind.2
      | object hdefault hproper =>
          obtain ⟨entries, rfl, -, hnodes⟩ :=
            exists_nodes_of_draftFor (hnames hkeyed) hdefault hgiven h
          choose! nodes hget hmade using hnodes
          rw [findings_group_eq_nil_iff hget] at hfindings
          rw [forall_showingDefault_object]
          refine reloadsWhen_group (hnames hkeyed) (hopened rfl) hget fun field hmem => ?_
          have hopen := exists_opened_of_mem (hopened rfl) hmem
          cases hregular with
          | object _ hregular =>
              exact ih field hmem (hproper field hmem) (fun _ => hopen)
                (Spec.proper_handDown hdefault hgiven) (hmade field hmem) (hfindings field hmem)
                (hregular field hmem)
  | other hbuild => exact absurd hbuild (hregistry.not_mem_custom _ _)

end Field

namespace Form

open Result

variable {around : Surroundings} {form : Form} {native : Json}

/-- Data has the findings in the draft that it loads as. -/
theorem check_eq_ok {found : List Finding} :
    form.check around native = .ok found ↔
      ∃ draft, form.load native = .ok draft ∧ form.findings around draft = found := by
  simp only [check, bind_eq_ok, pure_eq_ok]

/-- Data is normalized to what the draft that it loads as reads as. -/
theorem normalize_eq_ok {value : Json} :
    form.normalize native = .ok value ↔
      ∃ draft, form.load native = .ok draft ∧ form.read draft = .ok value := by
  simp only [normalize, bind_eq_ok]

/-- A form whose drafts load what they read as opens. -/
theorem exists_opened_of_reload {draft reloaded : Draft} {value : Json}
    (hkind : form.root.kind = .object) (hread : form.read draft = .ok value)
    (hload : form.load value = .ok reloaded) : ∃ start, form.opened = .ok start := by
  unfold read at hread
  unfold load at hload
  unfold opened
  cases hroot : form.root with
  | object spec fields =>
      rw [hroot] at hread hload
      cases draft with
      | group entries =>
          obtain ⟨natives, -, rfl⟩ := Field.read_group_eq_ok.mp hread
          obtain ⟨base, -, hbase, -, -⟩ := Field.load_object_eq_ok.mp hload
          exact ⟨.group base, hbase⟩
      | _ => cases hread
  | _ =>
      rw [hroot] at hkind
      cases hkind

/-- Data without findings can be normalized.  The result has no findings exactly when the form opens
and each default that shows, where the data leaves out an input field, passes the pattern and the
greatest length of its field when it is written back. -/
theorem exists_normalize_iff {registry : Registry} {settings : Settings} {schema : Json}
    (hregistry : registry.IsBuiltIn) (hschema : schema.Proper) (hpatterns : settings.patterns = {})
    (hform : compile registry settings schema = .ok form) (hnative : native.Proper)
    (h : form.check around native = .ok []) :
    ∃ value, form.normalize native = .ok value ∧
      (form.check around value = .ok [] ↔
        (∃ start, form.opened = .ok start) ∧
          ∀ field ∈ form.root.showingDefault (some native), field.keepsDefault = true) := by
  obtain ⟨draft, hdraft, hfindings⟩ := check_eq_ok.mp h
  obtain ⟨hroot, hkind⟩ := Building.built_of_compile id hform
  have hdefaults := Building.hasProperDefaults_of_compile hregistry.isRegular hschema hform
  have hgiven : ∀ value ∈ some native, value.Proper := by
    rintro _ ⟨⟩
    exact hnative
  by_cases hopened : ∃ start, form.opened = .ok start
  · obtain ⟨value, reloaded, hread, hload, hiff⟩ :=
      Field.reloadsWhen_of_draftFor hregistry hpatterns hschema hroot hdefaults (fun _ => hopened)
        hgiven hdraft hfindings
    refine ⟨value, normalize_eq_ok.mpr ⟨draft, hdraft, hread⟩, ?_⟩
    rw [← hiff, check_eq_ok]
    constructor
    · rintro ⟨again, hagain, hnone⟩
      rw [load, hload] at hagain
      cases hagain
      exact ⟨hopened, hnone⟩
    · rintro ⟨-, hnone⟩
      exact ⟨reloaded, hload, hnone⟩
  · -- What is read is an object, and no object loads into a form that does not open.
    obtain ⟨value, hread⟩ := read_of_findings_eq_nil hregistry hform hfindings
    refine ⟨value, normalize_eq_ok.mpr ⟨draft, hdraft, hread⟩, iff_of_false ?_ ?_⟩
    · intro hchecked
      obtain ⟨reloaded, hload, -⟩ := check_eq_ok.mp hchecked
      exact hopened (exists_opened_of_reload hkind hread hload)
    · rintro ⟨hstart, -⟩
      exact hopened hstart

/-- A schema with a date of limited length and an integer.  Their defaults are not in the form in
which they would be written back. -/
def deadlineSchema (most : Int) : Json :=
  .object
    [("type", .string "object"),
      ("properties",
        .object
          [("deadline",
              .object
                [("type", .string "string"), ("format", .string "date"),
                  ("default", .string "1.2.2024"), ("maxLength", .number (.integer most))]),
            ("copies", .object [("type", .string "integer"), ("default", .string "+07")])])]

/-- With room for the padded date, the defaults stay without findings when they are normalized. -/
theorem exists_normalize_deadlineSchema :
    ∃ form value, compile Registry.standard {} (deadlineSchema 10) = .ok form ∧
      form.check ⟨fun _ => false, fun _ => false, true, id⟩ (.object []) = .ok [] ∧
        form.normalize (.object []) = .ok value ∧
          form.check ⟨fun _ => false, fun _ => false, true, id⟩ value = .ok [] := by
  have hschema : (deadlineSchema 10).Proper := by decide +kernel
  have hnative : (Json.object []).Proper := by decide +kernel
  have hevaluated :
      (passes (compile Registry.standard {} (deadlineSchema 10)) fun form =>
        passes (form.check ⟨fun _ => false, fun _ => false, true, id⟩ (.object [])) List.isEmpty &&
          Rule.succeeded form.opened &&
            (form.root.showingDefault (some (.object []))).all Field.keepsDefault) = true := by
    decide +kernel
  simp only [passes_iff, Bool.and_eq_true, succeeded_iff, List.all_eq_true,
    List.isEmpty_iff] at hevaluated
  obtain ⟨form, hform, ⟨⟨_, hchecked, rfl⟩, hopened⟩, hdefaults⟩ := hevaluated
  obtain ⟨value, hvalue, hiff⟩ :=
    exists_normalize_iff Registry.isBuiltIn_standard hschema rfl hform hnative hchecked
  exact ⟨form, value, hform, hchecked, hvalue, hiff.mpr ⟨hopened, hdefaults⟩⟩

/-- Without this room, data without findings is normalized to data with one. -/
theorem check_normalize_deadlineSchema :
    ∃ form value found, compile Registry.standard {} (deadlineSchema 8) = .ok form ∧
      form.check ⟨fun _ => false, fun _ => false, true, id⟩ (.object []) = .ok [] ∧
        form.normalize (.object []) = .ok value ∧
          form.check ⟨fun _ => false, fun _ => false, true, id⟩ value = .ok found ∧ found ≠ [] := by
  have hevaluated :
      (passes (compile Registry.standard {} (deadlineSchema 8)) fun form =>
        passes (form.check ⟨fun _ => false, fun _ => false, true, id⟩ (.object [])) List.isEmpty &&
          passes (form.normalize (.object [])) fun value =>
            passes (form.check ⟨fun _ => false, fun _ => false, true, id⟩ value) fun found =>
              !found.isEmpty) = true := by
    decide +kernel
  simp only [passes_iff, Bool.and_eq_true, Bool.not_eq_true', List.isEmpty_iff,
    List.isEmpty_eq_false_iff] at hevaluated
  obtain ⟨form, hform, ⟨_, hchecked, rfl⟩, value, hvalue, found, hfound, hsome⟩ := hevaluated
  exact ⟨form, value, found, hform, hchecked, hvalue, hfound, hsome⟩

end Form
end SchemaForm
