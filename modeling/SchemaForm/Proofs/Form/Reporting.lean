import SchemaForm.Proofs.Form.Reloading
import SchemaForm.Proofs.Form.Starting
import SchemaForm.Report

/-!
# Reports with the document read back

Checking never fails once the data is loaded, but reading back may.  Texts that
come from data can always be read.  The texts that may not are defaults of input
fields that the codec of the field does not take, for such a default is shown as
it is.  So a report with the document read back exists exactly when the codecs
read the defaults that show.

Main results:

- Theorem `exists_read_group_iff`: a group is read when its nodes are.
- Theorem `exists_read_iff`: a draft is read when the defaults that show in it are.
- Theorem `Report.exists_ofData_true_iff`: when reading back turns a report into an error.
- Theorem `Report.ofData_error_ageSchema`: a report that is lost by reading back.
-/

namespace SchemaForm

open Result

namespace Field

variable {spec : Spec} {fields : List (String × Field)}

/-! ## Groups -/

/-- A group with a node for each field is read exactly when each of the nodes is. -/
theorem exists_read_group_iff {entries : Entries Draft} {nodes : String × Field → Draft}
    (hnodes : ∀ field ∈ fields, entries.get? field.1 = some (nodes field)) :
    (∃ native, read (.object spec fields) (.group entries) = .ok native) ↔
      ∀ field ∈ fields, ∃ native, field.2.read (nodes field) = .ok native := by
  simp only [read_group_eq_ok]
  constructor
  · rintro ⟨native, values, hvalues, -⟩ field hfield
    obtain ⟨value, -, -, hvalue⟩ := exists_of_forall₂ hvalues hfield
    rw [hnodes field hfield] at hvalue
    exact ⟨value.2, hvalue⟩
  · intro h
    have hread : ∀ field ∈ fields, ∃ value : String × Json, value.1 = field.1 ∧
        field.2.readNode (entries.get? field.1) = .ok value.2 := by
      intro field hfield
      obtain ⟨value, hvalue⟩ := h field hfield
      rw [hnodes field hfield]
      exact ⟨(field.1, value), rfl, hvalue⟩
    obtain ⟨values, hvalues⟩ := exists_forall₂ hread
    exact ⟨_, values, hvalues, rfl⟩

/-! ## Defaults that are read -/

/-- Whether the codec of an input field reads the text of the default. -/
def readsDefault (field : Field) : Bool :=
  passes field.spec.defaultText fun text => Rule.succeeded (field.spec.codec.nativeOfText text)

/-- The draft of an input field is read, unless it shows a default that is not. -/
theorem exists_read_input_iff {field : Field} (hinput : field.isInput = true)
    (hpatterns : field.spec.patterns = {}) {given : Option Json}
    (hgiven : ∀ value ∈ given, value.Proper) {draft : Draft}
    (h : field.draftFor given = .ok draft) :
    (∃ native, field.read draft = .ok native) ↔
      ∀ shown ∈ field.showingDefault given, shown.readsDefault = true := by
  rw [draftFor_input hinput] at h
  obtain ⟨text, htext, rfl⟩ := map_eq_ok.mp h
  rw [read_input hinput, showingDefault_input hinput]
  cases given with
  | none =>
      have hdefault : field.spec.defaultText = .ok text := htext
      simp [readsDefault, passes, hdefault, succeeded_iff]
  | some native =>
      obtain ⟨settled, hsettled, -⟩ :=
        Codec.exists_native_of_text (isDefault_codec hpatterns) (hgiven native rfl) htext
      simp [hsettled]

/-- What a field shows that is neither a group nor entered as text is read. -/
theorem exists_read_shown_iff {field : Field} (hfield : field.IsRegular {})
    (hdefaults : field.HasProperDefaults) (hinput : field.isInput = false)
    (hgroup : field.kind ≠ .object) {given : Option Json}
    (hgiven : ∀ value ∈ given, value.Proper) {draft : Draft}
    (h : field.draftFor given = .ok draft) :
    (∃ native, field.read draft = .ok native) ↔
      ∀ shown ∈ field.showingDefault given, shown.readsDefault = true := by
  obtain ⟨native, hnative⟩ :=
    exists_corresponds_of_draftFor hfield hdefaults hinput hgroup hgiven h
  rw [showingDefault_eq_nil hinput hgroup]
  exact iff_of_true ⟨native, hnative.read_eq⟩ (by simp)

/-- A draft is read exactly when the defaults that show in it are. -/
theorem exists_read_iff {field : Field} (hfield : field.IsRegular {})
    (hdefaults : field.HasProperDefaults) {given : Option Json}
    (hgiven : ∀ value ∈ given, value.Proper) {draft : Draft}
    (h : field.draftFor given = .ok draft) :
    (∃ native, field.read draft = .ok native) ↔
      ∀ shown ∈ field.showingDefault given, shown.readsDefault = true := by
  induction hfield generalizing given draft with
  | boolean spec =>
      have hgroup : kind (.boolean spec) ≠ .object := by simp [kind]
      exact exists_read_shown_iff (.boolean spec) hdefaults rfl hgroup hgiven h
  | @string spec hpatterns =>
      by_cases hselect : isSelect (.string spec) = true
      · have hinput : isInput (.string spec) = false := by simp [isInput, hselect]
        have hgroup : kind (.string spec) ≠ .object := by simp [kind]
        exact exists_read_shown_iff (.string hpatterns) hdefaults hinput hgroup hgiven h
      · have hinput := isInput_string (Bool.eq_false_iff.mpr hselect)
        exact exists_read_input_iff hinput hpatterns hgiven h
  | @number spec hpatterns =>
      have hinput : isInput (.number spec) = true := rfl
      exact exists_read_input_iff hinput hpatterns hgiven h
  | @array spec item hitem hgroup =>
      have hlist : kind (.array spec item) ≠ .object := by simp [kind]
      exact exists_read_shown_iff (.array hitem hgroup) hdefaults rfl hlist hgiven h
  | @object spec fields hnames _ ih =>
      cases hdefaults with
      | leaf hkind => exact absurd rfl hkind.2
      | object hdefault hfields =>
          obtain ⟨entries, rfl, -, hnodes⟩ :=
            exists_nodes_of_draftFor hnames hdefault hgiven h
          choose! nodes hget hmade using hnodes
          rw [exists_read_group_iff hget, forall_showingDefault_object]
          refine forall₂_congr fun field hmem => ?_
          exact ih field hmem (hfields field hmem) (Spec.proper_handDown hdefault hgiven)
            (hmade field hmem)

end Field

namespace Report

variable {around : Surroundings} {form : Form} {native : Json} {report : Report}

/-- A report without the document read back has the findings in the loaded draft. -/
theorem ofData_false_eq_ok :
    ofData around form native false = .ok report ↔
      ∃ draft, form.load native = .ok draft ∧ ⟨form.findings around draft, none⟩ = report := by
  simp only [ofData, bind_eq_ok, mapError_eq_ok, Bool.false_eq_true, if_false, pure_eq_ok]

/-- A report with the document read back has what the loaded draft reads as. -/
theorem ofData_true_eq_ok :
    ofData around form native true = .ok report ↔
      ∃ draft, form.load native = .ok draft ∧ ∃ normalized, form.read draft = .ok normalized ∧
        ⟨form.findings around draft, some normalized⟩ = report := by
  simp only [ofData, bind_eq_ok, mapError_eq_ok, if_true, pure_eq_ok]

/-- When there is a report, there is one with the document read back exactly when the codecs read
the defaults that show where the data leaves out an input field.  It has the same findings. -/
theorem exists_ofData_true_iff {registry : Registry} {settings : Settings} {schema : Json}
    (hregistry : registry.IsRegular) (hschema : schema.Proper) (hpatterns : settings.patterns = {})
    (hform : Form.compile registry settings schema = .ok form) (hnative : native.Proper)
    (h : ofData around form native false = .ok report) :
    ((∃ again, ofData around form native true = .ok again) ↔
      ∀ field ∈ form.root.showingDefault (some native), field.readsDefault = true) ∧
        ∀ again, ofData around form native true = .ok again → again.findings = report.findings := by
  refine ⟨?_, fun again hagain => (findings_ofData h hagain).symm⟩
  obtain ⟨draft, hdraft, -⟩ := ofData_false_eq_ok.mp h
  obtain ⟨hregular, -⟩ := Building.regular_of_compile hregistry hschema hform
  rw [hpatterns] at hregular
  have hdefaults := Building.hasProperDefaults_of_compile hregistry hschema hform
  have hgiven : ∀ value ∈ some native, value.Proper := by
    rintro _ ⟨⟩
    exact hnative
  rw [← Field.exists_read_iff hregular hdefaults hgiven hdraft]
  constructor
  · rintro ⟨again, hagain⟩
    obtain ⟨_, hsame, normalized, hread, -⟩ := ofData_true_eq_ok.mp hagain
    rw [hdraft] at hsame
    cases hsame
    exact ⟨normalized, hread⟩
  · rintro ⟨normalized, hread⟩
    exact ⟨_, ofData_true_eq_ok.mpr ⟨draft, hdraft, normalized, hread, rfl⟩⟩

/-- The report about an appointment without any data has the document read back. -/
theorem exists_ofData_appointment :
    ∃ form report again, Form.compile Registry.standard {} Form.appointmentSchema = .ok form ∧
      ofData ⟨fun _ => false, fun _ => false, true, id⟩ form (.object []) false = .ok report ∧
        ofData ⟨fun _ => false, fun _ => false, true, id⟩ form (.object []) true = .ok again ∧
          again.findings = report.findings := by
  have hschema : Form.appointmentSchema.Proper := by decide +kernel
  have hnative : (Json.object []).Proper := by decide +kernel
  have hevaluated :
      (passes (Form.compile Registry.standard {} Form.appointmentSchema) fun form =>
        Rule.succeeded
            (ofData ⟨fun _ => false, fun _ => false, true, id⟩ form (.object []) false) &&
          (form.root.showingDefault (some (.object []))).all Field.readsDefault) = true := by
    decide +kernel
  simp only [passes_iff, Bool.and_eq_true, succeeded_iff, List.all_eq_true] at hevaluated
  obtain ⟨form, hform, ⟨report, hreport⟩, hdefaults⟩ := hevaluated
  obtain ⟨hiff, hfindings⟩ := exists_ofData_true_iff Registry.isBuiltIn_standard.isRegular hschema
    rfl hform hnative hreport
  obtain ⟨again, hagain⟩ := hiff.mpr hdefaults
  exact ⟨form, report, again, hform, hreport, hagain, hfindings again hagain⟩

/-- A schema with an integer whose default is no integer. -/
def ageSchema : Json :=
  .object
    [("type", .string "object"),
      ("properties",
        .object
          [("age", .object [("type", .string "integer"), ("default", .string "abc")])])]

/-- Without data the default of the age is a finding, and an error when it is read back. -/
theorem ofData_error_ageSchema :
    ∃ form report error, Form.compile Registry.standard {} ageSchema = .ok form ∧
      ofData ⟨fun _ => false, fun _ => false, true, id⟩ form (.object []) false = .ok report ∧
        ofData ⟨fun _ => false, fun _ => false, true, id⟩ form (.object []) true =
          .error error := by
  have hevaluated :
      (passes (Form.compile Registry.standard {} ageSchema) fun form =>
        Rule.succeeded
            (ofData ⟨fun _ => false, fun _ => false, true, id⟩ form (.object []) false) &&
          !Rule.succeeded
            (ofData ⟨fun _ => false, fun _ => false, true, id⟩ form (.object []) true)) = true := by
    decide +kernel
  simp only [passes_iff, Bool.and_eq_true, succeeded_iff, Bool.not_eq_true',
    not_succeeded_iff] at hevaluated
  obtain ⟨form, hform, ⟨report, hreport⟩, error, hlost⟩ := hevaluated
  exact ⟨form, report, error, hform, hreport, hlost⟩

end Report
end SchemaForm
