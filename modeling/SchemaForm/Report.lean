import SchemaForm.Form.Basic

/-!
# Reports

The outcome of checking a document against a form: the findings and, if wanted,
the document as it is read back.

Main results:

- Theorem `findings_ofData`: what is found does not depend on whether data is read back.
-/

namespace SchemaForm

/-- Why there is no report. -/
inductive ReportError where
  /-- Data does not go into the form. -/
  | unfit (error : DataError)
  /-- The draft is not read back. -/
  | unreadable (error : DataError)
deriving DecidableEq, Repr

namespace ReportError

/-- What is wrong with the data. -/
def cause : ReportError → DataError
  | .unfit error | .unreadable error => error

/-- The wording of an error. -/
def message : ReportError → String
  | .unfit error => "data does not fit the form: " ++ error.message
  | .unreadable error => "failed to read data back: " ++ error.message

end ReportError

/-- What checking a document has found. -/
structure Report where
  findings : List Finding
  /-- The document as it is read back, if that was wanted. -/
  normalized : Option Json

namespace Report

/-- Check data against a form. -/
def ofData (around : Surroundings) (form : Form) (native : Json) (normalize : Bool) :
    Except ReportError Report := do
  let draft ← (form.load native).mapError .unfit
  let findings := form.findings around draft
  if normalize then
    let normalized ← (form.read draft).mapError .unreadable
    return ⟨findings, some normalized⟩
  else
    return ⟨findings, none⟩

/-- Whether nothing was found. -/
def isValid (report : Report) : Bool :=
  report.findings.isEmpty

/-- A finding as a line of text. -/
def findingLine (finding : Finding) : String :=
  s!"{finding.path}: {finding.message} ({finding.rule})\n"

/-- A report as text. -/
def text (report : Report) : String :=
  String.join (report.findings.map findingLine) ++
    match report.normalized with
    | some native => native.pretty 0 ++ "\n"
    | none => ""

/-- What is found does not depend on whether data is read back. -/
theorem findings_ofData {around : Surroundings} {form : Form} {native : Json}
    {first second : Report} (h : ofData around form native false = .ok first)
    (h' : ofData around form native true = .ok second) : first.findings = second.findings := by
  unfold ofData at h h'
  cases hload : (form.load native).mapError ReportError.unfit with
  | error error => simp [hload, bind, Except.bind] at h
  | ok draft =>
      cases hread : (form.read draft).mapError ReportError.unreadable with
      | error error => simp [hload, hread, bind, Except.bind] at h'
      | ok normalized =>
          simp only [hload, hread, bind, Except.bind, pure, Except.pure, if_true,
            Except.ok.injEq, Bool.false_eq_true, if_false] at h h'
          rw [← h, ← h']

end Report
end SchemaForm
