import SchemaForm.Proofs.Form.ShapeFree
import SchemaForm.Proofs.Location

/-!
# Nodes of the wrong kind

Reading a draft stops at the first node whose kind does not go with its field, and
checking the draft goes on behind it.  The place of the error is put together on the
way back to the root, the place of the finding on the way down.  As long as no field
has the empty name, both name the same place, and they say the same about it.

Main results:

- Definition `Field.suits`: the kinds of nodes that go with a field.
- Definition `Field.namesBelow`: the names of the fields below a field.
- Theorem `Field.mem_findings_of_read`: the node at which reading stops is found by checking.
- Theorem `Form.mem_findings_of_read_misshapen`: so it is in a whole form, at the same place.
-/

namespace SchemaForm

open Result

namespace Field

variable {around : Surroundings} {field : Field} {draft : Draft}
  {path expected actual : String}

/-! ## Kinds of nodes -/

/-- Whether a node has a kind that goes with a field, whatever is in it: a switch, a text, a text or
a choice, a group, or a list of drafts or choices. -/
def suits : Field → Draft → Bool
  | .boolean _, .toggle _ => true
  | .string _, .text _ => true
  | .string _, .choice _ => true
  | .number _, .text _ => true
  | .array .., .choices _ => true
  | .array .., .list _ => true
  | .object .., .group _ => true
  | _, _ => false

/-- A node of another kind cannot be read. -/
theorem read_of_not_suits (h : field.suits draft = false) :
    field.read draft = .error (field.wrongKind draft) := by
  cases field <;> cases draft <;> first | rfl | cases h

/-- A node of another kind is the only finding in it. -/
theorem findings_of_not_suits (h : field.suits draft = false) (start : String) :
    field.findings around start draft = [field.kindFinding start draft] := by
  cases field <;> cases draft <;> first | rfl | cases h

/-- The finding about a node of another kind says what the error says. -/
theorem mem_findings_of_not_suits (hsuits : field.suits draft = false)
    (h : field.read draft = .error (.misshapen path expected actual)) (start : String) :
    (⟨Location.above start path, "shape", s!"Expected a {expected}, got {actual}"⟩ : Finding) ∈
      field.findings around start draft := by
  rw [read_of_not_suits hsuits, wrongKind] at h
  cases h
  rw [findings_of_not_suits hsuits, List.mem_singleton, Location.above_empty, kindFinding]
  simp [String.append_assoc, toString]

/-! ## Names below a field -/

mutual

/-- The names of the fields below a field, at any depth. -/
def namesBelow : Field → List String
  | .array _ item => namesBelow item
  | .object _ fields => namesInAndBelow fields
  | _ => []

/-- The names of fields and those below them. -/
def namesInAndBelow : List (String × Field) → List String
  | [] => []
  | (name, field) :: rest => name :: (namesBelow field ++ namesInAndBelow rest)

end

theorem forall_namesInAndBelow {fields : List (String × Field)} {property : String → Prop} :
    (∀ name ∈ namesInAndBelow fields, property name) ↔
      ∀ entry ∈ fields, property entry.1 ∧ ∀ name ∈ entry.2.namesBelow, property name := by
  induction fields with
  | nil => simp [namesInAndBelow]
  | cons entry rest ih =>
      simp only [namesInAndBelow, List.forall_mem_cons, List.forall_mem_append, ih, and_assoc]

/-! ## Reading and checking -/

/-- The node at which reading stops because of its kind is found by checking, at the same place and
with the same words. -/
theorem mem_findings_of_read (hnames : ∀ name ∈ field.namesBelow, name ≠ "")
    (h : field.read draft = .error (.misshapen path expected actual)) (start : String) :
    (⟨Location.above start path, "shape", s!"Expected a {expected}, got {actual}"⟩ : Finding) ∈
      field.findings around start draft := by
  -- The place of the error grows on the left while the induction goes up, that of the finding on
  -- the right while it goes down; both are the same by the associativity of locations.
  induction field using Field.induction generalizing draft path start with
  | boolean spec =>
      cases draft with
      | toggle on => cases h
      | _ => exact mem_findings_of_not_suits rfl h start
  | string spec =>
      cases draft with
      | text text =>
          obtain ⟨_, _, _, hsame⟩ := Codec.isUnreadable_of_nativeOfText h
          cases hsame
      | choice chosen => cases h
      | _ => exact mem_findings_of_not_suits rfl h start
  | number spec =>
      cases draft with
      | text text =>
          obtain ⟨_, _, _, hsame⟩ := Codec.isUnreadable_of_nativeOfText h
          cases hsame
      | _ => exact mem_findings_of_not_suits rfl h start
  | array spec item ih =>
      cases draft with
      | choices chosen => cases h
      | list items =>
          simp only [read, map_eq_error] at h
          obtain ⟨i, node, error, hnode, hread, hwithin⟩ := exists_of_eachItem_eq_error h
          obtain ⟨inner, rfl, rfl⟩ := DataError.within_eq_misshapen.mp hwithin
          have hfinding := ih hnames hread (Location.below start (Location.position (0 + i)))
          rw [Location.above_below (Location.position_ne_empty _)] at hfinding
          exact List.mem_append_left _ (mem_findingsOfItems.mpr ⟨i, node, hnode, hfinding⟩)
      | _ => exact mem_findings_of_not_suits rfl h start
  | object spec fields ih =>
      cases draft with
      | group entries =>
          simp only [read, map_eq_error] at h
          obtain ⟨field, hfield, error, hread, hwithin⟩ := exists_of_readFields_eq_error h
          obtain ⟨inner, rfl, rfl⟩ := DataError.within_eq_misshapen.mp hwithin
          obtain ⟨hname, hbelow⟩ := forall_namesInAndBelow.mp hnames field hfield
          cases hnode : Entries.get? entries field.1 with
          | none =>
              rw [hnode] at hread
              cases hread
          | some node =>
              rw [hnode] at hread
              have hfinding := ih field hfield hbelow hread (Location.below start field.1)
              rw [Location.above_below hname] at hfinding
              refine mem_findingsOfFields.mpr ⟨field, hfield, ?_⟩
              rwa [hnode, Option.getD_some]
      | _ => exact mem_findings_of_not_suits rfl h start

end Field

namespace Form

/-- Where reading a form stops at a node of the wrong kind, checking finds it, at exactly this place
and whatever the surroundings are. -/
theorem mem_findings_of_read_misshapen {form : Form} {draft : Draft}
    {path expected actual : String} (hnames : ∀ name ∈ form.root.namesBelow, name ≠ "")
    (h : form.read draft = .error (.misshapen path expected actual)) (around : Surroundings) :
    ∃ finding ∈ form.findings around draft, finding.rule = "shape" ∧ finding.path = path ∧
      finding.message = s!"Expected a {expected}, got {actual}" := by
  refine ⟨⟨Location.above "" path, "shape", s!"Expected a {expected}, got {actual}"⟩, ?_, rfl,
    Location.above_root path, rfl⟩
  exact Field.mem_findings_of_read hnames h ""

/-- A schema with names that look like positions or contain points. -/
def markedSchema : Json :=
  .object
    [("type", .string "object"),
      ("properties",
        .object
          [("plan",
            .object
              [("type", .string "object"),
                ("properties",
                  .object
                    [("[x]",
                      .object
                        [("type", .string "object"),
                          ("properties",
                            .object
                              [("on", .object [("type", .string "boolean")]),
                                ("b.c",
                                  .object
                                    [("type", .string "array"),
                                      ("items",
                                        .object [("type", .string "string")])])])])])])])]

/-- A draft with a group among the texts of a list. -/
def markedDraft : Draft :=
  .group [("plan", .group [("[x]", .group [("b.c", .list [.text "", .group []])])])]

/-- The group among the texts is found where reading stops. -/
theorem mem_findings_of_read_markedDraft :
    ∃ form, compile Registry.standard {} markedSchema = .ok form ∧
      (∀ name ∈ form.root.namesBelow, name ≠ "") ∧
        form.read markedDraft = .error (.misshapen "plan[x].b.c[1]" "text value" "group") ∧
          ∀ around, ∃ finding ∈ form.findings around markedDraft, finding.rule = "shape" ∧
            finding.path = "plan[x].b.c[1]" ∧
              finding.message = "Expected a text value, got group" := by
  have hevaluated :
      (passes (compile Registry.standard {} markedSchema) fun form =>
        form.root.namesBelow.all (fun name => name != "") &&
          failsWith (form.read markedDraft) fun error =>
            error == .misshapen "plan[x].b.c[1]" "text value" "group") = true := by
    decide +kernel
  simp only [passes_iff, failsWith_iff, Bool.and_eq_true, List.all_eq_true, bne_iff_ne,
    beq_iff_eq] at hevaluated
  obtain ⟨form, hform, hnames, _, hread, rfl⟩ := hevaluated
  exact ⟨form, hform, hnames, hread, mem_findings_of_read_misshapen hnames hread⟩

end Form
end SchemaForm
