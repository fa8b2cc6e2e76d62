import SchemaForm.Proofs.Form.Canonical
import SchemaForm.Proofs.Form.WrongKind

/-!
# Fields by their locations

A form looks up a field by a text of names with points between them, and checking
gives the place of a finding as such a text.  With plain names the place of a node
leads back to its field, and no two places have the same text.  Only the form itself
cannot be looked up: its own place is the empty text, which is a single empty name.

Main results:

- Theorem `findings_subset_of_descend`: what is found at a node of a form is found in the form, at
  the location of the node.
- Theorem `field?_empty`: the location of a form itself leads to no field.
- Theorem `field?_along`: the location of every node below leads to its field and to no other place.
-/

namespace SchemaForm

open Result

namespace Form

variable {field target : Field} {names : List String}

/-- The names of a path through groups are names of the fields below. -/
theorem forall_mem_of_descend {property : String → Prop}
    (hfield : ∀ name ∈ field.namesBelow, property name)
    (h : descend field names = some target) : ∀ name ∈ names, property name := by
  induction names generalizing field with
  | nil => simp
  | cons name rest ih =>
      obtain ⟨spec, fields, child, rfl, hchild, htarget⟩ := descend_cons.mp h
      obtain ⟨hname, hbelow⟩ :=
        Field.forall_namesInAndBelow.mp hfield _ (Entries.mem_of_get? hchild)
      exact List.forall_mem_cons.mpr ⟨hname, ih hbelow htarget⟩

/-- What checking finds at a node is found when the draft around it is checked, and the location of
the node is that of the names that lead to it. -/
theorem findings_subset_of_descend {around : Surroundings} {draft node : Draft}
    (hfield : descend field names = some target) (hnode : draft.find? names = some node)
    (start : String) :
    target.findings around (Location.along start names) node ⊆
      field.findings around start draft := by
  induction names generalizing field draft start with
  | nil =>
      cases hfield
      cases hnode
      exact List.Subset.refl _
  | cons name rest ih =>
      obtain ⟨spec, fields, child, rfl, hchild, htarget⟩ := descend_cons.mp hfield
      obtain ⟨inner, hinner, hrest⟩ := Option.bind_eq_some_iff.mp hnode
      cases draft with
      | group entries =>
          intro finding hfinding
          refine Field.mem_findingsOfFields.mpr ⟨(name, child), Entries.mem_of_get? hchild, ?_⟩
          have hget : Entries.get? entries name = some inner := hinner
          rw [hget, Option.getD_some]
          exact ih htarget hrest (Location.below start name) hfinding
      | _ => cases hinner

variable {form : Form}

/-- The location of a form itself leads to no field. -/
theorem field?_empty (hnames : ∀ name ∈ form.root.namesBelow, Location.IsPlain name) :
    form.field? "" = none := by
  cases hfield : form.field? "" with
  | none => rfl
  | some target =>
      have hplain := forall_mem_of_descend hnames hfield ""
      exact absurd rfl (hplain (List.mem_singleton_self "")).1

/-- In a form with plain names, the location at which a node below the form is found leads back to
the field of the node, and to no other place. -/
theorem field?_along (hnames : ∀ name ∈ form.root.namesBelow, Location.IsPlain name)
    (hne : names ≠ []) (hchain : descend form.root names = some target) :
    (∀ around draft node, draft.find? names = some node →
      target.findings around (Location.along "" names) node ⊆ form.findings around draft ∧
        (target.suits node = false → ∃ finding ∈ form.findings around draft,
          finding.rule = "shape" ∧ finding.path = Location.along "" names)) ∧
      form.field? (Location.along "" names) = some target ∧
        ∀ others other, descend form.root others = some other →
          Location.along "" others = Location.along "" names → others = names := by
  have hplain := forall_mem_of_descend hnames hchain
  refine ⟨fun around draft node hnode => ?_, ?_, fun others other hother hsame => ?_⟩
  · have hfound : target.findings around (Location.along "" names) node ⊆
        form.findings around draft :=
      findings_subset_of_descend hchain hnode ""
    refine ⟨hfound, fun hsuits => ⟨target.kindFinding _ node, hfound ?_, rfl, rfl⟩⟩
    rw [Field.findings_of_not_suits hsuits]
    exact List.mem_singleton_self _
  · rw [field?, Location.split_along hne hplain]
    exact hchain
  · exact Location.along_injective (forall_mem_of_descend hnames hother) hplain hsame

/-- The day of birth of a person is found at its location, which leads back to its field. -/
theorem field?_along_appointment :
    ∃ form target, compile Registry.standard {} appointmentSchema = .ok form ∧
      (∀ name ∈ form.root.namesBelow, Location.IsPlain name) ∧
        descend form.root ["person", "born"] = some target ∧
          (∀ around, ∃ finding ∈ form.findings around
              (.group [("person", .group [("born", .toggle true)])]),
            finding.rule = "shape" ∧ finding.path = "person.born") ∧
            form.field? "person.born" = some target ∧
              ∀ others other, descend form.root others = some other →
                Location.along "" others = "person.born" → others = ["person", "born"] := by
  have hevaluated :
      (passes (compile Registry.standard {} appointmentSchema) fun form =>
        form.root.namesBelow.all (fun name => decide (Location.IsPlain name)) &&
          (descend form.root ["person", "born"]).any fun target =>
            !target.suits (.toggle true)) = true := by
    decide +kernel
  simp only [passes_iff, Bool.and_eq_true, List.all_eq_true, decide_eq_true_eq,
    Option.any_eq_true, Bool.not_eq_true'] at hevaluated
  obtain ⟨form, hform, hnames, target, htarget, hsuits⟩ := hevaluated
  obtain ⟨hfound, hfield, hother⟩ := field?_along hnames (List.cons_ne_nil _ _) htarget
  exact ⟨form, target, hform, hnames, htarget,
    fun around => (hfound around _ (.toggle true) rfl).2 hsuits, hfield, hother⟩

/-- The location at which a form finds that it is no text does not lead back to the form. -/
theorem field?_along_root :
    ∃ form, compile Registry.standard {} appointmentSchema = .ok form ∧
      (∀ name ∈ form.root.namesBelow, Location.IsPlain name) ∧
        descend form.root [] = some form.root ∧
          (∀ around, ∃ finding ∈ form.findings around (.text ""),
            finding.rule = "shape" ∧ finding.path = Location.along "" []) ∧
            form.field? (Location.along "" []) ≠ some form.root := by
  have hevaluated :
      (passes (compile Registry.standard {} appointmentSchema) fun form =>
        form.root.namesBelow.all (fun name => decide (Location.IsPlain name)) &&
          !form.root.suits (.text "")) = true := by
    decide +kernel
  simp only [passes_iff, Bool.and_eq_true, List.all_eq_true, decide_eq_true_eq,
    Bool.not_eq_true'] at hevaluated
  obtain ⟨form, hform, hnames, hsuits⟩ := hevaluated
  refine ⟨form, hform, hnames, rfl, fun around => ?_, ?_⟩
  · refine ⟨form.root.kindFinding "" (.text ""), ?_, rfl, rfl⟩
    rw [findings, Field.findings_of_not_suits hsuits]
    exact List.mem_singleton_self _
  · rw [show Location.along "" [] = "" from rfl, field?_empty hnames]
    exact nofun

end Form
end SchemaForm
