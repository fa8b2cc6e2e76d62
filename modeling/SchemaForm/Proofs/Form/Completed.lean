import SchemaForm.Proofs.Field.Part
import SchemaForm.Proofs.Form.Complete

/-!
# Drafts with missing entries

A group may lack the entries of some fields.  Checking takes such an entry for a
cleared one at every depth.  Reading takes it for `null`, which is also what a
cleared text, number or choice reads as; but a cleared switch is off, a cleared
list is empty, and a cleared group has entries of its own.

Main results:

- Theorem `get?_completedFields`: the entries of a completed group.
- Theorem `findings_completed`: completing a draft leaves its findings as they are.
- Theorem `sameWhen_read`: reading it fails alike, and gives the same data exactly when only texts,
  numbers and choices are missing.
- Theorem `Form.findings_read_completed`: so it is for the drafts of a form.
- Theorem `Form.read_completed_newsletterSchema`: a missing switch reads differently.
-/

namespace SchemaForm

open Result

/-! ## Results that are the same under a condition -/

namespace Result

variable {ε δ α β γ : Type} {first second : Prop}

/-- Two computations that fail with the same error, or else succeed with values that are equal
exactly under a condition. -/
inductive SameWhen (same : Prop) : Except ε α → Except ε α → Prop
  | ok {a b : α} (h : b = a ↔ same) : SameWhen same (.ok a) (.ok b)
  | error (error : ε) : SameWhen same (.error error) (.error error)

/-- A computation has its own result. -/
theorem SameWhen.refl (x : Except ε α) : SameWhen True x x := by
  cases x with
  | ok a => exact .ok (iff_of_true rfl trivial)
  | error error => exact .error error

/-- Errors are the same under every condition. -/
theorem SameWhen.eq_error_iff {x y : Except ε α} (h : SameWhen first x y) {error : ε} :
    y = .error error ↔ x = .error error := by
  cases h with
  | ok h => exact iff_of_false nofun nofun
  | error found => exact Iff.rfl

/-- Where the first computation has a value, so has the second one. -/
theorem SameWhen.exists_of_ok {x y : Except ε α} (h : SameWhen first x y) {a : α}
    (hx : x = .ok a) : ∃ b, y = .ok b ∧ (b = a ↔ first) := by
  cases h with
  | ok h =>
      cases hx
      exact ⟨_, rfl, h⟩
  | error error => cases hx

/-- A step that only changes values, and different values differently, keeps the condition. -/
theorem SameWhen.map {x y : Except ε α} (h : SameWhen first x y) {f : α → β}
    (hf : Function.Injective f) : SameWhen first (x.map f) (y.map f) := by
  cases h with
  | ok h => exact .ok (hf.eq_iff.trans h)
  | error error => exact .error error

/-- Another view of errors keeps the condition. -/
theorem SameWhen.mapError {x y : Except ε α} (h : SameWhen first x y) (f : ε → δ) :
    SameWhen first (x.mapError f) (y.mapError f) := by
  cases h with
  | ok h => exact .ok h
  | error error => exact .error (f error)

/-- Two results that are put together are the same under both conditions. -/
theorem SameWhen.pair {x y : Except ε α} (hx : SameWhen first x y) {z w : Except ε β}
    (hz : SameWhen second z w) {f : α → β → γ}
    (hf : ∀ a b c d, f a b = f c d ↔ a = c ∧ b = d) :
    SameWhen (first ∧ second) (do return f (← x) (← z)) (do return f (← y) (← w)) := by
  cases hx with
  | error error => exact .error error
  | ok hfirst =>
      cases hz with
      | error error => exact .error error
      | ok hsecond => exact .ok ((hf _ _ _ _).trans (and_congr hfirst hsecond))

end Result

namespace Field

/-! ## Completing drafts -/

mutual

/-- A draft in which each group that stands at a group of fields has the cleared draft of every
field for which it has no entry. -/
def completed : Field → Draft → Draft
  | .array _ item => fun draft =>
      match draft with
      | .list items => .list (items.map (completed item))
      | other => other
  | .object _ fields => fun draft =>
      match draft with
      | .group entries => .group (completedFields fields entries)
      | other => other
  | .boolean _ | .string _ | .number _ => fun draft => draft

/-- The entries of a group, with those that are missing at its end. -/
def completedFields : List (String × Field) → Entries Draft → Entries Draft
  | [] => fun entries => entries
  | (name, field) :: rest => fun entries =>
      completedFields rest
        (entries.put name
          (match entries.get? name with
            | some node => completed field node
            | none => field.cleared))

end

mutual

/-- Whether all entries that a draft lacks are those of texts, numbers and choices. -/
def lacksOnlyTexts : Field → Draft → Bool
  | .array _ item => fun draft =>
      match draft with
      | .list items => items.all (lacksOnlyTexts item)
      | _ => true
  | .object _ fields => fun draft =>
      match draft with
      | .group entries => lackOnlyTexts fields entries
      | _ => true
  | .boolean _ | .string _ | .number _ => fun _ => true

/-- Whether all entries that a group lacks for the given fields, or in their nodes, are those of
texts, numbers and choices. -/
def lackOnlyTexts : List (String × Field) → Entries Draft → Bool
  | [] => fun _ => true
  | (name, field) :: rest => fun entries =>
      (match entries.get? name with
        | some node => lacksOnlyTexts field node
        | none => field.kind == .string || field.kind == .number) &&
        lackOnlyTexts rest entries

end

/-- The node of a field in a completed group. -/
def completedNode (field : Field) : Option Draft → Draft
  | some node => field.completed node
  | none => field.cleared

/-- Whether a field lacks only texts, numbers and choices, with itself if it has no node. -/
def nodeLacksOnlyTexts (field : Field) : Option Draft → Bool
  | some node => field.lacksOnlyTexts node
  | none => field.kind == .string || field.kind == .number

variable {spec : Spec} {fields : List (String × Field)}

/-- A group is completed by its first field and the others. -/
theorem completedFields_cons (name : String) (field : Field) (rest : List (String × Field))
    (entries : Entries Draft) :
    completedFields ((name, field) :: rest) entries =
      completedFields rest (entries.put name (field.completedNode (entries.get? name))) := by
  rw [completedFields, completedNode.eq_def]

/-- Other names than those of the fields keep their entries. -/
theorem get?_completedFields_of_notMem {entries : Entries Draft} {name : String}
    (hname : name ∉ Entries.names fields) :
    Entries.get? (completedFields fields entries) name = entries.get? name := by
  induction fields generalizing entries with
  | nil => rfl
  | cons field rest ih =>
      obtain ⟨hfirst, hrest⟩ := List.ne_and_not_mem_of_not_mem_cons hname
      rw [completedFields_cons, ih hrest]
      exact Entries.get?_put_of_ne entries _ hfirst

/-- A completed group has an entry for each field: its completed node, or the cleared one. -/
theorem get?_completedFields (hnames : (Entries.names fields).Nodup) (entries : Entries Draft)
    {field : String × Field} (hfield : field ∈ fields) :
    Entries.get? (completedFields fields entries) field.1 =
      some (field.2.completedNode (entries.get? field.1)) := by
  induction fields generalizing entries with
  | nil => cases hfield
  | cons first rest ih =>
      obtain ⟨hfirst, hdistinct⟩ := List.nodup_cons.mp hnames
      rw [completedFields_cons]
      rcases List.mem_cons.mp hfield with rfl | hfield
      · rw [get?_completedFields_of_notMem hfirst]
        exact Entries.get?_put_self entries _ _
      · have hne : field.1 ≠ first.1 := by
          intro hsame
          exact hfirst (hsame ▸ List.mem_map_of_mem hfield)
        rw [ih hdistinct _ hfield, Entries.get?_put_of_ne entries _ hne]

/-! ## Checking -/

/-- The findings in a group depend on the nodes that its fields see. -/
theorem findingsOfFields_congr_nodes {around : Surroundings} {entries others : Entries Draft}
    (h : ∀ field ∈ fields, ∀ place,
      field.2.findings around place ((entries.get? field.1).getD field.2.cleared) =
        field.2.findings around place ((others.get? field.1).getD field.2.cleared))
    (path : String) :
    findingsOfFields around fields path entries = findingsOfFields around fields path others := by
  induction fields with
  | nil => rfl
  | cons first rest ih =>
      obtain ⟨hfirst, hrest⟩ := List.forall_mem_cons.mp h
      simp only [findingsOfFields, hfirst, ih hrest]

/-- The findings in a list depend on those in its items. -/
theorem findingsOfItems_map {α β : Type} {find : String → β → List Finding} {f : α → β}
    {path : String} {index : Nat} {items : List α} :
    findingsOfItems find path index (items.map f) =
      findingsOfItems (fun place item => find place (f item)) path index items := by
  induction items generalizing index with
  | nil => rfl
  | cons item rest ih => simp only [List.map_cons, findingsOfItems, ih]

/-- Completing a draft leaves its findings as they are. -/
theorem findings_completed {field : Field} (hfield : field.HasDistinctNames)
    (around : Surroundings) (path : String) (draft : Draft) :
    field.findings around path (field.completed draft) = field.findings around path draft := by
  induction hfield generalizing path draft with
  | boolean spec => rfl
  | string spec => rfl
  | number spec => rfl
  | @array spec item hitem ih =>
      cases draft with
      | list items =>
          have hitems : (fun place node => item.findings around place (item.completed node)) =
              item.findings around := by
            funext place node
            exact ih place node
          simp only [completed, findings, findingsOfItems_map, hitems, List.length_map]
      | _ => rfl
  | @object spec fields hnames hfields ih =>
      cases draft with
      | group entries =>
          simp only [completed, findings]
          refine findingsOfFields_congr_nodes (fun field hfield place => ?_) path
          rw [get?_completedFields hnames entries hfield, Option.getD_some]
          cases Entries.get? entries field.1 with
          | none => rfl
          | some node => exact ih field hfield place node
      | _ => rfl

/-! ## Reading -/

/-- A cleared field can be read.  What it reads as is `null` for texts, numbers and choices, and
nothing else. -/
theorem exists_read_cleared {field : Field} (hfield : field.HasDistinctNames) :
    ∃ native, field.read field.cleared = .ok native ∧
      (native = .null ↔ (field.kind == .string || field.kind == .number) = true) := by
  induction hfield with
  | boolean spec => exact ⟨.bool false, rfl, by simp [kind]⟩
  | string spec =>
      refine ⟨.null, ?_, by simp [kind]⟩
      rw [cleared]
      split <;> rfl
  | number spec => exact ⟨.null, rfl, by simp [kind]⟩
  | @array spec item hitem ih =>
      refine ⟨.array [], ?_, by simp [kind]⟩
      rw [cleared]
      split <;> rfl
  | @object spec fields hnames hfields ih =>
      have hread : ∀ field ∈ fields, ∃ value : String × Json, value.1 = field.1 ∧
          field.2.readNode (Entries.get? (clearedFields fields) field.1) = .ok value.2 := by
        intro field hfield
        obtain ⟨native, hnative, -⟩ := ih field hfield
        rw [get?_clearedFields hnames hfield]
        exact ⟨(field.1, native), rfl, hnative⟩
      obtain ⟨values, hvalues⟩ := exists_forall₂ hread
      refine ⟨.object values, ?_, by simp [kind]⟩
      rw [cleared, read_group_eq_ok]
      exact ⟨values, hvalues, rfl⟩

/-- The items of a list are read as the same exactly when each of them is. -/
theorem sameWhen_eachItem {α β : Type} {f : β → Except DataError α} {g : β → β} {test : β → Bool}
    {items : List β} (h : ∀ item ∈ items, SameWhen (test item = true) (f item) (f (g item)))
    (index : Nat) :
    SameWhen (items.all test = true) (eachItem f index items) (eachItem f index (items.map g)) := by
  induction items generalizing index with
  | nil => exact .ok (by simp)
  | cons item rest ih =>
      obtain ⟨hitem, hrest⟩ := List.forall_mem_cons.mp h
      rw [List.all_cons, Bool.and_eq_true]
      exact (hitem.mapError _).pair (ih hrest (index + 1)) (by simp)

/-- The fields of a group are read as the same exactly when each of them is. -/
theorem sameWhen_readFields {entries others : Entries Draft}
    (h : ∀ field ∈ fields,
      SameWhen (field.2.nodeLacksOnlyTexts (entries.get? field.1) = true)
        (field.2.readNode (entries.get? field.1)) (field.2.readNode (others.get? field.1))) :
    SameWhen (lackOnlyTexts fields entries = true) (readFields fields entries)
      (readFields fields others) := by
  induction fields with
  | nil => exact .ok (by simp [lackOnlyTexts])
  | cons field rest ih =>
      obtain ⟨name, field⟩ := field
      obtain ⟨hfield, hrest⟩ := List.forall_mem_cons.mp h
      have hlack : lackOnlyTexts ((name, field) :: rest) entries =
          (field.nodeLacksOnlyTexts (entries.get? name) && lackOnlyTexts rest entries) := by
        rw [lackOnlyTexts, nodeLacksOnlyTexts.eq_def]
      rw [readFields_cons, readFields_cons, hlack, Bool.and_eq_true]
      exact (hfield.mapError _).pair (ih hrest) (by simp)

/-- A completed draft fails to be read with the same error as the draft itself, and otherwise is
read as the same data exactly when only texts, numbers and choices were missing. -/
theorem sameWhen_read {field : Field} (hfield : field.HasDistinctNames) (draft : Draft) :
    SameWhen (field.lacksOnlyTexts draft = true) (field.read draft)
      (field.read (field.completed draft)) := by
  induction hfield generalizing draft with
  | boolean spec => simpa [lacksOnlyTexts, completed] using SameWhen.refl _
  | string spec => simpa [lacksOnlyTexts, completed] using SameWhen.refl _
  | number spec => simpa [lacksOnlyTexts, completed] using SameWhen.refl _
  | @array spec item hitem ih =>
      cases draft with
      | list items =>
          simp only [lacksOnlyTexts, completed, read]
          refine SameWhen.map (sameWhen_eachItem (fun node _ => ih node) 0) ?_
          exact fun _ _ h => Json.array.inj h
      | _ => simpa [lacksOnlyTexts, completed] using SameWhen.refl _
  | @object spec fields hnames hfields ih =>
      cases draft with
      | group entries =>
          simp only [lacksOnlyTexts, completed, read]
          refine SameWhen.map (sameWhen_readFields fun field hfield => ?_) ?_
          · rw [get?_completedFields hnames entries hfield]
            cases Entries.get? entries field.1 with
            | none =>
                obtain ⟨native, hnative, hnull⟩ := exists_read_cleared (hfields field hfield)
                simp only [readNode, completedNode, hnative]
                exact .ok hnull
            | some node => exact ih field hfield node
          · exact fun _ _ h => Json.object.inj h
      | _ => simpa [lacksOnlyTexts, completed] using SameWhen.refl _

end Field

namespace Form

/-- A missing entry is checked as a cleared one.  It is read as `null`, so that a draft with missing
entries fails to be read exactly like the completed one, and is read as the same data when all
entries that are missing are those of texts, numbers and choices, and only then. -/
theorem findings_read_completed {registry : Registry} {settings : Settings} {schema : Json}
    {form : Form} (hregistry : registry.KeepsNamesDistinct) (hschema : schema.Proper)
    (hform : compile registry settings schema = .ok form) (around : Surroundings)
    (draft : Draft) :
    form.findings around (form.root.completed draft) = form.findings around draft ∧
      (∀ error, form.read (form.root.completed draft) = .error error ↔
        form.read draft = .error error) ∧
      ∀ native, form.read draft = .ok native →
        ∃ other, form.read (form.root.completed draft) = .ok other ∧
          (other = native ↔ form.root.lacksOnlyTexts draft = true) := by
  have hdistinct := Building.hasDistinctNames_of_compile hregistry hschema hform
  have hread := Field.sameWhen_read hdistinct draft
  exact ⟨Field.findings_completed hdistinct around "" draft, fun _ => hread.eq_error_iff,
    fun _ hnative => hread.exists_of_ok hnative⟩

/-- An appointment of which nobody has entered any text yet. -/
def untoldAppointment : Draft :=
  .group
    [("online", .toggle true), ("person", .group []), ("topics", .choices ["a"]),
      ("notes", .list [])]

/-- Without its texts an appointment has the findings and the data of the completed one. -/
theorem findings_read_untoldAppointment :
    ∃ form native, compile Registry.standard {} appointmentSchema = .ok form ∧
      form.findings ⟨fun _ => false, fun _ => false, true, id⟩
          (form.root.completed untoldAppointment) =
        form.findings ⟨fun _ => false, fun _ => false, true, id⟩ untoldAppointment ∧
      form.read untoldAppointment = .ok native ∧
        form.read (form.root.completed untoldAppointment) = .ok native := by
  have hregistry := Registry.isBuiltIn_standard.isRegular.keepsNamesDistinct
  have hschema : appointmentSchema.Proper := by decide +kernel
  have hevaluated :
      (passes (compile Registry.standard {} appointmentSchema) fun form =>
        Rule.succeeded (form.read untoldAppointment) &&
          form.root.lacksOnlyTexts untoldAppointment) = true := by
    decide +kernel
  simp only [passes_iff, Bool.and_eq_true, succeeded_iff] at hevaluated
  obtain ⟨form, hform, ⟨native, hnative⟩, hlacks⟩ := hevaluated
  obtain ⟨hfindings, -, hread⟩ := findings_read_completed hregistry hschema hform
    ⟨fun _ => false, fun _ => false, true, id⟩ untoldAppointment
  obtain ⟨other, hother, hsame⟩ := hread native hnative
  exact ⟨form, native, hform, hfindings, hnative, hsame.mpr hlacks ▸ hother⟩

/-- A schema with a switch. -/
def newsletterSchema : Json :=
  .object
    [("type", .string "object"),
      ("properties", .object [("subscribed", .object [("type", .string "boolean")])])]

/-- A missing switch is read as `null`, although a cleared one is read as off. -/
theorem read_completed_newsletterSchema :
    ∃ form, compile Registry.standard {} newsletterSchema = .ok form ∧
      form.read (.group []) = .ok (.object [("subscribed", .null)]) ∧
        form.read (form.root.completed (.group [])) =
          .ok (.object [("subscribed", .bool false)]) := by
  have hevaluated :
      (passes (compile Registry.standard {} newsletterSchema) fun form =>
        (passes (form.read (.group [])) fun native =>
            native.isSame (.object [("subscribed", .null)])) &&
          passes (form.read (form.root.completed (.group []))) fun native =>
            native.isSame (.object [("subscribed", .bool false)])) = true := by
    decide +kernel
  simp only [passes_iff, Bool.and_eq_true, Json.isSame_iff] at hevaluated
  obtain ⟨form, hform, ⟨_, hread, rfl⟩, _, hcompleted, rfl⟩ := hevaluated
  exact ⟨form, hform, hread, hcompleted⟩

end Form
end SchemaForm
