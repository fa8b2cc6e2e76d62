import SchemaForm.Proofs.Form.Canonical
import SchemaForm.Proofs.Form.Place

/-!
# The shape of drafts

A draft has the shape of its field when each node has the kind of its field,
each item of a list the shape of the items, and each group the names of its
fields in order.  Whatever clearing, opening and loading make has this shape.

Main results:

- Theorem `isShaped_cleared`, Theorem `isShaped_opened`, Theorem `isShaped_load`: the drafts that a
  field makes have its shape.
- Theorem `exists_find?_of_isShaped`: a draft in the shape of a form has a node at each of its
  places.
-/

namespace SchemaForm

open Result

namespace Field

/-! ## Shapes -/

mutual

/-- Whether a draft has the shape of a field. -/
def isShaped : Field → Draft → Bool
  | .array spec item => fun draft =>
      draft.kind == draftKind (.array spec item) &&
        match draft with
        | .list items => items.all (isShaped item)
        | _ => true
  | .object _ fields => fun draft =>
      match draft with
      | .group entries => areShaped fields entries
      | _ => false
  | field => fun draft => draft.kind == field.draftKind

/-- Whether a group has the names of fields in order, with nodes in their shapes. -/
def areShaped : List (String × Field) → List (String × Draft) → Bool
  | [] => fun entries => entries.isEmpty
  | (name, field) :: rest => fun entries =>
      match entries with
      | (other, node) :: others => other == name && isShaped field node && areShaped rest others
      | [] => false

end

theorem areShaped_iff {fields : List (String × Field)} {entries : List (String × Draft)} :
    areShaped fields entries = true ↔
      List.Forall₂ (fun field node => node.1 = field.1 ∧ field.2.isShaped node.2 = true) fields
        entries := by
  induction fields generalizing entries with
  | nil => simp [areShaped]
  | cons field rest ih =>
      obtain ⟨name, field⟩ := field
      cases entries with
      | nil => simp [areShaped]
      | cons entry others => simp [areShaped, ih]

@[simp]
theorem isShaped_choices (spec : Spec) (item : Field) (chosen : List String) :
    isShaped (.array spec item) (.choices chosen) = item.attributes.choices.isSome := by
  simp only [isShaped, draftKind_array]
  split <;> simp_all [Draft.kind]

@[simp]
theorem isShaped_list (spec : Spec) (item : Field) (items : List Draft) :
    isShaped (.array spec item) (.list items) = true ↔
      item.attributes.choices.isSome = false ∧ ∀ node ∈ items, item.isShaped node = true := by
  simp only [isShaped, draftKind_array, Bool.and_eq_true, List.all_eq_true]
  split <;> simp_all [Draft.kind]

@[simp]
theorem isShaped_group (spec : Spec) (fields : List (String × Field))
    (entries : List (String × Draft)) :
    isShaped (.object spec fields) (.group entries) = areShaped fields entries := by
  simp [isShaped]

/-- A text is the shape of an input field. -/
theorem isShaped_text {field : Field} (hinput : field.isInput = true) (text : String) :
    field.isShaped (.text text) = true := by
  cases field with
  | string spec =>
      have hselect : isSelect (.string spec) = false := by simpa [isInput] using hinput
      simp only [isShaped, draftKind_string, hselect]
      rfl
  | number spec => rfl
  | _ => cases hinput

/-- A choice is the shape of a closed list. -/
theorem isShaped_choice {spec : Spec} (hselect : isSelect (.string spec) = true)
    (chosen : Option String) : isShaped (.string spec) (.choice chosen) = true := by
  simp only [isShaped, draftKind_string, hselect]
  rfl

/-! ## Drafts that a field makes -/

/-- A cleared draft has the shape of its field. -/
theorem isShaped_cleared (field : Field) : field.isShaped field.cleared = true := by
  induction field using Field.induction with
  | array spec item ih =>
      simp only [cleared]
      split
      · rename_i hchoices
        rw [isShaped_choices, hchoices]
      · rename_i hchoices
        rw [isShaped_list]
        exact ⟨Bool.eq_false_iff.mpr hchoices, by simp⟩
  | object spec fields ih =>
      rw [cleared, isShaped_group, areShaped_iff, clearedFields_eq_map, List.forall₂_map_right_iff,
        List.forall₂_same]
      intro field hfield
      exact ⟨rfl, ih field hfield⟩
  | _ => simp only [isShaped, draftKind, beq_self_eq_true]

/-- A list of data loads in the shape of the list when its items do. -/
theorem isShaped_loadItems {spec : Spec} {item : Field}
    (hitem : ∀ native draft, item.load native = .ok draft → item.isShaped draft = true)
    {natives : List Json} {draft : Draft} (h : loadItems item item.load natives = .ok draft) :
    isShaped (.array spec item) draft = true := by
  unfold loadItems at h
  split at h
  · rename_i hchoices
    obtain ⟨texts, -, rfl⟩ := map_eq_ok.mp h
    rw [isShaped_choices, hchoices]
  · rename_i hchoices
    obtain ⟨drafts, hdrafts, rfl⟩ := map_eq_ok.mp h
    rw [isShaped_list]
    refine ⟨Bool.eq_false_iff.mpr hchoices, fun node hnode => ?_⟩
    obtain ⟨native, -, hload⟩ := exists_of_forall₂ (eachItem_eq_ok.mp hdrafts).flip hnode
    exact hitem native node hload

/-- Writing a draft in the shape of a field under its name keeps the shape of a group. -/
theorem areShaped_put {fields : List (String × Field)} {group : Entries Draft} {name : String}
    {field : Field} {node : Draft} (hgroup : areShaped fields group = true)
    (hfield : Entries.get? fields name = some field) (hnode : field.isShaped node = true) :
    areShaped fields (group.put name node) = true := by
  rw [areShaped_iff] at hgroup ⊢
  induction hgroup with
  | nil => cases hfield
  | @cons first entry _ _ hfirst hrest ih =>
      obtain ⟨other, draft⟩ := entry
      obtain ⟨rfl, hshaped⟩ := hfirst
      rw [Entries.get?_cons] at hfield
      simp only [Entries.put]
      split
      · rename_i hname
        rw [if_pos hname.symm, Option.some.injEq] at hfield
        exact .cons ⟨rfl, hfield ▸ hnode⟩ hrest
      · rename_i hname
        rw [if_neg fun hsame => hname hsame.symm] at hfield
        exact .cons ⟨rfl, hshaped⟩ (ih hfield)

/-- Merging data keeps the shape of a group when each field loads in its shape. -/
theorem areShaped_mergeInto {fields : List (String × Field)}
    (hfields : ∀ field ∈ fields, ∀ native draft, field.2.load native = .ok draft →
      field.2.isShaped draft = true)
    {natives : List (String × Json)} {group merged : Entries Draft}
    (hgroup : areShaped fields group = true)
    (h : mergeInto (loaders fields) group natives = .ok merged) :
    areShaped fields merged = true := by
  induction natives generalizing group with
  | nil =>
      cases h
      exact hgroup
  | cons entry rest ih =>
      obtain ⟨name, native⟩ := entry
      rcases mergeInto_cons h with ⟨-, hrest⟩ | ⟨loader, draft, hloader, hdraft, hrest⟩
      · exact ih hgroup hrest
      · rw [get?_loaders] at hloader
        obtain ⟨field, hfield, rfl⟩ := Option.map_eq_some_iff.mp hloader
        have hnode := hfields _ (Entries.mem_of_get? hfield) native draft hdraft
        exact ih (areShaped_put hgroup hfield hnode) hrest

/-- Opening and loading make drafts in the shape of the field. -/
theorem isShaped_opened_load (field : Field) :
    (∀ draft, field.opened = .ok draft → field.isShaped draft = true) ∧
      ∀ native draft, field.load native = .ok draft → field.isShaped draft = true := by
  induction field using Field.induction with
  | boolean spec =>
      constructor
      · intro draft h
        cases h
        rfl
      · intro native draft h
        cases native <;> cases h <;> rfl
  | string spec =>
      by_cases hselect : isSelect (.string spec) = true
      · constructor
        · intro draft h
          simp only [opened, if_pos hselect, Except.ok.injEq] at h
          exact h ▸ isShaped_choice hselect _
        · intro native draft h
          rcases (load_select hselect).mp h with ⟨-, rfl⟩ | ⟨chosen, -, rfl⟩
          · exact isShaped_choice hselect none
          · exact isShaped_choice hselect (some chosen)
      · have hinput := isInput_string (Bool.eq_false_iff.mpr hselect)
        constructor
        · intro draft h
          simp only [opened, if_neg hselect] at h
          obtain ⟨text, -, rfl⟩ := map_eq_ok.mp h
          exact isShaped_text hinput text
        · intro native draft h
          rw [load_input hinput] at h
          obtain ⟨text, -, rfl⟩ := map_eq_ok.mp h
          exact isShaped_text hinput text
  | number spec =>
      constructor
      · intro draft h
        obtain ⟨text, -, rfl⟩ := map_eq_ok.mp h
        rfl
      · intro native draft h
        rw [load_input rfl] at h
        obtain ⟨text, -, rfl⟩ := map_eq_ok.mp h
        rfl
  | array spec item ih =>
      constructor
      · intro draft h
        simp only [opened] at h
        split at h
        · exact isShaped_loadItems ih.2 h
        · cases h
          exact isShaped_cleared _
      · intro native draft h
        cases native with
        | null =>
            cases h
            exact isShaped_cleared _
        | array natives => exact isShaped_loadItems ih.2 h
        | _ => cases h
  | object spec fields ih =>
      have hloads := fun field hfield => (ih field hfield).2
      have hopened : ∀ group, opened (.object spec fields) = .ok (.group group) →
          areShaped fields group = true := by
        intro group h
        obtain ⟨drafts, _, hdrafts, hmerged, hsame⟩ := opened_object_eq_ok.mp h
        cases hsame
        have hstart : areShaped fields drafts = true := by
          rw [areShaped_iff]
          have hparts := (List.forall₂_and_left _ _).mpr
            ⟨fun field hfield => (ih field hfield).1, openedFields_eq_ok.mp hdrafts⟩
          exact hparts.imp fun field node h => ⟨h.2.1, h.1 _ h.2.2⟩
        unfold mergeDefault at hmerged
        split at hmerged
        · exact areShaped_mergeInto hloads hstart hmerged
        · cases hmerged
          exact hstart
      constructor
      · intro draft h
        obtain ⟨_, group, -, -, rfl⟩ := opened_object_eq_ok.mp h
        rw [isShaped_group]
        exact hopened group h
      · intro native draft h
        cases native with
        | null =>
            cases h
            exact isShaped_cleared _
        | object natives =>
            obtain ⟨group, merged, hgroup, hmerged, rfl⟩ := load_object_eq_ok.mp h
            rw [isShaped_group]
            exact areShaped_mergeInto hloads (hopened group hgroup) hmerged
        | _ => cases h

/-- An opened draft has the shape of its field. -/
theorem isShaped_opened {field : Field} {draft : Draft} (h : field.opened = .ok draft) :
    field.isShaped draft = true :=
  (isShaped_opened_load field).1 draft h

/-- A loaded draft has the shape of its field. -/
theorem isShaped_load {field : Field} {native : Json} {draft : Draft}
    (h : field.load native = .ok draft) : field.isShaped draft = true :=
  (isShaped_opened_load field).2 native draft h

/-! ## Places -/

/-- A draft in the shape of a form has a node in the shape of the field at each of its places. -/
theorem exists_find?_of_isShaped {field target : Field} {draft : Draft} {path : List String}
    (hdraft : field.isShaped draft = true) (hfield : Form.descend field path = some target) :
    ∃ node, draft.find? path = some node ∧ target.isShaped node = true := by
  induction path generalizing field draft with
  | nil =>
      cases hfield
      exact ⟨draft, rfl, hdraft⟩
  | cons name path ih =>
      obtain ⟨spec, fields, child, rfl, hchild, htarget⟩ := Form.descend_cons.mp hfield
      cases draft with
      | group entries =>
          rw [isShaped_group, areShaped_iff] at hdraft
          obtain ⟨node, hnode, hshaped⟩ :=
            get?_of_forall₂ (r := fun field node => field.isShaped node = true) hdraft hchild
          rw [find?_group hnode]
          exact ih hshaped htarget
      | _ => cases hdraft

end Field
end SchemaForm
