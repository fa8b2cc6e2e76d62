import SchemaForm.Proofs.Form.Shape
import SchemaForm.Proofs.Json.Reordered
import SchemaForm.Proofs.Result.Alike

/-!
# Loading data in another order

The entries of data are merged into a group one after another, in the order in
which the data has them.  Each of them replaces the draft of one field, so that
they can change places, and those that name no field can be left out.  What
is loaded depends on the order of keys at no depth.

Main results:

- Theorem `mergeInto_erase`: each entry that names a field can be merged before all others.
- Theorem `mergeInto_eq_ok_iff`: entries that load alike name by name are merged alike.
- Theorem `alike_load`: a field loads alike whatever is the same for it.
- Theorem `Form.alike_load_of_sameFor`: so does a form.
-/

namespace SchemaForm

open Result

namespace Field

/-! ## Merging in another order -/

section Merging

variable {loaders : Entries (Json → Except DataError Draft)} {group merged : Entries Draft}
  {natives others : Entries Json} {name : String} {load : Json → Except DataError Draft}
  {native : Json}

/-- Data is merged without the entries that name no field. -/
theorem mergeInto_of_unknown (h : ∀ name ∈ natives.names, loaders.get? name = none)
    (group : Entries Draft) : mergeInto loaders group natives = .ok group := by
  induction natives with
  | nil => rfl
  | cons entry rest ih =>
      obtain ⟨name, native⟩ := entry
      have hname : loaders.get? name = none := h name List.mem_cons_self
      simp only [mergeInto, hname]
      exact ih fun other hother => h other (List.mem_cons_of_mem _ hother)

/-- An entry that names a field is loaded before the others are merged. -/
theorem mergeInto_cons_eq_ok (hload : loaders.get? name = some load) :
    mergeInto loaders group ((name, native) :: natives) = .ok merged ↔
      ∃ draft, load native = .ok draft ∧
        mergeInto loaders (group.put name draft) natives = .ok merged := by
  simp only [mergeInto, hload, bind_eq_ok, mapError_eq_ok]

/-- Each entry that names a field can be merged before all others. -/
theorem mergeInto_erase (hgroup : ∀ name, loaders.has name = true → name ∈ group.names)
    (hdistinct : natives.names.Nodup) (hload : loaders.get? name = some load)
    (hnative : natives.get? name = some native) :
    mergeInto loaders group natives = .ok merged ↔
      ∃ draft, load native = .ok draft ∧
        mergeInto loaders (group.put name draft) (natives.erase name) = .ok merged := by
  induction natives generalizing group with
  | nil => cases hnative
  | cons entry rest ih =>
      obtain ⟨other, first⟩ := entry
      obtain ⟨hfirst, hrest⟩ := List.nodup_cons.mp hdistinct
      rw [Entries.get?_cons] at hnative
      by_cases hname : name = other
      · subst hname
        rw [if_pos rfl] at hnative
        cases hnative
        rw [Entries.erase_cons_self hfirst]
        exact mergeInto_cons_eq_ok hload
      · rw [if_neg hname] at hnative
        rw [Entries.erase_cons_of_ne rest first (Ne.symm hname)]
        cases hother : loaders.get? other with
        | none =>
            simp only [mergeInto, hother]
            exact ih hgroup hrest hnative
        | some loadOther =>
            simp only [mergeInto_cons_eq_ok hother]
            have hmem : name ∈ group.names := hgroup name (by rw [Entries.has, hload]; rfl)
            obtain ⟨old, hold⟩ := Entries.exists_get? hmem
            have hkeeps : ∀ draft, ∀ known, loaders.has known = true →
                known ∈ (group.put other draft).names := by
              intro draft known hknown
              exact Entries.names_subset_put group other draft (hgroup known hknown)
            -- both entries are loaded in either order, and their writes change places
            constructor
            · rintro ⟨draft, hdraft, hmerged⟩
              obtain ⟨node, hnode, hmerged⟩ := (ih (hkeeps draft) hrest hnative).mp hmerged
              rw [← Entries.put_comm hold hname] at hmerged
              exact ⟨node, hnode, draft, hdraft, hmerged⟩
            · rintro ⟨node, hnode, draft, hdraft, hmerged⟩
              rw [Entries.put_comm hold hname] at hmerged
              exact ⟨draft, hdraft, (ih (hkeeps draft) hrest hnative).mpr ⟨node, hnode, hmerged⟩⟩

/-- Two objects are merged alike when what they have under each name of a field loads alike. -/
theorem mergeInto_eq_ok_iff (hgroup : ∀ name, loaders.has name = true → name ∈ group.names)
    (hnatives : natives.names.Nodup) (hothers : others.names.Nodup)
    (h : ∀ name load, loaders.get? name = some load →
      Option.Rel (fun first second => Alike (· = ·) (load first) (load second))
        (natives.get? name) (others.get? name)) :
    mergeInto loaders group natives = .ok merged ↔ mergeInto loaders group others = .ok merged := by
  induction natives generalizing group others with
  | nil =>
      have hunknown : ∀ name ∈ others.names, loaders.get? name = none := by
        intro name hname
        obtain ⟨other, hother⟩ := Entries.exists_get? hname
        rw [← Option.not_isSome_iff_eq_none, Option.isSome_iff_exists]
        rintro ⟨load, hload⟩
        have hnone := h name load hload
        rw [hother] at hnone
        cases hnone
      rw [mergeInto_of_unknown hunknown group]
      exact Iff.rfl
  | cons entry rest ih =>
      obtain ⟨name, native⟩ := entry
      obtain ⟨hfirst, hrest⟩ := List.nodup_cons.mp hnatives
      have hget : ∀ other, other ≠ name →
          Entries.get? ((name, native) :: rest) other = Entries.get? rest other := by
        intro other hother
        rw [Entries.get?_cons, if_neg hother]
      cases hload : loaders.get? name with
      | none =>
          simp only [mergeInto, hload]
          refine ih hgroup hrest hothers fun other load hother => ?_
          have hne : other ≠ name := by
            rintro rfl
            rw [hload] at hother
            cases hother
          rw [← hget other hne]
          exact h other load hother
      | some load =>
          have hname := h name load hload
          rw [Entries.get?_cons, if_pos rfl] at hname
          cases hother : others.get? name with
          | none =>
              rw [hother] at hname
              cases hname
          | some value =>
              rw [hother] at hname
              cases hname with
              | some hvalue =>
                  rw [mergeInto_cons_eq_ok hload, mergeInto_erase hgroup hothers hload hother]
                  refine exists_congr fun draft => and_congr (alike_eq_iff.mp hvalue draft) ?_
                  refine ih (fun known hknown => ?_) hrest ?_ fun known loadKnown hknown => ?_
                  · exact Entries.names_subset_put group name draft (hgroup known hknown)
                  · exact hothers.sublist (Entries.names_erase_sublist others name)
                  · by_cases hne : known = name
                    · subst hne
                      rw [Entries.get?_eq_none_iff.mpr hfirst, Entries.get?_erase_self]
                      exact .none
                    · rw [← hget known hne, Entries.get?_erase_of_ne others hne]
                      exact h known loadKnown hknown

end Merging

/-! ## The same data for a field -/

mutual

/-- Whether two values are the same for a field: they differ only in the order of keys and, where
objects are given to groups, in keys that name no field of the group. -/
def sameFor : Field → Json → Json → Bool
  | .object _ fields => fun first second =>
      match first, second with
      | .object natives, .object others =>
          decide (Entries.names natives).Nodup && decide (Entries.names others).Nodup &&
            haveSameFor fields natives others
      | first, second => Json.isReordered first second
  | .boolean _ | .string _ | .number _ | .array _ _ => Json.isReordered

/-- Whether two objects have the same for each of the given fields. -/
def haveSameFor : List (String × Field) → Entries Json → Entries Json → Bool
  | [] => fun _ _ => true
  | (name, field) :: rest => fun natives others =>
      (match natives.get? name, others.get? name with
        | some first, some second => sameFor field first second
        | none, none => true
        | _, _ => false) &&
      haveSameFor rest natives others

end

/-- Two objects have the same for fields when both lack the name of each field, or what they have
under it is the same for the field. -/
theorem haveSameFor_iff {fields : List (String × Field)} {natives others : Entries Json} :
    haveSameFor fields natives others = true ↔
      ∀ field ∈ fields, Option.Rel (fun first second => field.2.sameFor first second = true)
        (natives.get? field.1) (others.get? field.1) := by
  induction fields with
  | nil => simp [haveSameFor]
  | cons field rest ih =>
      obtain ⟨name, field⟩ := field
      rw [haveSameFor, Bool.and_eq_true, ih, List.forall_mem_cons]
      refine and_congr_left fun _ => ?_
      cases natives.get? name with
      | none =>
          cases others.get? name with
          | none => exact iff_of_true rfl .none
          | some second => exact iff_of_false Bool.false_ne_true nofun
      | some first =>
          cases others.get? name with
          | none => exact iff_of_false Bool.false_ne_true nofun
          | some second =>
              constructor
              · intro h
                exact .some h
              · rintro ⟨h⟩
                exact h

/-- What differs only in the order of keys is the same for every field. -/
theorem sameFor_of_reordered (field : Field) {first second : Json} (h : first.Reordered second) :
    field.sameFor first second = true := by
  induction field using Field.induction generalizing first second with
  | boolean spec => exact (Json.isReordered_iff first second).mpr h
  | string spec => exact (Json.isReordered_iff first second).mpr h
  | number spec => exact (Json.isReordered_iff first second).mpr h
  | array spec item _ => exact (Json.isReordered_iff first second).mpr h
  | object spec fields ih =>
      cases h with
      | object hfirst hsecond hvalues =>
          simp only [sameFor, hfirst, hsecond, decide_true, Bool.true_and]
          rw [haveSameFor_iff]
          intro field hfield
          rcases Entries.Reordered.cases_get? ⟨hfirst, hsecond, hvalues⟩ field.1 with
            ⟨hnone, hlacks⟩ | ⟨one, other, hone, hother, hrelated⟩
          · rw [hnone, hlacks]
            exact .none
          · rw [hone, hother]
            exact .some (ih field hfield hrelated)
      | array hitems =>
          simp only [sameFor]
          exact (Json.isReordered_iff _ _).mpr (.array hitems)
      | null => rfl
      | bool b => exact (Json.isReordered_iff _ _).mpr (.bool b)
      | number n => exact (Json.isReordered_iff _ _).mpr (.number n)
      | string s => exact (Json.isReordered_iff _ _).mpr (.string s)

/-! ## Loading alike -/

/-- The items of two lists are worked through alike when they are alike item by item. -/
theorem alike_eachItem {α β : Type} {f : α → Except DataError β} {items others : List α}
    (h : List.Forall₂ (fun first second => Alike (· = ·) (f first) (f second)) items others)
    (index : Nat) : Alike (· = ·) (eachItem f index items) (eachItem f index others) := by
  induction h generalizing index with
  | nil => exact .refl _
  | cons hfirst _ ih =>
      refine (hfirst.mapError _ _).bind fun value other hvalue => ?_
      refine (ih (index + 1)).bind fun rest more hrest => .ok ?_
      rw [hvalue, hrest]

/-- Values in another order of keys are the same choice, if they are one. -/
theorem alike_choiceText {first second : Json} (h : first.Reordered second) :
    Alike (· = ·) (choiceText first) (choiceText second) := by
  cases h with
  | array hitems => exact .error _ _
  | object hfirst hsecond hvalues => exact .error _ _
  | _ => exact .refl _

/-- Values in another order of keys are the same text under a codec, if they are one. -/
theorem alike_textOfNative (codec : Codec) (field : String) {first second : Json}
    (h : first.Reordered second) :
    Alike (· = ·) (codec.textOfNative field first) (codec.textOfNative field second) := by
  cases h with
  | array hitems => cases codec <;> exact .error _ _
  | object hfirst hsecond hvalues => cases codec <;> exact .error _ _
  | _ => exact .refl _

/-- Lists whose items load alike are loaded alike. -/
theorem alike_loadItems {item : Field} {load : Json → Except DataError Draft}
    {items others : List Json} (hitems : List.Forall₂ Json.Reordered items others)
    (hload : ∀ first second, first.Reordered second → Alike (· = ·) (load first) (load second)) :
    Alike (· = ·) (loadItems item load items) (loadItems item load others) := by
  unfold loadItems
  split
  · refine (alike_eachItem (hitems.imp fun _ _ => alike_choiceText) 0).map ?_
    rintro texts _ rfl
    rfl
  · refine (alike_eachItem (hitems.imp hload) 0).map ?_
    rintro drafts _ rfl
    rfl

/-- A group loads alike two objects that are alike for each of its fields. -/
theorem alike_load_object {spec : Spec} {fields : List (String × Field)}
    {natives others : Entries Json} (hnatives : natives.names.Nodup) (hothers : others.names.Nodup)
    (h : ∀ field ∈ fields,
      Option.Rel (fun first second => Alike (· = ·) (field.2.load first) (field.2.load second))
        (natives.get? field.1) (others.get? field.1)) :
    Alike (· = ·) (load (.object spec fields) (.object natives))
      (load (.object spec fields) (.object others)) := by
  rw [alike_eq_iff]
  intro draft
  rw [load_object_eq_ok, load_object_eq_ok]
  refine exists_congr fun base => exists_congr fun merged => and_congr_right fun hopened => ?_
  refine and_congr_left fun _ => mergeInto_eq_ok_iff (fun name hname => ?_) hnatives hothers ?_
  · rw [names_opened hopened, ← names_loaders]
    exact Entries.has_iff.mp hname
  · intro name load hload
    rw [get?_loaders, Option.map_eq_some_iff] at hload
    obtain ⟨field, hfield, rfl⟩ := hload
    exact h (name, field) (Entries.mem_of_get? hfield)

/-- A field loads alike whatever is the same for it. -/
theorem alike_load (field : Field) {first second : Json} (h : field.sameFor first second = true) :
    Alike (· = ·) (field.load first) (field.load second) := by
  induction field using Field.induction generalizing first second with
  | boolean spec =>
      cases (Json.isReordered_iff first second).mp h with
      | array hitems => exact .error _ _
      | object hfirst hsecond hvalues => exact .error _ _
      | _ => exact .refl _
  | string spec =>
      cases (Json.isReordered_iff first second).mp h with
      | array hitems =>
          simp only [load]
          split
          · exact .error _ _
          · exact (alike_textOfNative _ _ (.array hitems)).map fun _ _ => congrArg _
      | object hfirst hsecond hvalues =>
          simp only [load]
          split
          · exact .error _ _
          · have htexts := alike_textOfNative spec.codec "" (.object hfirst hsecond hvalues)
            exact htexts.map fun _ _ => congrArg _
      | _ => exact .refl _
  | number spec =>
      cases (Json.isReordered_iff first second).mp h with
      | array hitems => exact (alike_textOfNative _ _ (.array hitems)).map fun _ _ => congrArg _
      | object hfirst hsecond hvalues =>
          exact (alike_textOfNative _ _ (.object hfirst hsecond hvalues)).map fun _ _ => congrArg _
      | _ => exact .refl _
  | array spec item ih =>
      cases (Json.isReordered_iff first second).mp h with
      | array hitems =>
          refine alike_loadItems hitems fun one other hitem => ?_
          exact ih (item.sameFor_of_reordered hitem)
      | object hfirst hsecond hvalues => exact .error _ _
      | _ => exact .refl _
  | object spec fields ih =>
      cases first with
      | object natives =>
          cases second with
          | object others =>
              simp only [sameFor, Bool.and_eq_true, decide_eq_true_eq, haveSameFor_iff] at h
              obtain ⟨⟨hnatives, hothers⟩, hfields⟩ := h
              refine alike_load_object hnatives hothers fun field hfield => ?_
              exact optionRel_imp (hfields field hfield) fun _ _ => ih field hfield
          | _ => cases (Json.isReordered_iff _ _).mp h
      | array items =>
          cases (Json.isReordered_iff _ _).mp h with
          | array hitems => exact .error _ _
      | _ =>
          cases (Json.isReordered_iff _ _).mp h
          exact .refl _

end Field

namespace Form

/-- A form loads two values alike when they differ only in the order of keys and in keys that name
no field: it fails with both, or else it makes the same draft of both. -/
theorem alike_load_of_sameFor (form : Form) {first second : Json}
    (h : form.root.sameFor first second = true) :
    Alike (· = ·) (form.load first) (form.load second) :=
  form.root.alike_load h

/-- An appointment with one guest. -/
def shortAppointment : Json :=
  .object
    [("person", .object [("born", .string "1990-04-03"), ("name", .string "Ann")]),
      ("guests", .number (.integer 1)), ("topics", .array [.string "b"])]

/-- The same appointment in another order, with keys that no field has. -/
def annotatedAppointment : Json :=
  .object
    [("source", .string "mail"), ("topics", .array [.string "b"]),
      ("guests", .number (.integer 1)),
      ("person",
        .object
          [("name", .string "Ann"), ("age", .object [("years", .number (.integer 34))]),
            ("born", .string "1990-04-03")])]

/-- Both appointments are loaded as the same draft. -/
theorem alike_load_shortAppointment :
    ∃ form draft, compile Registry.standard {} appointmentSchema = .ok form ∧
      form.root.sameFor shortAppointment annotatedAppointment = true ∧
        form.load shortAppointment = .ok draft ∧ form.load annotatedAppointment = .ok draft := by
  have hevaluated :
      (passes (compile Registry.standard {} appointmentSchema) fun form =>
        form.root.sameFor shortAppointment annotatedAppointment &&
          Rule.succeeded (form.load shortAppointment)) = true := by
    decide +kernel
  simp only [passes_iff, Bool.and_eq_true, succeeded_iff] at hevaluated
  obtain ⟨form, hform, hsame, draft, hdraft⟩ := hevaluated
  obtain ⟨other, hother, rfl⟩ := (form.alike_load_of_sameFor hsame).exists_of_ok hdraft
  exact ⟨form, draft, hform, hsame, hdraft, hother⟩

end Form
end SchemaForm
