import SchemaForm.Proofs.Form.Canonical
import SchemaForm.Proofs.Form.Place

/-!
# Keys that data leaves out

A group for which data has an object starts from the draft with which the group
itself opens, and a field whose key is left out keeps its draft in there.  The
defaults of the groups around it are not looked at again.  What they say about
the field in an opened form is lost.

Main results:

- Theorem `find?_load_of_missing`: what a field becomes whose key is left out.
- Theorem `Form.find?_load_of_missing_key`: it is as in the opened form when the defaults of the
  groups around it spare it.
- Theorem `Form.find?_load_outerSchema`: otherwise it may differ.
-/

namespace SchemaForm

open Result

namespace Field

/-- A field whose key is left out in the object for its group has the draft with which the group
opens, at any depth. -/
theorem find?_load_of_missing {field group leaf : Field} {native : Json} {draft : Draft}
    {entries : Entries Json} {path : List String} {name : String} (hnative : native.Proper)
    (hload : field.load native = .ok draft) (hgroup : Form.descend field path = some group)
    (hleaf : Form.descend group [name] = some leaf)
    (hfound : native.find? path = some (.object entries)) (hmissing : entries.has name = false) :
    ∃ base node, group.opened = .ok base ∧ base.child? name = some node ∧
      draft.find? (path ++ [name]) = some node := by
  induction path generalizing field native draft with
  | nil =>
      cases hgroup
      cases hfound
      obtain ⟨spec, fields, child, rfl, hchild, -⟩ := Form.descend_cons.mp hleaf
      obtain ⟨base, merged, hopened, hmerged, rfl⟩ := load_object_eq_ok.mp hload
      obtain ⟨node, hnode, -⟩ := cases_get?_opened hopened hchild
      have hname : name ∉ entries.names := by
        rw [← Entries.has_iff, hmissing]
        exact Bool.false_ne_true
      have hkept := get?_mergeInto_of_notMem hmerged hname
      exact ⟨.group base, node, hopened, hnode, find?_group (hkept.trans hnode)⟩
  | cons step path ih =>
      obtain ⟨spec, fields, child, rfl, hchild, htarget⟩ := Form.descend_cons.mp hgroup
      cases native with
      | object natives =>
          obtain ⟨value, hvalue, hbelow⟩ := Option.bind_eq_some_iff.mp hfound
          obtain ⟨base, merged, -, hmerged, rfl⟩ := load_object_eq_ok.mp hload
          have hloader := get?_loaders_of_get? hchild
          obtain ⟨node, hnode, hget⟩ := get?_mergeInto hnative.nodup_names hmerged hloader hvalue
          rw [List.cons_append, find?_group hget]
          exact ih (hnative.get? hvalue) hnode htarget hbelow
      | _ => cases hfound

/-- Data without the key of a field leaves the draft of the field in an opened group alone. -/
theorem find?_load_of_lacks {group leaf : Field} {base draft : Draft} {native : Json}
    {name : String} (hleaf : Form.descend group [name] = some leaf)
    (hbase : group.opened = .ok base)
    (hlacks : native.lacks [name] = true) (hload : group.load native = .ok draft) :
    draft.find? [name] = base.find? [name] := by
  obtain ⟨spec, fields, child, rfl, -, -⟩ := Form.descend_cons.mp hleaf
  obtain ⟨natives, rfl, hnatives⟩ := Json.lacks_cons.mp hlacks
  obtain ⟨drafts, merged, hopened, hmerged, rfl⟩ := load_object_eq_ok.mp hload
  rw [hbase] at hopened
  cases hopened
  have hname : name ∉ Entries.names natives := by
    intro hmem
    obtain ⟨⟨_, value⟩, hvalue, rfl⟩ := List.mem_map.mp hmem
    have hempty := hnatives value hvalue
    cases value <;> cases hempty
  simp only [Draft.find?, Draft.child?, get?_mergeInto_of_notMem hmerged hname]

end Field

namespace Form

/-- A field whose key data leaves out has the draft with which its group opens.  This is its draft
in the opened form when the defaults of the groups around its group say nothing about it. -/
theorem find?_load_of_missing_key {form : Form} {start draft : Draft} {native : Json}
    {path : List String} {name : String} {field : Field} {entries : Entries Json}
    (hopened : form.opened = .ok start) (hnative : native.Proper)
    (hload : form.load native = .ok draft)
    (hfield : descend form.root (path ++ [name]) = some field)
    (hfound : native.find? path = some (.object entries)) (hmissing : entries.has name = false) :
    ∃ group base node, descend form.root path = some group ∧ group.opened = .ok base ∧
      base.child? name = some node ∧ draft.find? (path ++ [name]) = some node ∧
      (form.root.spares path [name] = true → start.find? (path ++ [name]) = some node) := by
  obtain ⟨group, hgroup, hleaf⟩ := descend_append.mp hfield
  obtain ⟨base, node, hbase, hnode, hdraft⟩ :=
    Field.find?_load_of_missing hnative hload hgroup hleaf hfound hmissing
  refine ⟨group, base, node, hgroup, hbase, hnode, hdraft, fun hspares => ?_⟩
  have hrest : ∀ native draft, native.lacks [name] = true → group.load native = .ok draft →
      draft.find? [name] = base.find? [name] :=
    fun _ _ => Field.find?_load_of_lacks hleaf hbase
  rw [(Field.find?_of_spares hbase hrest hgroup hspares).1 start hopened]
  simp [Draft.find?, hnode]

/-- Data of an appointment that does not name the person leaves the name as it is at the start. -/
theorem find?_load_appointment :
    ∃ form start draft, compile Registry.standard {} appointmentSchema = .ok form ∧
      form.opened = .ok start ∧
        form.load (.object [("person", .object [("born", .null)])]) = .ok draft ∧
          start.find? ["person", "name"] = some (.text "N.N.") ∧
            draft.find? ["person", "name"] = some (.text "N.N.") := by
  have hnative : (Json.object [("person", .object [("born", .null)])]).Proper := by decide +kernel
  have hevaluated :
      (passes (compile Registry.standard {} appointmentSchema) fun form =>
        (descend form.root (["person"] ++ ["name"])).isSome &&
          form.root.spares ["person"] ["name"] &&
            (passes form.opened fun start =>
              start.textAt? ["person", "name"] == some "N.N.") &&
                Rule.succeeded
                  (form.load (.object [("person", .object [("born", .null)])]))) = true := by
    decide +kernel
  obtain ⟨form, hform, hevaluated⟩ := passes_iff.mp hevaluated
  simp only [Bool.and_eq_true, passes_iff, beq_iff_eq, Draft.textAt?_eq_some] at hevaluated
  obtain ⟨⟨⟨hfield, hspares⟩, start, hopened, hname⟩, hloaded⟩ := hevaluated
  obtain ⟨field, hfield⟩ := Option.isSome_iff_exists.mp hfield
  obtain ⟨draft, hload⟩ := exists_of_succeeded hloaded
  obtain ⟨_, _, node, -, -, -, hdraft, hsame⟩ :=
    find?_load_of_missing_key hopened hnative hload hfield rfl rfl
  have hnode := hsame hspares
  rw [List.cons_append, List.nil_append] at hdraft hnode
  exact ⟨form, start, draft, hform, hopened, hload, hname, hdraft.trans (hnode.symm.trans hname)⟩

/-- A schema whose root has a default for a field that has another one itself. -/
def outerSchema : Json :=
  .object
    [("type", .string "object"),
      ("properties",
        .object
          [("inner",
            .object
              [("type", .string "object"),
                ("properties",
                  .object
                    [("a",
                      .object [("type", .string "string"), ("default", .string "inner")])])])]),
      ("default", .object [("inner", .object [("a", .string "outer")])])]

/-- Data without a key may change its draft: the form opens with the outer default, and empty data
for the group brings back the inner one. -/
theorem find?_load_outerSchema :
    ∃ form start draft, compile Registry.standard {} outerSchema = .ok form ∧
      form.opened = .ok start ∧ form.load (.object [("inner", .object [])]) = .ok draft ∧
        start.find? ["inner", "a"] = some (.text "outer") ∧
          draft.find? ["inner", "a"] = some (.text "inner") := by
  have hevaluated :
      (passes (compile Registry.standard {} outerSchema) fun form =>
        (passes form.opened fun start => start.textAt? ["inner", "a"] == some "outer") &&
          passes (form.load (.object [("inner", .object [])])) fun draft =>
            draft.textAt? ["inner", "a"] == some "inner") = true := by
    decide +kernel
  simp only [passes_iff, Bool.and_eq_true, beq_iff_eq, Draft.textAt?_eq_some] at hevaluated
  obtain ⟨form, hform, ⟨start, hopened, hstart⟩, draft, hload, hdraft⟩ := hevaluated
  exact ⟨form, start, draft, hform, hopened, hload, hstart, hdraft⟩

end Form
end SchemaForm
