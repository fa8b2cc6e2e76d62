import SchemaForm.Form.Basic
import SchemaForm.Proofs.Form.Merging

/-!
# Places in forms and drafts

A place is a list of names through groups.  The draft at a place of an opened
form comes from the defaults of the field there, unless the default of a group
around it says something else about the place.

Main results:

- Theorem `descend_append`: a place below a place.
- Theorem `get?_openedFields`: a named field of a group opens into the draft of its name.
- Theorem `find?_of_spares`: a place that is spared by the defaults around it, and by data, is as
  the field there opens.
- Theorem `find?_opened`: so is the draft of a field of an opened form.
-/

namespace SchemaForm

open Result

/-! ## Documents and drafts -/

namespace Json

/-- The value at the end of a path of keys through objects. -/
def find? (value : Json) : List String → Option Json
  | [] => some value
  | name :: path =>
      (value.asObject?.bind fun entries => entries.get? name).bind fun child => child.find? path

/-- Whether a document says nothing about a place: somewhere on the way there, an object does not
have the key.  A value on the way that is no object says something about all that lies below. -/
def lacks : Json → List String → Bool
  | _, [] => false
  | .object entries, name :: path => entries.all fun entry => entry.1 ≠ name || entry.2.lacks path
  | _, _ :: _ => false

/-- A document that says nothing about a place is an object, and where it has the first key it says
nothing about the rest of the place. -/
theorem lacks_cons {value : Json} {name : String} {path : List String} :
    value.lacks (name :: path) = true ↔
      ∃ entries, value = .object entries ∧
        ∀ child, (name, child) ∈ entries → child.lacks path = true := by
  cases value with
  | object entries =>
      simp only [lacks, List.all_eq_true, Bool.or_eq_true, decide_eq_true_eq, object.injEq,
        exists_eq_left']
      constructor
      · intro h child hchild
        exact (h _ hchild).resolve_left (absurd rfl)
      · rintro h ⟨other, child⟩ hentry
        by_cases hname : other = name
        · subst hname
          exact .inr (h child hentry)
        · exact .inl hname
  | _ => simp [lacks]

end Json

/-- The text at a place of a draft. -/
def Draft.textAt? (draft : Draft) (path : List String) : Option String :=
  match draft.find? path with
  | some (.text s) => some s
  | _ => none

theorem Draft.textAt?_eq_some {draft : Draft} {path : List String} {s : String} :
    draft.textAt? path = some s ↔ draft.find? path = some (.text s) := by
  unfold textAt?
  split
  · rename_i found hfound
    simp [hfound]
  · rename_i hother
    simpa using hother s

/-! ## Fields -/

namespace Form

/-- A place below a name goes through a field of a group. -/
theorem descend_cons {field target : Field} {name : String} {path : List String} :
    descend field (name :: path) = some target ↔
      ∃ spec fields child, field = .object spec fields ∧ Entries.get? fields name = some child ∧
        descend child path = some target := by
  cases field with
  | object spec fields =>
      simp only [descend, Field.fields?, Option.bind_some, Field.object.injEq]
      cases hchild : Entries.get? fields name with
      | none => simp [hchild]
      | some child => simp [hchild]
  | _ => simp [descend, Field.fields?]

/-- A place below a place. -/
theorem descend_append {field target : Field} {path rest : List String} :
    descend field (path ++ rest) = some target ↔
      ∃ middle, descend field path = some middle ∧ descend middle rest = some target := by
  induction path generalizing field with
  | nil => simp [descend]
  | cons name path ih =>
      simp only [List.cons_append, descend_cons, ih]
      constructor
      · rintro ⟨spec, fields, child, rfl, hchild, middle, hmiddle, htarget⟩
        exact ⟨middle, ⟨spec, fields, child, rfl, hchild, hmiddle⟩, htarget⟩
      · rintro ⟨middle, ⟨spec, fields, child, rfl, hchild, hmiddle⟩, htarget⟩
        exact ⟨spec, fields, child, rfl, hchild, middle, hmiddle, htarget⟩

end Form

/-- Whether the default of a group says nothing about a place below it. -/
def Spec.spares (spec : Spec) (path : List String) : Bool :=
  match spec.attributes.default with
  | some (.object natives) => (Json.object natives).lacks path
  | _ => true

namespace Field

/-- Whether the defaults of the groups on the way down a path say nothing about the given rest of
the place below its end.  The default of a group at the end of the path does not count. -/
def spares : Field → List String → List String → Bool
  | .object spec fields, name :: path, rest =>
      spec.spares (name :: path ++ rest) &&
        (Entries.get? fields name).all fun child => child.spares path rest
  | _, _, _ => true

/-! ## Opened groups -/

section

variable {spec : Spec} {fields : List (String × Field)} {name : String} {child : Field}

/-- A named field of a group opens into the draft of its name. -/
theorem get?_openedFields {drafts : List (String × Draft)} (h : openedFields fields = .ok drafts)
    (hchild : Entries.get? fields name = some child) :
    ∃ node, Entries.get? drafts name = some node ∧ child.opened = .ok node :=
  get?_of_forall₂ (r := fun field node => field.opened = .ok node)
    (openedFields_eq_ok.mp h) hchild

/-- The draft of a named field in an opened group is the one with which it opens, or one that the
default of the group has for it. -/
theorem cases_get?_opened {group : Entries Draft}
    (h : opened (.object spec fields) = .ok (.group group))
    (hchild : Entries.get? fields name = some child) :
    ∃ node, group.get? name = some node ∧
      (child.opened = .ok node ∨
        ∃ natives native, spec.attributes.default = some (.object natives) ∧
          (name, native) ∈ natives ∧ child.load native = .ok node) := by
  obtain ⟨drafts, _, hdrafts, hmerged, hsame⟩ := opened_object_eq_ok.mp h
  cases hsame
  obtain ⟨node, hnode, hopened⟩ := get?_openedFields hdrafts hchild
  unfold mergeDefault at hmerged
  split at hmerged
  · rename_i natives hdefault
    have hloader := get?_loaders_of_get? hchild
    rcases cases_get?_mergeInto hmerged hloader with hsame | ⟨native, draft, hnative, hdraft, hget⟩
    · exact ⟨node, hsame.trans hnode, .inl hopened⟩
    · exact ⟨draft, hget, .inr ⟨natives, native, hdefault, hnative, hdraft⟩⟩
  · cases hmerged
    exact ⟨node, hnode, .inl hopened⟩

/-- The fields of a form that opens open. -/
theorem exists_opened_of_descend {field target : Field} {path : List String}
    (h : ∃ start, field.opened = .ok start) (hfield : Form.descend field path = some target) :
    ∃ base, target.opened = .ok base := by
  induction path generalizing field with
  | nil =>
      cases hfield
      exact h
  | cons name path ih =>
      obtain ⟨spec, fields, child, rfl, hchild, htarget⟩ := Form.descend_cons.mp hfield
      exact ih (exists_opened_of_mem h (Entries.mem_of_get? hchild)) htarget

end

/-! ## Places that defaults spare -/

/-- In a group, a place begins with the draft of its first name. -/
theorem find?_group {group : Entries Draft} {name : String} {node : Draft} {path : List String}
    (h : group.get? name = some node) :
    (Draft.group group).find? (name :: path) = node.find? path := by
  simp [Draft.find?, Draft.child?, h]

/-- A place about which neither the data nor the defaults around it say anything is as the field
there opens.  The last condition says so for data of that field itself. -/
theorem find?_of_spares {target : Field} {base : Draft} {rest : List String}
    (hbase : target.opened = .ok base)
    (hrest : ∀ native draft, native.lacks rest = true → target.load native = .ok draft →
      draft.find? rest = base.find? rest)
    {path : List String} {field : Field} (hfield : Form.descend field path = some target)
    (hspares : field.spares path rest = true) :
    (∀ start, field.opened = .ok start → start.find? (path ++ rest) = base.find? rest) ∧
      ∀ native draft, native.lacks (path ++ rest) = true → field.load native = .ok draft →
        draft.find? (path ++ rest) = base.find? rest := by
  induction path generalizing field with
  | nil =>
      cases hfield
      refine ⟨fun start hstart => ?_, hrest⟩
      rw [hbase, Except.ok.injEq] at hstart
      rw [hstart, List.nil_append]
  | cons name path ih =>
      obtain ⟨spec, fields, child, rfl, hchild, htarget⟩ := Form.descend_cons.mp hfield
      simp only [spares, hchild, Option.all_some, Bool.and_eq_true] at hspares
      obtain ⟨hdefault, hbelow⟩ := hspares
      obtain ⟨hopened, hloaded⟩ := ih htarget hbelow
      -- The default of the group is data for its fields that says nothing about the place.
      have hgroup : ∀ group, opened (.object spec fields) = .ok (.group group) →
          (Draft.group group).find? (name :: path ++ rest) = base.find? rest := by
        intro group hgroup
        obtain ⟨node, hnode, hfrom⟩ := cases_get?_opened hgroup hchild
        rw [List.cons_append, find?_group hnode]
        rcases hfrom with hstart | ⟨natives, native, hnatives, hnative, hload⟩
        · exact hopened node hstart
        · rw [Spec.spares, hnatives, List.cons_append, Json.lacks_cons] at hdefault
          obtain ⟨_, ⟨⟩, hlacks⟩ := hdefault
          exact hloaded native node (hlacks native hnative) hload
      constructor
      · intro start hstart
        obtain ⟨_, group, -, -, rfl⟩ := opened_object_eq_ok.mp hstart
        exact hgroup group hstart
      · intro native draft hlacks hload
        obtain ⟨natives, rfl, hentries⟩ := Json.lacks_cons.mp hlacks
        obtain ⟨group, merged, hstart, hmerged, rfl⟩ := load_object_eq_ok.mp hload
        have hloader := get?_loaders_of_get? hchild
        rcases cases_get?_mergeInto hmerged hloader with hsame | ⟨value, node, hvalue, hnode, hget⟩
        · rw [← hgroup group hstart]
          simp [Draft.find?, Draft.child?, hsame]
        · rw [List.cons_append, find?_group hget]
          exact hloaded value node (hentries value hvalue) hnode

/-- A place that the defaults around it spare is as the field there opens. -/
theorem find?_opened {field target : Field} {start base : Draft} {path : List String}
    (hstart : field.opened = .ok start) (hfield : Form.descend field path = some target)
    (hbase : target.opened = .ok base) (hspares : field.spares path [] = true) :
    start.find? path = some base := by
  have hrest : ∀ native draft, native.lacks [] = true → target.load native = .ok draft →
      draft.find? [] = base.find? [] := by
    intro native draft hlacks
    cases native <;> cases hlacks
  have h := (find?_of_spares hbase hrest hfield hspares).1 start hstart
  rwa [List.append_nil] at h

end Field
end SchemaForm
