import SchemaForm.Proofs.Entries
import SchemaForm.Proofs.Form.Parts

/-!
# Loading groups

A group is loaded into the draft with which it opens: each entry of the data
that is named like a field replaces the draft of that field, and nothing else
changes.

Main results:

- Theorem `exists_mergeInto`: data is merged when each of its known entries can be loaded.
- Theorem `get?_mergeInto`: the draft of a known entry is the one that it loads as.
- Theorem `cases_get?_mergeInto`: where each draft of merged data comes from.
- Theorem `exists_of_mergeInto_eq_error`: what fails for merged data fails for one of its entries.
- Theorem `opened_object_eq_ok`, Theorem `load_object_eq_ok`: opening and loading a group.
- Theorem `exists_load_object_iff`: a group that opens loads when each of its fields does.
- Theorem `names_opened`, Theorem `names_mergeInto_loaders`: a group has the names of its fields in
  order.
-/

namespace SchemaForm
namespace Field

open Result

/-! ## Merging -/

section Merging

variable {loaders : Entries (Json → Except DataError Draft)} {group merged : Entries Draft}
  {natives : List (String × Json)} {name : String}

/-- Data is merged when each of its known entries can be loaded. -/
theorem exists_mergeInto
    (h : ∀ entry ∈ natives, ∀ load, loaders.get? entry.1 = some load →
      ∃ draft, load entry.2 = .ok draft) (group : Entries Draft) :
    ∃ merged, mergeInto loaders group natives = .ok merged := by
  induction natives generalizing group with
  | nil => exact ⟨group, rfl⟩
  | cons entry rest ih =>
      obtain ⟨name, native⟩ := entry
      have hrest := ih fun other hother => h other (List.mem_cons_of_mem _ hother)
      simp only [mergeInto]
      split
      · rename_i load hload
        obtain ⟨draft, hdraft⟩ := h (name, native) List.mem_cons_self load hload
        obtain ⟨merged, hmerged⟩ := hrest (group.put name draft)
        exact ⟨merged, bind_eq_ok.mpr ⟨draft, mapError_eq_ok.mpr hdraft, hmerged⟩⟩
      · exact hrest group

/-- Merging splits at the first entry. -/
theorem mergeInto_cons {native : Json}
    (h : mergeInto loaders group ((name, native) :: natives) = .ok merged) :
    (loaders.get? name = none ∧ mergeInto loaders group natives = .ok merged) ∨
      ∃ load draft, loaders.get? name = some load ∧ load native = .ok draft ∧
        mergeInto loaders (group.put name draft) natives = .ok merged := by
  simp only [mergeInto] at h
  split at h
  · rename_i load hload
    obtain ⟨draft, hdraft, hrest⟩ := bind_eq_ok.mp h
    exact .inr ⟨load, draft, hload, mapError_eq_ok.mp hdraft, hrest⟩
  · rename_i hload
    exact .inl ⟨hload, h⟩

/-- What fails for data that is merged fails for one of its known entries, and its error is seen
from the group. -/
theorem exists_of_mergeInto_eq_error {error : DataError}
    (h : mergeInto loaders group natives = .error error) :
    ∃ entry ∈ natives, ∃ load inner, loaders.get? entry.1 = some load ∧
      load entry.2 = .error inner ∧ inner.within entry.1 = error := by
  induction natives generalizing group with
  | nil => cases h
  | cons entry rest ih =>
      obtain ⟨name, native⟩ := entry
      simp only [mergeInto] at h
      split at h
      · rename_i load hload
        simp only [bind_eq_error, mapError_eq_error] at h
        rcases h with ⟨inner, hinner, hwithin⟩ | ⟨draft, -, hrest⟩
        · exact ⟨(name, native), List.mem_cons_self, load, inner, hload, hinner, hwithin⟩
        · obtain ⟨other, hother, found⟩ := ih hrest
          exact ⟨other, List.mem_cons_of_mem _ hother, found⟩
      · obtain ⟨other, hother, found⟩ := ih h
        exact ⟨other, List.mem_cons_of_mem _ hother, found⟩

/-- A name that data does not have keeps its draft. -/
theorem get?_mergeInto_of_notMem (h : mergeInto loaders group natives = .ok merged)
    (hname : name ∉ Entries.names natives) : merged.get? name = group.get? name := by
  induction natives generalizing group with
  | nil =>
      cases h
      rfl
  | cons first rest ih =>
      obtain ⟨hfirst, hothers⟩ := List.ne_and_not_mem_of_not_mem_cons hname
      rcases mergeInto_cons h with ⟨-, hrest⟩ | ⟨_, draft, -, -, hrest⟩
      · exact ih hrest hothers
      · rw [ih hrest hothers]
        exact Entries.get?_put_of_ne group draft hfirst

/-- The draft of a known entry is the one that it loads as. -/
theorem get?_mergeInto (hnames : (Entries.names natives).Nodup)
    (h : mergeInto loaders group natives = .ok merged) {load : Json → Except DataError Draft}
    {native : Json} (hload : loaders.get? name = some load)
    (hnative : Entries.get? natives name = some native) :
    ∃ draft, load native = .ok draft ∧ merged.get? name = some draft := by
  induction natives generalizing group with
  | nil => cases hnative
  | cons first rest ih =>
      obtain ⟨hfirst, hdistinct⟩ := List.nodup_cons.mp hnames
      rw [Entries.get?_cons] at hnative
      rcases mergeInto_cons h with ⟨hunknown, hrest⟩ | ⟨other, draft, hother, hdraft, hrest⟩
      · split at hnative
        · rename_i hname
          rw [hname, hunknown] at hload
          cases hload
        · exact ih hdistinct hrest hnative
      · split at hnative
        · rename_i hname
          subst hname
          rw [hother] at hload
          cases hload
          cases hnative
          refine ⟨draft, hdraft, ?_⟩
          rw [get?_mergeInto_of_notMem hrest hfirst]
          exact Entries.get?_put_self group _ draft
        · exact ih hdistinct hrest hnative

/-- The draft under a name is the one from before, or one that an entry of this name loads as. -/
theorem cases_get?_mergeInto (h : mergeInto loaders group natives = .ok merged)
    {load : Json → Except DataError Draft} (hload : loaders.get? name = some load) :
    merged.get? name = group.get? name ∨
      ∃ native draft, (name, native) ∈ natives ∧ load native = .ok draft ∧
        merged.get? name = some draft := by
  induction natives generalizing group with
  | nil =>
      cases h
      exact .inl rfl
  | cons first rest ih =>
      obtain ⟨other, native⟩ := first
      rcases mergeInto_cons h with ⟨-, hrest⟩ | ⟨loadOther, draft, hother, hdraft, hrest⟩
      · refine (ih hrest).imp_right ?_
        rintro ⟨found, node, hfound, hnode⟩
        exact ⟨found, node, List.mem_cons_of_mem _ hfound, hnode⟩
      · rcases ih hrest with hsame | ⟨found, node, hfound, hnode⟩
        · by_cases hname : name = other
          · subst hname
            rw [hload, Option.some.injEq] at hother
            rw [Entries.get?_put_self] at hsame
            exact .inr ⟨native, draft, List.mem_cons_self, hother ▸ hdraft, hsame⟩
          · rw [Entries.get?_put_of_ne group draft hname] at hsame
            exact .inl hsame
        · exact .inr ⟨found, node, List.mem_cons_of_mem _ hfound, hnode⟩

end Merging

/-! ## Groups -/

section Groups

variable {spec : Spec} {fields : List (String × Field)} {draft : Draft}

theorem names_loaders (fields : List (String × Field)) :
    Entries.names (loaders fields) = Entries.names fields := by
  induction fields with
  | nil => rfl
  | cons field rest ih =>
      simp only [Entries.names] at ih
      simp [loaders, Entries.names, ih]

/-- Merging into a group with the names of its fields keeps them. -/
theorem names_mergeInto_loaders {group merged : Entries Draft} {natives : List (String × Json)}
    (hgroup : group.names = Entries.names fields)
    (h : mergeInto (loaders fields) group natives = .ok merged) :
    merged.names = Entries.names fields := by
  rw [← hgroup]
  refine names_mergeInto (fun name hname => ?_) h
  rw [hgroup, ← names_loaders]
  exact Entries.has_iff.mp hname

/-- A group opens when its fields do and its default can be merged. -/
theorem opened_object_eq_ok :
    opened (.object spec fields) = .ok draft ↔
      ∃ drafts base, openedFields fields = .ok drafts ∧
        mergeDefault (loaders fields) spec drafts = .ok base ∧ .group base = draft := by
  simp only [opened, bind_eq_ok, map_eq_ok]
  constructor
  · rintro ⟨drafts, hdrafts, base, hbase, rfl⟩
    exact ⟨drafts, base, hdrafts, hbase, rfl⟩
  · rintro ⟨drafts, base, hdrafts, hbase, rfl⟩
    exact ⟨drafts, hdrafts, base, hbase, rfl⟩

/-- A group is loaded into the draft with which it opens. -/
theorem load_object_eq_ok {natives : List (String × Json)} :
    load (.object spec fields) (.object natives) = .ok draft ↔
      ∃ base merged, opened (.object spec fields) = .ok (.group base) ∧
        mergeInto (loaders fields) base natives = .ok merged ∧ .group merged = draft := by
  simp only [load, opened, bind_eq_ok, map_eq_ok]
  constructor
  · rintro ⟨drafts, hdrafts, base, hbase, merged, hmerged, rfl⟩
    exact ⟨base, merged, ⟨drafts, hdrafts, base, hbase, rfl⟩, hmerged, rfl⟩
  · rintro ⟨base, merged, ⟨drafts, hdrafts, _, hbase, hsame⟩, hmerged, rfl⟩
    cases hsame
    exact ⟨drafts, hdrafts, base, hbase, merged, hmerged, rfl⟩

/-- A group that opens loads data by merging it into the draft with which it opens. -/
theorem load_object_of_opened {base : Entries Draft}
    (h : opened (.object spec fields) = .ok (.group base)) (natives : List (String × Json)) :
    load (.object spec fields) (.object natives) =
      (mergeInto (loaders fields) base natives).map .group := by
  obtain ⟨drafts, _, hdrafts, hbase, hsame⟩ := opened_object_eq_ok.mp h
  cases hsame
  simp only [load, hdrafts, hbase, ok_bind]

/-- An opened group has the names of its fields in order. -/
theorem names_opened {base : Entries Draft}
    (h : opened (.object spec fields) = .ok (.group base)) :
    base.names = Entries.names fields := by
  obtain ⟨drafts, _, hdrafts, hbase, hsame⟩ := opened_object_eq_ok.mp h
  cases hsame
  have hnames : Entries.names drafts = Entries.names fields :=
    names_of_forall₂ (openedFields_eq_ok.mp hdrafts)
  unfold mergeDefault at hbase
  split at hbase
  · exact names_mergeInto_loaders hnames hbase
  · cases hbase
    exact hnames

/-- The fields of a group that opens open. -/
theorem exists_opened_of_mem {field : String × Field}
    (h : ∃ draft, opened (.object spec fields) = .ok draft) (hfield : field ∈ fields) :
    ∃ draft, field.2.opened = .ok draft := by
  obtain ⟨draft, hdraft⟩ := h
  obtain ⟨drafts, _, hdrafts, -, -⟩ := opened_object_eq_ok.mp hdraft
  obtain ⟨draft, -, -, hopened⟩ := exists_of_forall₂ (openedFields_eq_ok.mp hdrafts) hfield
  exact ⟨draft.2, hopened⟩

/-- A group that opens loads when each of its fields does. -/
theorem exists_load_object_iff (hnames : (Entries.names fields).Nodup)
    (hopened : ∃ start, opened (.object spec fields) = .ok start) {natives : Entries Json}
    (hnatives : natives.names = Entries.names fields) :
    (∃ draft, load (.object spec fields) (.object natives) = .ok draft) ↔
      ∀ field ∈ fields, ∀ native, natives.get? field.1 = some native →
        ∃ draft, field.2.load native = .ok draft := by
  have hdistinct : natives.names.Nodup := hnatives ▸ hnames
  constructor
  · rintro ⟨draft, hdraft⟩ field hfield native hnative
    obtain ⟨_, merged, -, hmerged, -⟩ := load_object_eq_ok.mp hdraft
    have hloader := get?_loaders_of_get? (Entries.get?_of_mem hnames hfield)
    obtain ⟨node, hnode, -⟩ := get?_mergeInto hdistinct hmerged hloader hnative
    exact ⟨node, hnode⟩
  · intro h
    obtain ⟨start, hstart⟩ := hopened
    obtain ⟨-, base, -, -, rfl⟩ := opened_object_eq_ok.mp hstart
    have hloads : ∀ entry ∈ natives, ∀ loader,
        Entries.get? (loaders fields) entry.1 = some loader →
          ∃ draft, loader entry.2 = .ok draft := by
      intro entry hentry loader hloader
      rw [get?_loaders] at hloader
      obtain ⟨field, hfield, rfl⟩ := Option.map_eq_some_iff.mp hloader
      exact h _ (Entries.mem_of_get? hfield) _ (Entries.get?_of_mem hdistinct hentry)
    obtain ⟨merged, hmerged⟩ := exists_mergeInto hloads base
    exact ⟨.group merged, load_object_eq_ok.mpr ⟨base, merged, hstart, hmerged, rfl⟩⟩

end Groups

end Field
end SchemaForm
