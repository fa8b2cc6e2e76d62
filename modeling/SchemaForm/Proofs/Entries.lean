import SchemaForm.Entries

/-!
# Names and values of entries

With distinct names, an entry is found under its name, and entries are
determined by the order of their names and the value under each of them.

Main results:

- Theorem `mem_of_get?`, Theorem `get?_of_mem`: what is found under a name is an entry, and with
  distinct names every entry is found.
- Theorem `has_iff`, Theorem `get?_eq_none_iff`: a name occurs when it is one of the names, and
  nothing is found under any other.
- Theorem `mem_put`, Theorem `nodup_names_put`: the entries after a write.
- Theorem `put_put`, Theorem `put_of_get?`: the last write under a name counts, and a write of what
  is there changes nothing.
- Theorem `put_of_notMem`, Theorem `ofList_eq_self`: new names are added at the end, so that entries
  with distinct names are collected as they are.
- Theorem `put_comm`: writes under two names can change places when one of the names is known.
- Theorem `get?_erase_self`, Theorem `get?_erase_of_ne`: a removal takes away its name and leaves
  every other one alone.
- Theorem `erase_cons_self`, Theorem `erase_cons_of_ne`: what a removal does to the first entry.
- Theorem `ext_get?`: entries with the same distinct names and the same values are equal.
-/

namespace SchemaForm

namespace Entries

variable {α : Type}

/-- A value that is found is one of the entries. -/
theorem mem_of_get? {entries : Entries α} {name : String} {value : α}
    (h : entries.get? name = some value) : (name, value) ∈ entries := by
  induction entries with
  | nil => cases h
  | cons entry rest ih =>
      rw [get?_cons] at h
      split at h
      · rename_i hname
        cases h
        simp [hname]
      · exact List.mem_cons_of_mem _ (ih h)

/-- With distinct names every entry is found. -/
theorem get?_of_mem {entries : Entries α} (hnames : entries.names.Nodup) {name : String} {value : α}
    (h : (name, value) ∈ entries) : entries.get? name = some value := by
  induction entries with
  | nil => cases h
  | cons entry rest ih =>
      obtain ⟨hfirst, hrest⟩ := List.nodup_cons.mp hnames
      rw [get?_cons]
      rcases List.mem_cons.mp h with rfl | h
      · simp
      · have hname : name ≠ entry.1 := by
          rintro rfl
          exact hfirst (List.mem_map.mpr ⟨_, h, rfl⟩)
        rw [if_neg hname]
        exact ih hrest h

/-- A name occurs when it is one of the names. -/
theorem has_iff {entries : Entries α} {name : String} :
    entries.has name = true ↔ name ∈ entries.names := by
  induction entries with
  | nil => simp [has, names]
  | cons entry rest ih =>
      simp only [has, names] at ih
      simp only [has, names, get?_cons, List.map_cons, List.mem_cons]
      split
      · simp [*]
      · simp [*]

/-- Under a name that occurs there is a value. -/
theorem exists_get? {entries : Entries α} {name : String} (h : name ∈ entries.names) :
    ∃ value, entries.get? name = some value :=
  Option.isSome_iff_exists.mp (has_iff.mpr h)

/-- Nothing is found under a name exactly when it is none of the names. -/
theorem get?_eq_none_iff {entries : Entries α} {name : String} :
    entries.get? name = none ↔ name ∉ entries.names := by
  rw [← has_iff, has, Option.not_isSome_iff_eq_none]

/-- Entries with the same distinct names and the same values are equal. -/
theorem ext_get? {first second : Entries α} (hnames : first.names = second.names)
    (hnodup : first.names.Nodup)
    (h : ∀ name ∈ first.names, first.get? name = second.get? name) : first = second := by
  induction first generalizing second with
  | nil =>
      cases second with
      | nil => rfl
      | cons entry rest => cases hnames
  | cons entry rest ih =>
      cases second with
      | nil => cases hnames
      | cons other others =>
          obtain ⟨hname, hrest⟩ := List.cons.inj hnames
          obtain ⟨hfirst, hdistinct⟩ := List.nodup_cons.mp hnodup
          have hvalue := h entry.1 List.mem_cons_self
          rw [get?_cons, get?_cons, if_pos rfl, if_pos hname, Option.some.injEq] at hvalue
          have hothers : ∀ name ∈ Entries.names rest,
              Entries.get? rest name = Entries.get? others name := by
            intro name hmem
            have hne : name ≠ entry.1 := by
              rintro rfl
              exact hfirst hmem
            have hget := h name (List.mem_cons_of_mem _ hmem)
            rwa [get?_cons, get?_cons, if_neg hne, if_neg (hname ▸ hne)] at hget
          rw [Prod.ext hname hvalue, ih hrest hdistinct hothers]

/-- The entries after a write are the written one and others from before. -/
theorem mem_put {entries : Entries α} {name : String} {value : α} {entry : String × α}
    (h : entry ∈ entries.put name value) : entry = (name, value) ∨ entry ∈ entries := by
  induction entries with
  | nil =>
      simp only [put, List.mem_singleton] at h
      exact .inl h
  | cons first rest ih =>
      obtain ⟨known, old⟩ := first
      simp only [put] at h
      split at h
      · rename_i hknown
        rcases List.mem_cons.mp h with rfl | h
        · exact .inl (by rw [hknown])
        · exact .inr (List.mem_cons_of_mem _ h)
      · rcases List.mem_cons.mp h with rfl | h
        · exact .inr List.mem_cons_self
        · exact (ih h).imp_right (List.mem_cons_of_mem _)

/-- A write keeps names distinct. -/
theorem nodup_names_put {entries : Entries α} (h : entries.names.Nodup) (name : String)
    (value : α) : (entries.put name value).names.Nodup := by
  rw [names_put]
  split
  · exact h
  · rename_i hname
    rw [List.nodup_append]
    refine ⟨h, by simp, ?_⟩
    intro a ha b hb
    rw [List.mem_singleton.mp hb]
    rintro rfl
    exact hname ha

/-- The last value that is written under a name counts. -/
theorem put_put (entries : Entries α) (name : String) (value other : α) :
    (entries.put name other).put name value = entries.put name value := by
  induction entries with
  | nil => simp [put]
  | cons entry rest ih =>
      by_cases hname : entry.1 = name
      · simp [put, hname]
      · simp [put, hname, ih]

/-- Writing the value that is there changes nothing. -/
theorem put_of_get? {entries : Entries α} {name : String} {value : α}
    (h : entries.get? name = some value) : entries.put name value = entries := by
  induction entries with
  | nil => cases h
  | cons entry rest ih =>
      rw [get?_cons] at h
      by_cases hname : name = entry.1
      · rw [if_pos hname] at h
        cases h
        simp [put, hname]
      · rw [if_neg hname] at h
        simp [put, Ne.symm hname, ih h]

/-- Writing under a known name does not change the names. -/
theorem names_put_of_get? {entries : Entries α} {name : String} {old : α}
    (h : entries.get? name = some old) (value : α) :
    (entries.put name value).names = entries.names := by
  have hmem : name ∈ entries.names := has_iff.mp (by simp [has, h])
  rw [names_put, if_pos hmem]

/-- Writing keeps the names that there are. -/
theorem names_subset_put (entries : Entries α) (name : String) (value : α) :
    entries.names ⊆ (entries.put name value).names := by
  rw [names_put]
  split
  · exact fun _ hmem => hmem
  · exact List.subset_append_left _ _

/-- Writing under one name leaves alone whether another one occurs. -/
theorem has_put_of_ne (entries : Entries α) {name other : String} (value : α)
    (h : other ≠ name) : (entries.put name value).has other = entries.has other := by
  rw [has, has, get?_put_of_ne entries value h]

/-- Writing under a known name can be done before or after writing under another one. -/
theorem put_comm {entries : Entries α} {name other : String} {old : α}
    (h : entries.get? name = some old) (hne : name ≠ other) (value written : α) :
    (entries.put name value).put other written = (entries.put other written).put name value := by
  induction entries with
  | nil => cases h
  | cons entry rest ih =>
      obtain ⟨known, first⟩ := entry
      rw [get?_cons] at h
      by_cases hname : known = name
      · subst hname
        simp [put, hne]
      · rw [if_neg (Ne.symm hname)] at h
        by_cases hother : known = other
        · subst hother
          simp [put, hname]
        · simp [put, hname, hother, ih h]

/-- Writing under a new name adds an entry at the end. -/
theorem put_of_notMem {entries : Entries α} {name : String} (h : name ∉ entries.names)
    (value : α) : entries.put name value = entries ++ [(name, value)] := by
  induction entries with
  | nil => rfl
  | cons entry rest ih =>
      obtain ⟨known, old⟩ := entry
      obtain ⟨hknown, hrest⟩ := List.ne_and_not_mem_of_not_mem_cons h
      rw [put, if_neg (Ne.symm hknown), ih hrest, List.cons_append]

/-- Entries with distinct names are collected as they are. -/
theorem ofList_eq_self {entries : Entries α} (h : entries.names.Nodup) :
    ofList entries = entries := by
  -- Collected so far are the entries at the start of the list.
  have hfold : ∀ rest found : Entries α, names (found ++ rest) = entries.names →
      rest.foldl (fun found entry => put found entry.1 entry.2) found = found ++ rest := by
    intro rest
    induction rest with
    | nil => simp
    | cons entry rest ih =>
        intro found hnames
        have hsame : names ((found ++ [entry]) ++ rest) = entries.names := by
          rw [List.append_assoc, List.singleton_append, hnames]
        have hnew : entry.1 ∉ names found := by
          intro hmem
          rw [← hnames, names, List.map_append, List.nodup_append] at h
          exact h.2.2 _ hmem _ List.mem_cons_self rfl
        rw [List.foldl_cons, put_of_notMem hnew, ih _ hsame, List.append_assoc,
          List.singleton_append]
  exact hfold entries [] rfl

/-- Nothing is found under a name that was removed. -/
theorem get?_erase_self (entries : Entries α) (name : String) :
    (entries.erase name).get? name = none := by
  rw [get?_eq_none_iff]
  intro h
  obtain ⟨entry, hentry, hname⟩ := List.mem_map.mp h
  simp only [erase, List.mem_filter, decide_eq_true_eq] at hentry
  exact hentry.2 hname

/-- Removing one name leaves every other name alone. -/
theorem get?_erase_of_ne (entries : Entries α) {name other : String} (h : other ≠ name) :
    (entries.erase name).get? other = entries.get? other := by
  induction entries with
  | nil => rfl
  | cons entry rest ih =>
      simp only [erase, List.filter_cons, decide_eq_true_eq] at ih ⊢
      by_cases hentry : entry.1 = name
      · have hother : other ≠ entry.1 := hentry ▸ h
        rw [if_neg (not_not_intro hentry), get?_cons, if_neg hother, ih]
      · rw [if_pos hentry, get?_cons, get?_cons, ih]

/-- Removing the first name leaves the other entries. -/
theorem erase_cons_self {entries : Entries α} {name : String} {value : α}
    (h : name ∉ entries.names) : erase ((name, value) :: entries) name = entries := by
  unfold erase
  rw [List.filter_cons_of_neg (by simp), List.filter_eq_self]
  intro entry hentry
  rw [decide_eq_true_eq]
  rintro rfl
  exact h (List.mem_map_of_mem hentry)

/-- Removing another name than the first leaves the first entry. -/
theorem erase_cons_of_ne (entries : Entries α) {name other : String} (value : α)
    (h : other ≠ name) :
    erase ((other, value) :: entries) name = (other, value) :: erase entries name :=
  List.filter_cons_of_pos (decide_eq_true h)

/-- The names after a removal stand in the order from before. -/
theorem names_erase_sublist (entries : Entries α) (name : String) :
    (entries.erase name).names.Sublist entries.names :=
  List.filter_sublist.map Prod.fst

end Entries

end SchemaForm
