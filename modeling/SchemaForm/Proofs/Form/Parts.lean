import Mathlib.Data.List.Forall2
import SchemaForm.Form.Checking
import SchemaForm.Form.Reading
import SchemaForm.Proofs.Result

/-!
# Lists and groups, part by part

Loading, reading and checking a list or a group does so with each of its
parts.  The recursions over items and named fields are stated here as relations
between the part before and the part after.

Main results:

- Theorem `eachItem_eq_ok`: a list is worked through when each of its items is.
- Theorem `exists_of_eachItem_eq_error`, Theorem `exists_of_readFields_eq_error`: what fails for a
  list or a group fails for one of its parts.
- Theorem `get?_of_forall₂`: entries that are related name by name are related under each name.
- Theorem `openedFields_eq_ok`: a group opens when each of its fields does.
- Theorem `read_list_eq_ok`, Theorem `read_group_eq_ok`: a list and a group are read when each of
  their parts is.
- Theorem `clearedFields_eq_map`, Theorem `get?_loaders`: cleared drafts and loaders by name.
- Theorem `forall_findingsOfItems`, Theorem `forall_findingsOfFields`: a list or a group without
  findings has none in its parts.
-/

namespace SchemaForm

/-- An error of shape that is seen from a parent is one at a place below the parent. -/
theorem DataError.within_eq_misshapen {error : DataError} {parent path expected actual : String} :
    error.within parent = .misshapen path expected actual ↔
      ∃ inner, error = .misshapen inner expected actual ∧ Location.above parent inner = path := by
  cases error with
  | misshapen inner => simp [within, and_comm, and_assoc]
  | _ => simp [within]

namespace Field

open Result

/-! ## Items of lists -/

/-- A list is worked through exactly when each of its items is. -/
theorem eachItem_eq_ok {α β : Type} {f : α → Except DataError β} {index : Nat} {items : List α}
    {values : List β} :
    eachItem f index items = .ok values ↔
      List.Forall₂ (fun item value => f item = .ok value) items values := by
  induction items generalizing index values with
  | nil =>
      simp only [eachItem, Except.ok.injEq, List.forall₂_nil_left_iff]
      exact eq_comm
  | cons item rest ih =>
      simp only [eachItem, bind_eq_ok, mapError_eq_ok, pure_eq_ok, ih,
        List.forall₂_cons_left_iff]
      constructor
      · rintro ⟨value, hvalue, others, hothers, rfl⟩
        exact ⟨value, others, hvalue, hothers, rfl⟩
      · rintro ⟨value, others, hvalue, hothers, rfl⟩
        exact ⟨value, hvalue, others, hothers, rfl⟩

/-- What fails for a list fails for one of its items, and its error is seen from the list. -/
theorem exists_of_eachItem_eq_error {α β : Type} {f : α → Except DataError β} {index : Nat}
    {items : List α} {error : DataError} (h : eachItem f index items = .error error) :
    ∃ i item inner, items[i]? = some item ∧ f item = .error inner ∧
      inner.within (Location.position (index + i)) = error := by
  induction items generalizing index with
  | nil => cases h
  | cons item rest ih =>
      simp only [eachItem, bind_eq_error, mapError_eq_error] at h
      rcases h with ⟨inner, hinner, hwithin⟩ | ⟨value, -, h | ⟨others, -, h⟩⟩
      · exact ⟨0, item, inner, rfl, hinner, hwithin⟩
      · obtain ⟨i, other, inner, hother, hinner, hwithin⟩ := ih h
        rw [Nat.add_right_comm, Nat.add_assoc] at hwithin
        exact ⟨i + 1, other, inner, hother, hinner, hwithin⟩
      · cases h

/-- A list in which each item has a related value has related values. -/
theorem exists_forall₂ {α β : Type} {related : α → β → Prop} {items : List α}
    (h : ∀ item ∈ items, ∃ value, related item value) :
    ∃ values, List.Forall₂ related items values := by
  induction items with
  | nil => exact ⟨[], .nil⟩
  | cons item rest ih =>
      obtain ⟨value, hvalue⟩ := h item List.mem_cons_self
      obtain ⟨values, hvalues⟩ := ih fun other hother => h other (List.mem_cons_of_mem _ hother)
      exact ⟨value :: values, .cons hvalue hvalues⟩

/-- Each item of a list is related to a value of the related list. -/
theorem exists_of_forall₂ {α β : Type} {related : α → β → Prop} {items : List α} {values : List β}
    (h : List.Forall₂ related items values) {item : α} (hitem : item ∈ items) :
    ∃ value ∈ values, related item value := by
  induction h with
  | nil => cases hitem
  | cons hfirst _ ih =>
      rcases List.mem_cons.mp hitem with rfl | hitem
      · exact ⟨_, List.mem_cons_self, hfirst⟩
      · obtain ⟨value, hvalue, hrelated⟩ := ih hitem
        exact ⟨value, List.mem_cons_of_mem _ hvalue, hrelated⟩

/-- Entries that are related name by name have the same names. -/
theorem names_of_forall₂ {α β : Type} {related : String × α → String × β → Prop}
    {first : Entries α} {second : Entries β}
    (h : List.Forall₂ (fun one other => other.1 = one.1 ∧ related one other) first second) :
    second.names = first.names := by
  induction h with
  | nil => rfl
  | cons hfirst _ ih =>
      simp only [Entries.names] at ih
      simp only [Entries.names, List.map_cons, hfirst.1, ih]

/-- Entries with the same distinct names that are related under each name are related name by
name. -/
theorem forall₂_of_names {α β : Type} {related : String × α → β → Prop} {first : Entries α}
    {second : Entries β} (hnames : second.names = first.names) (hdistinct : first.names.Nodup)
    (h : ∀ one ∈ first, ∃ value, second.get? one.1 = some value ∧ related one value) :
    List.Forall₂ (fun one other => other.1 = one.1 ∧ related one other.2) first second := by
  induction first generalizing second with
  | nil =>
      cases second with
      | nil => exact .nil
      | cons other others => cases hnames
  | cons one rest ih =>
      cases second with
      | nil => cases hnames
      | cons other others =>
          obtain ⟨hname, hothers⟩ := List.cons.inj hnames
          obtain ⟨hfirst, hrest⟩ := List.nodup_cons.mp hdistinct
          refine .cons ⟨hname, ?_⟩ (ih hothers hrest ?_)
          · obtain ⟨value, hvalue, hrelated⟩ := h one List.mem_cons_self
            rw [Entries.get?_cons, if_pos hname.symm, Option.some.injEq] at hvalue
            rw [hvalue]
            exact hrelated
          · intro entry hentry
            obtain ⟨value, hvalue, hrelated⟩ := h entry (List.mem_cons_of_mem _ hentry)
            have hne : entry.1 ≠ other.1 := by
              intro hsame
              rw [← hname, ← hsame] at hfirst
              exact hfirst (List.mem_map.mpr ⟨entry, hentry, rfl⟩)
            rw [Entries.get?_cons, if_neg hne] at hvalue
            exact ⟨value, hvalue, hrelated⟩

/-- Of entries that are related name by name, those that are found under the same name are
related. -/
theorem get?_of_forall₂ {α β : Type} {r : α → β → Prop} {first : Entries α} {second : Entries β}
    (h : List.Forall₂ (fun one other => other.1 = one.1 ∧ r one.2 other.2) first second)
    {name : String} {a : α} (hname : first.get? name = some a) :
    ∃ b, second.get? name = some b ∧ r a b := by
  induction h with
  | nil => cases hname
  | @cons one other _ _ hfirst _ ih =>
      rw [Entries.get?_cons] at hname ⊢
      rw [hfirst.1]
      split at hname
      · cases hname
        exact ⟨other.2, if_pos ‹_›, hfirst.2⟩
      · rw [if_neg ‹_›]
        exact ih hname

/-- A list without findings has none in its items. -/
theorem forall_findingsOfItems {α : Type} {find : String → α → List Finding} {path : String}
    {index : Nat} {items : List α} (h : findingsOfItems find path index items = []) :
    ∀ item ∈ items, ∃ place, find place item = [] := by
  induction items generalizing index with
  | nil => simp
  | cons first rest ih =>
      simp only [findingsOfItems, List.append_eq_nil_iff] at h
      intro item hitem
      rcases List.mem_cons.mp hitem with rfl | hitem
      · exact ⟨_, h.1⟩
      · exact ih h.2 item hitem

/-! ## Fields of groups -/

/-- Cleared fields are cleared one by one. -/
theorem clearedFields_eq_map (fields : List (String × Field)) :
    clearedFields fields = fields.map fun field => (field.1, field.2.cleared) := by
  induction fields with
  | nil => rfl
  | cons field rest ih => simp [clearedFields, ih]

/-- The loader of a name is that of the field with this name. -/
theorem get?_loaders (fields : List (String × Field)) (name : String) :
    Entries.get? (loaders fields) name = (Entries.get? fields name).map load := by
  induction fields with
  | nil => rfl
  | cons field rest ih =>
      simp only [loaders, Entries.get?_cons, ih]
      split <;> rfl

/-- A field that is found under a name loads the data of this name. -/
theorem get?_loaders_of_get? {fields : List (String × Field)} {name : String} {field : Field}
    (h : Entries.get? fields name = some field) :
    Entries.get? (loaders fields) name = some field.load := by
  rw [get?_loaders, h, Option.map_some]

/-- A group opens exactly when each of its fields does. -/
theorem openedFields_eq_ok {fields : List (String × Field)} {drafts : List (String × Draft)} :
    openedFields fields = .ok drafts ↔
      List.Forall₂ (fun field draft => draft.1 = field.1 ∧ field.2.opened = .ok draft.2) fields
        drafts := by
  induction fields generalizing drafts with
  | nil =>
      simp only [openedFields, Except.ok.injEq, List.forall₂_nil_left_iff]
      exact eq_comm
  | cons field rest ih =>
      obtain ⟨name, field⟩ := field
      simp only [openedFields, bind_eq_ok, mapError_eq_ok, pure_eq_ok, ih,
        List.forall₂_cons_left_iff]
      constructor
      · rintro ⟨draft, hdraft, others, hothers, rfl⟩
        exact ⟨(name, draft), others, ⟨rfl, hdraft⟩, hothers, rfl⟩
      · rintro ⟨⟨_, draft⟩, others, ⟨rfl, hdraft⟩, hothers, rfl⟩
        exact ⟨draft, hdraft, others, hothers, rfl⟩

/-- The data of a field whose node may be missing. -/
def readNode (field : Field) : Option Draft → Except DataError Json
  | some draft => field.read draft
  | none => .ok .null

/-- A group is read by its first field and the others. -/
theorem readFields_cons (name : String) (field : Field) (rest : List (String × Field))
    (entries : Entries Draft) :
    readFields ((name, field) :: rest) entries =
      (do
        let value ← (field.readNode (entries.get? name)).mapError (DataError.within name)
        let others ← readFields rest entries
        return (name, value) :: others) := by
  cases hdraft : entries.get? name with
  | none =>
      simp only [readFields, hdraft]
      rfl
  | some draft => simp [readFields, readNode, hdraft]

/-- A group is read exactly when each of its nodes is. -/
theorem readFields_eq_ok {fields : List (String × Field)} {entries : Entries Draft}
    {values : List (String × Json)} :
    readFields fields entries = .ok values ↔
      List.Forall₂
        (fun field value =>
          value.1 = field.1 ∧ field.2.readNode (entries.get? field.1) = .ok value.2)
        fields values := by
  induction fields generalizing values with
  | nil =>
      simp only [readFields, Except.ok.injEq, List.forall₂_nil_left_iff]
      exact eq_comm
  | cons field rest ih =>
      obtain ⟨name, field⟩ := field
      simp only [readFields_cons, bind_eq_ok, mapError_eq_ok, pure_eq_ok, ih,
        List.forall₂_cons_left_iff]
      constructor
      · rintro ⟨value, hvalue, others, hothers, rfl⟩
        exact ⟨(name, value), others, ⟨rfl, hvalue⟩, hothers, rfl⟩
      · rintro ⟨⟨_, value⟩, others, ⟨rfl, hvalue⟩, hothers, rfl⟩
        exact ⟨value, hvalue, others, hothers, rfl⟩

/-- What fails for a group that is read fails for one of its nodes, and its error is seen from the
group. -/
theorem exists_of_readFields_eq_error {fields : List (String × Field)} {entries : Entries Draft}
    {error : DataError} (h : readFields fields entries = .error error) :
    ∃ field ∈ fields, ∃ inner, field.2.readNode (entries.get? field.1) = .error inner ∧
      inner.within field.1 = error := by
  induction fields with
  | nil => cases h
  | cons field rest ih =>
      obtain ⟨name, field⟩ := field
      simp only [readFields_cons, bind_eq_error, mapError_eq_error] at h
      rcases h with ⟨inner, hinner, hwithin⟩ | ⟨value, -, h | ⟨others, -, h⟩⟩
      · exact ⟨(name, field), List.mem_cons_self, inner, hinner, hwithin⟩
      · obtain ⟨other, hother, found⟩ := ih h
        exact ⟨other, List.mem_cons_of_mem _ hother, found⟩
      · cases h

/-- A list reads as the data of its items. -/
theorem read_list_eq_ok {spec : Spec} {item : Field} {items : List Draft} {value : Json} :
    read (.array spec item) (.list items) = .ok value ↔
      ∃ values, List.Forall₂ (fun draft value => item.read draft = .ok value) items values ∧
        .array values = value := by
  simp only [read, map_eq_ok, eachItem_eq_ok]

/-- A group reads as the data of its nodes. -/
theorem read_group_eq_ok {spec : Spec} {fields : List (String × Field)} {entries : Entries Draft}
    {value : Json} :
    read (.object spec fields) (.group entries) = .ok value ↔
      ∃ values,
        List.Forall₂
          (fun field value =>
            value.1 = field.1 ∧ field.2.readNode (entries.get? field.1) = .ok value.2)
          fields values ∧
        .object values = value := by
  simp only [read, map_eq_ok, readFields_eq_ok]

/-- A group without findings has none in its nodes. -/
theorem forall_findingsOfFields {around : Surroundings} {fields : List (String × Field)}
    {path : String} {entries : Entries Draft}
    (h : findingsOfFields around fields path entries = []) :
    ∀ field ∈ fields, ∃ place,
      field.2.findings around place ((entries.get? field.1).getD field.2.cleared) = [] := by
  induction fields with
  | nil => simp
  | cons first rest ih =>
      obtain ⟨name, first⟩ := first
      simp only [findingsOfFields, List.append_eq_nil_iff] at h
      intro field hfield
      rcases List.mem_cons.mp hfield with rfl | hfield
      · exact ⟨_, h.1⟩
      · exact ih h.2 field hfield

end Field
end SchemaForm
