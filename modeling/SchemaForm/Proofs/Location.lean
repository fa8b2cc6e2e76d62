import SchemaForm.Location
import SchemaForm.Text.Split

/-!
# Laws of locations

A location is put together from the root down when a draft is checked, and from the
place of an error up when data is loaded or a draft is read.  Seeing a location from
above is associative, so that both ways lead to the same text as long as no step is
empty.  Where the steps are names without points that do not look like positions, the
text can be taken apart again.

Main results:

- Theorem `above_above`: it does not matter in which order a location is put together.
- Theorem `above_below`: what lies below a step lies below its parent.
- Theorem `split_along`: a location of plain names has these names as its parts.
- Theorem `along_injective`: different lists of plain names lead to different locations.
-/

namespace SchemaForm
namespace Location

/-! ## Steps down and up -/

/-- A location with what stands between it and a parent. -/
def linked (location : String) : String :=
  if isPosition location then location else "." ++ location

theorem isEmpty_eq_false {s : String} (h : s ≠ "") : s.isEmpty = false := by
  rwa [← Bool.not_eq_true, String.isEmpty_iff]

/-- A position is a step that is not empty. -/
theorem position_ne_empty (index : Nat) : position index ≠ "" := by
  intro h
  have hchars := congrArg String.toList h
  simp [position] at hchars

/-- How a location is linked depends on its first part. -/
theorem linked_append {location : String} (h : location ≠ "") (rest : String) :
    linked (location ++ rest) = linked location ++ rest := by
  have hfirst : isPosition (location ++ rest) = isPosition location := by
    obtain ⟨c, cs, hcs⟩ := List.exists_cons_of_ne_nil (show location.toList ≠ [] by simpa using h)
    simp only [isPosition, String.toList_append, hcs, List.cons_append, List.head?_cons]
  unfold linked
  rw [hfirst]
  split
  · rfl
  · rw [String.append_assoc]

/-- The place itself, seen from a parent, is the parent. -/
@[simp]
theorem above_empty (parent : String) : above parent "" = parent := by
  unfold above
  split
  · exact (String.isEmpty_iff.mp ‹_›).symm
  · rfl

/-- Seen from a parent, a location is linked to it. -/
theorem above_eq_append {parent location : String} (hparent : parent ≠ "")
    (hlocation : location ≠ "") : above parent location = parent ++ linked location := by
  simp only [above, linked, isEmpty_eq_false hparent, isEmpty_eq_false hlocation,
    Bool.false_eq_true, if_false]
  split
  · rfl
  · rw [String.append_assoc]

/-- It does not matter in which order a location is put together. -/
theorem above_above (first second location : String) :
    above (above first second) location = above first (above second location) := by
  by_cases hfirst : first = ""
  · rw [hfirst, above_root, above_root]
  by_cases hsecond : second = ""
  · rw [hsecond, above_root, above_empty]
  by_cases hlocation : location = ""
  · rw [hlocation, above_empty, above_empty]
  have hupper : first ++ linked second ≠ "" := by simp [hfirst]
  have hlower : second ++ linked location ≠ "" := by simp [hsecond]
  rw [above_eq_append hfirst hsecond, above_eq_append hsecond hlocation,
    above_eq_append hupper hlocation, above_eq_append hfirst hlower, linked_append hsecond,
    String.append_assoc]

/-- A step down that is not empty is the step seen from the parent. -/
theorem below_eq_above {step : String} (h : step ≠ "") (parent : String) :
    below parent step = above parent step := by
  simp only [below, above, isEmpty_eq_false h, Bool.false_eq_true, if_false]

/-- What lies below a step lies below its parent. -/
theorem above_below {step : String} (h : step ≠ "") (parent location : String) :
    above (below parent step) location = above parent (above step location) := by
  rw [below_eq_above h, above_above]

/-! ## Lists of names -/

/-- The location at the end of a path of names from a location. -/
def along (start : String) (names : List String) : String :=
  names.foldl below start

/-- Names that are not empty, contain no point and do not look like positions. -/
def IsPlain (name : String) : Prop :=
  name ≠ "" ∧ '.' ∉ name.toList ∧ isPosition name = false

instance (name : String) : Decidable (IsPlain name) :=
  inferInstanceAs (Decidable (_ ∧ _ ∧ _))

/-- A location of plain names is these names with points between them. -/
theorem toList_along {start : String} (hstart : start ≠ "") {names : List String}
    (hnames : ∀ name ∈ names, IsPlain name) :
    (along start names).toList = ['.'].intercalate (start.toList :: names.map String.toList) := by
  induction names generalizing start with
  | nil => simp [along]
  | cons name rest ih =>
      obtain ⟨⟨hname, -, hplain⟩, hrest⟩ := List.forall_mem_cons.mp hnames
      have hbelow : below start name = start ++ ("." ++ name) := by
        rw [below_eq_above hname, above_eq_append hstart hname, linked, hplain, if_neg nofun]
      have hne : start ++ ("." ++ name) ≠ "" := by simp [hstart]
      rw [along, List.foldl_cons, hbelow, ← along, ih hne hrest]
      cases rest <;> simp [List.intercalate_cons_cons]

/-- A location of plain names has these names as its parts. -/
theorem split_along {names : List String} (hne : names ≠ [])
    (hnames : ∀ name ∈ names, IsPlain name) : Text.split '.' (along "" names) = names := by
  obtain ⟨name, rest, rfl⟩ := List.exists_cons_of_ne_nil hne
  obtain ⟨hname, hrest⟩ := List.forall_mem_cons.mp hnames
  have hchars : (along "" (name :: rest)).toList =
      ['.'].intercalate ((name :: rest).map String.toList) :=
    toList_along hname.1 hrest
  have hparts : ∀ part ∈ (name :: rest).map String.toList, '.' ∉ part := by
    simp only [List.mem_map, forall_exists_index, and_imp, forall_apply_eq_imp_iff₂]
    exact fun part hpart => (hnames part hpart).2.1
  rw [Text.split, Text.splitOn_eq, hchars, List.splitOn_intercalate _ hparts (by simp),
    List.map_map]
  simp [Function.comp_def]

/-- A location of plain names is not that of the root. -/
theorem along_ne_empty {names : List String} (hne : names ≠ [])
    (hnames : ∀ name ∈ names, IsPlain name) : along "" names ≠ "" := by
  intro h
  have hparts := split_along hne hnames
  rw [h] at hparts
  exact (hnames "" (hparts ▸ List.mem_singleton_self "")).1 rfl

/-- Different lists of plain names lead to different locations. -/
theorem along_injective {names others : List String} (hnames : ∀ name ∈ names, IsPlain name)
    (hothers : ∀ name ∈ others, IsPlain name) (h : along "" names = along "" others) :
    names = others := by
  cases names with
  | nil =>
      cases others with
      | nil => rfl
      | cons other rest =>
          exact absurd h.symm (along_ne_empty (List.cons_ne_nil other rest) hothers)
  | cons name rest =>
      have hne := List.cons_ne_nil name rest
      cases others with
      | nil => exact absurd h (along_ne_empty hne hnames)
      | cons other others =>
          rw [← split_along hne hnames, h, split_along (List.cons_ne_nil other others) hothers]

end Location
end SchemaForm
