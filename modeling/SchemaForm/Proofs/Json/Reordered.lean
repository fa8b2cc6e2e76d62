import Mathlib.Data.List.Forall2
import Mathlib.Data.List.Perm.Basic
import SchemaForm.Proofs.Json.Decidable

/-!
# The order of keys

Documents that differ only in the order of the keys in their objects.  The keys of
such objects are distinct, and what stands under a key differs, again, only in
the order of keys.

Main results:

- Theorem `optionRel_iff`: values that may be missing are related when both are missing or both are
  there.
- Theorem `Entries.Reordered.perm_names`: entries in another order have the same names.
- Theorem `Entries.Reordered.put`: entries stay in another order when related values are written.
- Theorem `isReordered_iff`: whether documents differ only in the order of keys is decided.
-/

namespace SchemaForm

/-! ## Related values, if there are any -/

section OptionRel

variable {α β : Type} {related others : α → β → Prop} {x : Option α} {y : Option β}

/-- Either both values are missing, or both are there and related. -/
theorem optionRel_iff :
    Option.Rel related x y ↔
      (x = none ∧ y = none) ∨ ∃ a b, x = some a ∧ y = some b ∧ related a b := by
  constructor
  · rintro (h | -)
    · exact .inr ⟨_, _, rfl, rfl, h⟩
    · exact .inl ⟨rfl, rfl⟩
  · rintro (⟨rfl, rfl⟩ | ⟨a, b, rfl, rfl, h⟩)
    · exact .none
    · exact .some h

/-- What is related stays related in a wider sense. -/
theorem optionRel_imp (h : Option.Rel related x y) (hwider : ∀ a b, related a b → others a b) :
    Option.Rel others x y := by
  cases h with
  | none => exact .none
  | some h => exact .some (hwider _ _ h)

end OptionRel

/-! ## Entries in another order -/

/-- Entries with distinct names whose values are related name by name, in any order. -/
structure Entries.Reordered {α β : Type} (related : α → β → Prop) (first : Entries α)
    (second : Entries β) : Prop where
  nodup_first : first.names.Nodup
  nodup_second : second.names.Nodup
  get? : ∀ name, Option.Rel related (first.get? name) (second.get? name)

namespace Entries.Reordered

variable {α β : Type} {related : α → β → Prop} {first : Entries α} {second : Entries β}
  {name : String}

/-- Under a name there is nothing in both, or else there are related values. -/
theorem cases_get? (h : Reordered related first second) (name : String) :
    (first.get? name = none ∧ second.get? name = none) ∨
      ∃ a b, first.get? name = some a ∧ second.get? name = some b ∧ related a b :=
  optionRel_iff.mp (h.get? name)

/-- The same names occur. -/
theorem has_eq (h : Reordered related first second) (name : String) :
    first.has name = second.has name := by
  rcases h.cases_get? name with ⟨hfirst, hsecond⟩ | ⟨a, b, hfirst, hsecond, -⟩
  · rw [Entries.has, Entries.has, hfirst, hsecond, Option.isSome_none, Option.isSome_none]
  · rw [Entries.has, Entries.has, hfirst, hsecond, Option.isSome_some, Option.isSome_some]

/-- The names are the same up to their order. -/
theorem perm_names (h : Reordered related first second) : first.names.Perm second.names := by
  rw [List.perm_ext_iff_of_nodup h.nodup_first h.nodup_second]
  intro name
  rw [← Entries.has_iff, ← Entries.has_iff, h.has_eq name]

/-- There are as many entries. -/
theorem length_eq (h : Reordered related first second) : first.length = second.length := by
  have hnames := h.perm_names.length_eq
  rwa [Entries.names, Entries.names, List.length_map, List.length_map] at hnames

/-- Each entry has a related value under its name in the other order. -/
theorem exists_get?_of_mem (h : Reordered related first second) {a : α}
    (hentry : (name, a) ∈ first) : ∃ b, second.get? name = some b ∧ related a b := by
  have hget := Entries.get?_of_mem h.nodup_first hentry
  rcases h.cases_get? name with ⟨hfirst, -⟩ | ⟨found, b, hfirst, hsecond, hrelated⟩
  · rw [hget] at hfirst
    cases hfirst
  · rw [hget, Option.some.injEq] at hfirst
    exact ⟨b, hsecond, hfirst ▸ hrelated⟩

/-- Entries in another order can change places. -/
theorem symm (h : Reordered related first second) :
    Reordered (fun b a => related a b) second first := by
  refine ⟨h.nodup_second, h.nodup_first, fun name => ?_⟩
  rcases h.cases_get? name with ⟨hfirst, hsecond⟩ | ⟨a, b, hfirst, hsecond, hrelated⟩
  · rw [hfirst, hsecond]
    exact .none
  · rw [hfirst, hsecond]
    exact .some hrelated

/-- What holds of each entry holds in each order, when it does of related values alike. -/
theorem forall_iff (h : Reordered related first second) {p : String → α → Prop}
    {q : String → β → Prop} (hvalues : ∀ name a b, related a b → (p name a ↔ q name b)) :
    (∀ entry ∈ first, p entry.1 entry.2) ↔ ∀ entry ∈ second, q entry.1 entry.2 := by
  constructor
  · rintro hall ⟨name, b⟩ hentry
    obtain ⟨a, ha, hrelated⟩ := h.symm.exists_get?_of_mem hentry
    exact (hvalues name a b hrelated).mp (hall (name, a) (Entries.mem_of_get? ha))
  · rintro hall ⟨name, a⟩ hentry
    obtain ⟨b, hb, hrelated⟩ := h.exists_get?_of_mem hentry
    exact (hvalues name a b hrelated).mpr (hall (name, b) (Entries.mem_of_get? hb))

/-- Entries with distinct names are in another order when they have the same names and each entry
of the first has a related value in the second. -/
theorem of_perm_names (hdistinct : first.names.Nodup) (hnames : first.names.Perm second.names)
    (h : ∀ entry ∈ first, ∃ b, second.get? entry.1 = some b ∧ related entry.2 b) :
    Reordered related first second := by
  refine ⟨hdistinct, hnames.nodup_iff.mp hdistinct, fun name => ?_⟩
  cases hfirst : first.get? name with
  | none =>
      rw [Entries.get?_eq_none_iff, hnames.mem_iff, ← Entries.get?_eq_none_iff] at hfirst
      rw [hfirst]
      exact .none
  | some a =>
      obtain ⟨b, hb, hrelated⟩ := h (name, a) (Entries.mem_of_get? hfirst)
      rw [hb]
      exact .some hrelated

/-- Writing related values under one name keeps all others related. -/
theorem put (h : Reordered related first second) (name : String) {a : α} {b : β}
    (hrelated : related a b) : Reordered related (first.put name a) (second.put name b) := by
  refine ⟨Entries.nodup_names_put h.nodup_first name a,
    Entries.nodup_names_put h.nodup_second name b, fun other => ?_⟩
  by_cases hother : other = name
  · subst hother
    rw [Entries.get?_put_self, Entries.get?_put_self]
    exact .some hrelated
  · rw [Entries.get?_put_of_ne first a hother, Entries.get?_put_of_ne second b hother]
    exact h.get? other

/-- Writing related values under a name that may be known keeps all others related. -/
theorem putNew (h : Reordered related first second) (name : String) {a : α} {b : β}
    (hrelated : related a b) : Reordered related (first.putNew name a) (second.putNew name b) := by
  unfold Entries.putNew
  rw [h.has_eq name]
  split
  · exact h
  · exact h.put name hrelated

end Entries.Reordered

/-! ## Documents -/

/-- Documents with distinct keys that differ only in the order of the keys in their objects. -/
inductive Json.Reordered : Json → Json → Prop where
  | null : Reordered .null .null
  | bool (b : Bool) : Reordered (.bool b) (.bool b)
  | number (n : Json.Number) : Reordered (.number n) (.number n)
  | string (s : String) : Reordered (.string s) (.string s)
  | array {items others : List Json} (hitems : List.Forall₂ Reordered items others) :
      Reordered (.array items) (.array others)
  | object {entries others : List (String × Json)} (hfirst : (Entries.names entries).Nodup)
      (hsecond : (Entries.names others).Nodup)
      (hvalues : ∀ name,
        Option.Rel Reordered (Entries.get? entries name) (Entries.get? others name)) :
      Reordered (.object entries) (.object others)

namespace Json

/-- Objects in another order have related values under each key. -/
theorem Reordered.entries {entries others : Entries Json}
    (h : Reordered (.object entries) (.object others)) :
    Entries.Reordered Reordered entries others := by
  cases h with
  | object hfirst hsecond hvalues => exact ⟨hfirst, hsecond, hvalues⟩

/-- Entries in another order make objects in another order. -/
theorem reordered_object {entries others : Entries Json}
    (h : Entries.Reordered Reordered entries others) :
    Reordered (.object entries) (.object others) :=
  .object h.nodup_first h.nodup_second h.get?

/-- Arrays in another order of keys are related item by item. -/
theorem Reordered.items {items others : List Json} (h : Reordered (.array items) (.array others)) :
    List.Forall₂ Reordered items others := by
  cases h with
  | array hitems => exact hitems

mutual

/-- Whether two documents have distinct keys and differ only in the order of keys. -/
def isReordered : Json → Json → Bool
  | .array items, .array others => areReordered items others
  | .object entries, .object others =>
      decide (Entries.names entries).Nodup &&
        (Entries.names entries).isPerm (Entries.names others) && haveReordered entries others
  | .null, .null => true
  | .bool first, .bool second => first == second
  | .number first, .number second => decide (first = second)
  | .string first, .string second => first == second
  | _, _ => false

/-- Whether the items of two lists differ only in the order of keys. -/
def areReordered : List Json → List Json → Bool
  | [], [] => true
  | first :: rest, second :: others => isReordered first second && areReordered rest others
  | _, _ => false

/-- Whether each entry has a value under its name in the others that differs only in the order of
keys. -/
def haveReordered : List (String × Json) → List (String × Json) → Bool
  | [], _ => true
  | (name, first) :: rest, others =>
      (match Entries.get? others name with
        | some second => isReordered first second
        | none => false) &&
      haveReordered rest others

end

mutual

/-- Documents are found to differ only in the order of keys when they do. -/
theorem isReordered_iff (first second : Json) :
    isReordered first second = true ↔ first.Reordered second := by
  cases first with
  | array items =>
      cases second with
      | array others =>
          rw [isReordered, areReordered_iff items others]
          exact ⟨.array, Reordered.items⟩
      | _ => exact iff_of_false (by simp [isReordered]) nofun
  | object entries =>
      cases second with
      | object others =>
          simp only [isReordered, Bool.and_eq_true, decide_eq_true_eq, List.isPerm_iff,
            haveReordered_iff entries others]
          constructor
          · rintro ⟨⟨hdistinct, hnames⟩, hentries⟩
            exact reordered_object (.of_perm_names hdistinct hnames hentries)
          · intro h
            refine ⟨⟨h.entries.nodup_first, h.entries.perm_names⟩, fun entry hentry => ?_⟩
            exact h.entries.exists_get?_of_mem hentry
      | _ => exact iff_of_false (by simp [isReordered]) nofun
  | null =>
      cases second with
      | null => exact iff_of_true rfl .null
      | _ => exact iff_of_false (by simp [isReordered]) nofun
  | bool b =>
      cases second with
      | bool other =>
          simp only [isReordered, beq_iff_eq]
          constructor
          · rintro rfl
            exact .bool b
          · rintro ⟨⟩
            rfl
      | _ => exact iff_of_false (by simp [isReordered]) nofun
  | number n =>
      cases second with
      | number other =>
          simp only [isReordered, decide_eq_true_eq]
          constructor
          · rintro rfl
            exact .number n
          · rintro ⟨⟩
            rfl
      | _ => exact iff_of_false (by simp [isReordered]) nofun
  | string s =>
      cases second with
      | string other =>
          simp only [isReordered, beq_iff_eq]
          constructor
          · rintro rfl
            exact .string s
          · rintro ⟨⟩
            rfl
      | _ => exact iff_of_false (by simp [isReordered]) nofun

theorem areReordered_iff (items others : List Json) :
    areReordered items others = true ↔ List.Forall₂ Reordered items others := by
  cases items with
  | nil => cases others <;> simp [areReordered]
  | cons first rest =>
      cases others with
      | nil => simp [areReordered]
      | cons second others =>
          simp [areReordered, isReordered_iff first second, areReordered_iff rest others]

theorem haveReordered_iff (entries others : List (String × Json)) :
    haveReordered entries others = true ↔
      ∀ entry ∈ entries, ∃ value, Entries.get? others entry.1 = some value ∧
        entry.2.Reordered value := by
  cases entries with
  | nil => simp [haveReordered]
  | cons entry rest =>
      obtain ⟨name, first⟩ := entry
      rw [haveReordered, Bool.and_eq_true, haveReordered_iff rest others, List.forall_mem_cons]
      refine and_congr_left fun _ => ?_
      cases Entries.get? others name with
      | none => simp
      | some second => simp [isReordered_iff first second]

end

instance (first second : Json) : Decidable (first.Reordered second) :=
  decidable_of_iff (isReordered first second = true) (isReordered_iff first second)

end Json
end SchemaForm
