import Mathlib.Data.List.Induction
import Mathlib.Data.List.TakeWhile
import Mathlib.Data.String.Basic
import SchemaForm.Proofs.Entries
import SchemaForm.Registry

/-!
# The registry as a map

A registry stores its builders under a type, or under a type and a format that
stand in one text with a dot between them.  Formats may hold dots and types that
hold none cannot be confused, so a registry is the map from types and optional
formats that the changes describe: under each pair stands what the last change
of that pair left there.

Main results:

- Definition `Registry.last?`: what the last of some changes left for a type and a format.
- Theorem `key_injective`: types without a dot and their formats do not share a key.
- Theorem `Holds.apply`: one change of the registry is the same change of the map.
- Theorem `isMapOf_run`: after any changes the registry is the map that they describe.
-/

namespace SchemaForm

namespace Registry

/-! ## Changes and what they leave -/

/-- A call that changes a registry. -/
inductive Change where
  | register (type : String) (format : Option String) (builder : Builder)
  | unregister (type : String) (format : Option String)

namespace Change

/-- The type that is changed. -/
def type : Change → String
  | register type _ _ => type
  | unregister type _ => type

/-- The format that is changed. -/
def format : Change → Option String
  | register _ format _ => format
  | unregister _ format => format

/-- The builder that stands there afterwards. -/
def builder? : Change → Option Builder
  | register _ _ builder => some builder
  | unregister _ _ => none

/-- Make the change. -/
def apply (registry : Registry) : Change → Registry
  | register type format builder => registry.register type format builder
  | unregister type format => (registry.remove type format).2

end Change

/-- A registry after changes, the first one first. -/
def run (registry : Registry) (changes : List Change) : Registry :=
  changes.foldl Change.apply registry

/-- What the last change of a type and a format left there. -/
def last? (changes : List Change) (type : String) (format : Option String) : Option Builder :=
  (changes.reverse.find? fun change => change.type = type ∧ change.format = format).bind
    Change.builder?

/-- The registrations of the standard registry. -/
def standardChanges : List Change :=
  [.register "boolean" none (.ofKind .boolean), .register "string" none (.ofKind .string),
    .register "integer" none (.ofKind .number), .register "number" none (.ofKind .number),
    .register "array" none (.ofKind .array), .register "object" none (.ofKind .object)]

/-- The standard registry is what its registrations make of an empty one. -/
theorem run_standardChanges : empty.run standardChanges = standard :=
  rfl

/-- The newest change decides about its own type and format only. -/
theorem last?_append_singleton (changes : List Change) (change : Change) (type : String)
    (format : Option String) :
    last? (changes ++ [change]) type format =
      if change.type = type ∧ change.format = format then change.builder?
      else last? changes type format := by
  simp only [last?, List.reverse_append, List.reverse_cons, List.reverse_nil, List.nil_append,
    List.cons_append, List.find?_cons]
  by_cases h : change.type = type ∧ change.format = format
  · simp [h]
  · simp [h]

/-! ## Keys -/

/-- Type names without a dot. -/
def IsDotFree (type : String) : Prop :=
  '.' ∉ type.toList

instance (type : String) : Decidable (IsDotFree type) :=
  inferInstanceAs (Decidable (¬ _))

/-- The characters of the key of a type with a format. -/
theorem toList_key_some (type format : String) :
    (key type (some format)).toList = type.toList ++ '.' :: format.toList := by
  have hdot : ".".toList = ['.'] := rfl
  simp [key, hdot]

/-- The type of a key is what stands before its first dot. -/
theorem takeWhile_key {type : String} (htype : IsDotFree type) (format : Option String) :
    (key type format).toList.takeWhile (· ≠ '.') = type.toList := by
  have hall : ∀ c ∈ type.toList, decide (c ≠ '.') = true := by
    intro c hc
    have hne : c ≠ '.' := by
      rintro rfl
      exact htype hc
    exact decide_eq_true hne
  cases format with
  | none => exact List.takeWhile_eq_self_iff.mpr hall
  | some format =>
      rw [toList_key_some, List.takeWhile_append_of_pos hall]
      simp

/-- Types without a dot and their formats do not share a key. -/
theorem key_injective {type other : String} {format second : Option String}
    (htype : IsDotFree type) (hother : IsDotFree other)
    (h : key type format = key other second) : type = other ∧ format = second := by
  have htypes : type = other := by
    apply String.toList_injective
    rw [← takeWhile_key htype format, h, takeWhile_key hother]
  subst htypes
  refine ⟨rfl, ?_⟩
  have hchars := congrArg String.toList h
  cases format with
  | none =>
      cases second with
      | none => rfl
      | some second =>
          rw [toList_key_some, key] at hchars
          exact absurd hchars (by simp)
  | some format =>
      cases second with
      | none =>
          rw [toList_key_some, key] at hchars
          exact absurd hchars (by simp)
      | some second =>
          rw [toList_key_some, toList_key_some, List.append_cancel_left_eq,
            List.cons.injEq] at hchars
          exact congrArg some (String.toList_injective hchars.2)

/-! ## One change -/

/-- A registry holds what some changes left, and nothing else. -/
structure Holds (registry : Registry) (changes : List Change) : Prop where
  get? : ∀ {type : String}, IsDotFree type → ∀ format : Option String,
    registry.builders.get? (key type format) = last? changes type format
  nodup : registry.builders.names.Nodup
  dotFree : ∀ name ∈ registry.builders.names, ∃ type format, IsDotFree type ∧ key type format = name

/-- An empty registry holds what no change left. -/
theorem holds_empty : Holds empty [] :=
  ⟨fun _ _ => rfl, List.nodup_nil, by simp [empty, Entries.names]⟩

variable {registry : Registry} {changes : List Change} {change : Change}

/-- Entries that a change leaves alone except under its own key hold, under the key of every pair,
what the last change of that pair left. -/
theorem Holds.get?_append {next : Entries Builder} (h : Holds registry changes)
    (hchange : IsDotFree change.type)
    (hself : next.get? (key change.type change.format) = change.builder?)
    (hothers : ∀ name, name ≠ key change.type change.format →
      next.get? name = registry.builders.get? name)
    {type : String} (htype : IsDotFree type) (format : Option String) :
    next.get? (key type format) = last? (changes ++ [change]) type format := by
  rw [last?_append_singleton]
  split
  · rename_i hpair
    rw [← hpair.1, ← hpair.2, hself]
  · rename_i hpair
    rw [hothers, h.get? htype]
    intro hkey
    exact hpair (key_injective hchange htype hkey.symm)

/-- One change of the registry is the same change of what it holds. -/
theorem Holds.apply (h : Holds registry changes) (hchange : IsDotFree change.type) :
    Holds (change.apply registry) (changes ++ [change]) := by
  cases change with
  | register type format builder =>
      refine ⟨fun htype format => h.get?_append hchange ?_ ?_ htype format, ?_, ?_⟩
      · exact Entries.get?_put_self ..
      · intro name hname
        exact Entries.get?_put_of_ne _ _ hname
      · exact Entries.nodup_names_put h.nodup _ _
      · intro name hname
        obtain ⟨entry, hentry, rfl⟩ := List.mem_map.mp hname
        rcases Entries.mem_put hentry with rfl | hentry
        · exact ⟨type, format, hchange, rfl⟩
        · exact h.dotFree _ (List.mem_map_of_mem hentry)
  | unregister type format =>
      have hnames := Entries.names_erase_sublist registry.builders (key type format)
      refine ⟨fun htype format => h.get?_append hchange ?_ ?_ htype format, ?_, ?_⟩
      · exact Entries.get?_erase_self ..
      · intro name hname
        exact Entries.get?_erase_of_ne _ hname
      · exact h.nodup.sublist hnames
      · intro name hname
        exact h.dotFree name (hnames.subset hname)

/-- Changes of the registry are the same changes of what it holds. -/
theorem Holds.run {more : List Change} (h : Holds registry changes)
    (hmore : ∀ change ∈ more, IsDotFree change.type) :
    Holds (registry.run more) (changes ++ more) := by
  induction more using List.reverseRecOn with
  | nil => simpa [Registry.run] using h
  | append_singleton more change ih =>
      have hbefore := ih fun change hchange => hmore change (List.mem_append_left _ hchange)
      rw [Registry.run, List.foldl_append, ← List.append_assoc]
      exact hbefore.apply (hmore change (by simp))

/-! ## What is seen of a registry -/

/-- The builder for a schema of a type: that of its format, or else that of the type. -/
def choice? (live : String → Option String → Option Builder) (type : String) (schema : Schema) :
    Option Builder :=
  match schema.get? "format" with
  | some (.string format) => (live type (some format)).or (live type none)
  | _ => live type none

/-- A registry that shows itself as a map from types without a dot and optional formats. -/
structure IsMapOf (registry : Registry) (live : String → Option String → Option Builder) :
    Prop where
  contains : ∀ {type : String}, IsDotFree type → ∀ format : Option String,
    registry.contains type format = (live type format).isSome
  removed : ∀ {type : String}, IsDotFree type → ∀ format : Option String,
    (registry.remove type format).1 = (live type format).isSome
  ascending : registry.keys.Pairwise (· < ·)
  listed : ∀ {type : String}, IsDotFree type → ∀ format : Option String,
    key type format ∈ registry.keys ↔ (live type format).isSome = true
  onePair : ∀ name ∈ registry.keys, ∃! pair : String × Option String,
    IsDotFree pair.1 ∧ (live pair.1 pair.2).isSome = true ∧ key pair.1 pair.2 = name
  find : ∀ {type : String}, IsDotFree type → ∀ (field : String) (schema : Schema),
    registry.find field type schema =
      match choice? live type schema with
      | some builder => .ok builder
      | none => .error ⟨field, .noBuilder type⟩

/-- The keys are the names of the entries. -/
theorem mem_keys {name : String} : name ∈ registry.keys ↔ name ∈ registry.builders.names :=
  List.mem_mergeSort

/-- Distinct keys stand in ascending order. -/
theorem ascending_keys (hnodup : registry.builders.names.Nodup) :
    registry.keys.Pairwise (· < ·) := by
  have hsorted : registry.keys.Pairwise fun a b => (!decide (b < a)) = true := by
    refine List.pairwise_mergeSort ?_ ?_ _
    · intro a b c hab hbc
      simp only [Bool.not_eq_true', decide_eq_false_iff_not, not_lt] at *
      exact hab.trans hbc
    · intro a b
      simp only [Bool.or_eq_true, Bool.not_eq_true', decide_eq_false_iff_not, not_lt]
      exact le_total a b
  have hdistinct : registry.keys.Nodup := (List.mergeSort_perm _ _).nodup_iff.mpr hnodup
  refine (hsorted.and hdistinct).imp ?_
  rintro a b ⟨hle, hne⟩
  simp only [Bool.not_eq_true', decide_eq_false_iff_not, not_lt] at hle
  exact lt_of_le_of_ne hle hne

/-- A registry that holds what some changes left shows itself as the map of what is left. -/
theorem Holds.isMapOf (h : Holds registry changes) : registry.IsMapOf (last? changes) := by
  have hcontains : ∀ {type : String}, IsDotFree type → ∀ format : Option String,
      registry.contains type format = (last? changes type format).isSome := by
    intro type htype format
    rw [Registry.contains, Entries.has, h.get? htype]
  have hlisted : ∀ {type : String}, IsDotFree type → ∀ format : Option String,
      key type format ∈ registry.keys ↔ (last? changes type format).isSome = true := by
    intro type htype format
    rw [mem_keys, ← Entries.has_iff, ← hcontains htype, Registry.contains]
  refine ⟨hcontains, hcontains, ascending_keys h.nodup, hlisted, ?_, ?_⟩
  · intro name hname
    obtain ⟨type, format, htype, rfl⟩ := h.dotFree name (mem_keys.mp hname)
    refine ⟨(type, format), ⟨htype, (hlisted htype format).mp hname, rfl⟩, ?_⟩
    rintro ⟨other, second⟩ ⟨hother, -, hkey⟩
    obtain ⟨rfl, rfl⟩ := key_injective hother htype hkey
    rfl
  · intro type htype field schema
    simp only [Registry.find, choice?, h.get? htype]
    generalize schema.get? "format" = written
    cases written with
    | none => rfl
    | some value => cases value <;> rfl

/-- After any changes of types without a dot, the standard registry is the map in which under each
type and format stands what the last change of them left, the standard registrations being the
first ones. -/
theorem isMapOf_run {changes : List Change}
    (hchanges : ∀ change ∈ changes, IsDotFree change.type) :
    (standard.run changes).IsMapOf (last? (standardChanges ++ changes)) := by
  have hstandard : Holds standard standardChanges := by
    rw [← run_standardChanges]
    exact holds_empty.run (by decide)
  exact (hstandard.run hchanges).isMapOf

/-- Changes of two formats of texts, one of which has a dot, and the removal of a type. -/
def formatChanges : List Change :=
  [.register "string" (some "a.b") (.ofKind .boolean),
    .register "string" (some "a") (.ofKind .boolean), .unregister "string" (some "a.b"),
    .register "string" (some "a") (.ofKind .number), .unregister "integer" none]

/-- A format that was registered twice has its second builder, one that was removed has that of its
type, and a type that was removed has none. -/
theorem isMapOf_run_formatChanges :
    (standard.run formatChanges).contains "string" (some "a.b") = false ∧
      (standard.run formatChanges).find "f" "string" [("format", .string "a")] =
        .ok (.ofKind .number) ∧
      (standard.run formatChanges).find "f" "string" [("format", .string "a.b")] =
        .ok (.ofKind .string) ∧
      (standard.run formatChanges).find "f" "integer" [] =
        .error ⟨"f", .noBuilder "integer"⟩ := by
  have hdotFree : ∀ change ∈ formatChanges, IsDotFree change.type := by decide
  have hmap := isMapOf_run hdotFree
  refine ⟨?_, ?_, ?_, ?_⟩
  · exact hmap.contains (by decide) _
  · exact hmap.find (by decide) _ _
  · exact hmap.find (by decide) _ _
  · exact hmap.find (by decide) _ _

end Registry
end SchemaForm
