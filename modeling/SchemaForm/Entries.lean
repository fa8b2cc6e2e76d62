/-!
# Named entries in a fixed order

Objects of a document, fields of a form and nodes of a draft are all lists of
named values whose order shows.  This module fixes how such a list is read and
changed.

Main results:

- Theorem `names_put`: writing under a new name appends the name, writing under a known
  name keeps the order.
- Theorem `get?_put_self`: a value that was written is found again.
- Theorem `get?_put_of_ne`: writing leaves every other name alone.
-/

namespace SchemaForm

/-- Named values in the order in which they were first written. -/
abbrev Entries (α : Type) := List (String × α)

namespace Entries

variable {α : Type}

/-- The value stored under a name. -/
def get? (entries : Entries α) (name : String) : Option α :=
  List.lookup name entries

/-- Whether a name occurs. -/
def has (entries : Entries α) (name : String) : Bool :=
  (entries.get? name).isSome

/-- The names, in order. -/
def names (entries : Entries α) : List String :=
  entries.map Prod.fst

/-- Write a value: a known name keeps its place, a new one goes to the end. -/
def put : Entries α → String → α → Entries α
  | [], name, value => [(name, value)]
  | (known, old) :: rest, name, value =>
      if known = name then (known, value) :: rest
      else (known, old) :: put rest name value

/-- Write a value only if its name is new. -/
def putNew (entries : Entries α) (name : String) (value : α) : Entries α :=
  if entries.has name then entries else entries.put name value

/-- Remove a name with its value. -/
def erase (entries : Entries α) (name : String) : Entries α :=
  entries.filter fun entry => entry.1 ≠ name

/-- Collect entries in which a repeated name keeps its first place and its last value. -/
def ofList (entries : List (String × α)) : Entries α :=
  entries.foldl (fun found entry => put found entry.1 entry.2) []

@[simp]
theorem get?_nil (name : String) : get? ([] : Entries α) name = none :=
  rfl

theorem get?_cons (entry : String × α) (entries : Entries α) (name : String) :
    get? (entry :: entries) name = if name = entry.1 then some entry.2 else get? entries name := by
  obtain ⟨known, value⟩ := entry
  by_cases h : name = known
  · simp [get?, h]
  · simp [get?, List.lookup_cons, h, beq_eq_false_iff_ne.mpr h]

/-- A value that was written is found again. -/
theorem get?_put_self (entries : Entries α) (name : String) (value : α) :
    (entries.put name value).get? name = some value := by
  induction entries with
  | nil => simp [put, get?_cons]
  | cons entry rest ih =>
      obtain ⟨known, old⟩ := entry
      by_cases h : known = name
      · simp [put, h, get?_cons]
      · have h' : ¬ name = known := fun e => h e.symm
        simp [put, h, h', get?_cons, ih]

/-- Writing under one name leaves every other name alone. -/
theorem get?_put_of_ne (entries : Entries α) {name other : String} (value : α)
    (h : other ≠ name) : (entries.put name value).get? other = entries.get? other := by
  induction entries with
  | nil => simp [put, get?_cons, h]
  | cons entry rest ih =>
      obtain ⟨known, old⟩ := entry
      by_cases hk : known = name
      · subst hk
        simp [put, get?_cons, h]
      · simp [put, hk, get?_cons, ih]

/-- Writing keeps the order of known names and appends a new one. -/
theorem names_put (entries : Entries α) (name : String) (value : α) :
    (entries.put name value).names =
      if name ∈ entries.names then entries.names else entries.names ++ [name] := by
  induction entries with
  | nil => simp [put, names]
  | cons entry rest ih =>
      obtain ⟨known, old⟩ := entry
      by_cases hk : known = name
      · subst hk
        simp [put, names]
      · have hk' : ¬ name = known := fun e => hk e.symm
        simp only [names] at ih
        by_cases hm : name ∈ rest.map Prod.fst
        · simp_all [put, names]
        · simp_all [put, names]

end Entries

end SchemaForm
