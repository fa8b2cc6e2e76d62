import SchemaForm.Json.Basic
import SchemaForm.Proofs.Entries

/-!
# Proper documents

Documents as they are exchanged: no object repeats a key, integers have at
most 64 bits and other numbers are finite.

Main results:

- Theorem `Proper.get?`: the values of a proper object are proper.
- Theorem `proper_put`: writing a proper value into a proper object keeps it proper.
-/

namespace SchemaForm

/-- An integer of at most 64 bits or a finite number. -/
def Json.Number.InRange : Json.Number → Prop
  | .integer n => Text.Integer.signed64.least ≤ n ∧ n ≤ Text.Integer.unsigned64.greatest
  | .float x => x.isFinite = true

/-- Documents in which keys are distinct and numbers are in range. -/
inductive Json.Proper : Json → Prop where
  | null : Proper .null
  | bool (b : Bool) : Proper (.bool b)
  | number {n : Json.Number} (hn : n.InRange) : Proper (.number n)
  | string (s : String) : Proper (.string s)
  | array {items : List Json} (hitems : ∀ item ∈ items, Proper item) : Proper (.array items)
  | object {entries : List (String × Json)} (hnames : (Entries.names entries).Nodup)
      (hentries : ∀ entry ∈ entries, Proper entry.2) : Proper (.object entries)

namespace Json

/-- The values of a proper object are proper. -/
theorem Proper.get? {entries : Entries Json} {name : String} {value : Json}
    (h : Proper (.object entries)) (hvalue : entries.get? name = some value) : Proper value := by
  cases h with
  | object hnames hentries => exact hentries _ (Entries.mem_of_get? hvalue)

/-- The keys of a proper object are distinct. -/
theorem Proper.nodup_names {entries : Entries Json} (h : Proper (.object entries)) :
    entries.names.Nodup := by
  cases h with
  | object hnames hentries => exact hnames

/-- The entries of a proper object are proper. -/
theorem Proper.entry {entries : Entries Json} {entry : String × Json}
    (h : Proper (.object entries)) (hentry : entry ∈ entries) : Proper entry.2 := by
  cases h with
  | object hnames hentries => exact hentries _ hentry

/-- The items of a proper array are proper. -/
theorem Proper.item {items : List Json} {item : Json} (h : Proper (.array items))
    (hitem : item ∈ items) : Proper item := by
  cases h with
  | array hitems => exact hitems _ hitem

/-- A proper number is in range. -/
theorem Proper.inRange {n : Json.Number} (h : Proper (.number n)) : n.InRange := by
  cases h with
  | number hn => exact hn

/-- Writing a proper value into a proper object keeps it proper. -/
theorem proper_put {entries : Entries Json} {name : String} {value : Json}
    (h : Proper (.object entries)) (hvalue : Proper value) :
    Proper (.object (entries.put name value)) := by
  refine .object (Entries.nodup_names_put h.nodup_names name value) ?_
  intro entry hentry
  rcases Entries.mem_put hentry with rfl | hentry
  · exact hvalue
  · exact h.entry hentry

end Json

end SchemaForm
