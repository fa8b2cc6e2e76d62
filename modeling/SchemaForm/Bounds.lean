import SchemaForm.Binary64.Shortest
import SchemaForm.Json.Basic

/-!
# Bounds

Lower and upper bounds for numbers, each of them inclusive or exclusive and
each of them optional, and the message that names them.

Main results:

- Theorem `contains_iff`: a number is within bounds when it passes each bound that is given.
- Theorem `contains_of_isUnbounded`: without bounds every number is accepted.
-/

namespace SchemaForm

/-- Bounds of a number. -/
structure Bounds where
  minimum : Option Binary64 := none
  maximum : Option Binary64 := none
  exclusiveMinimum : Option Binary64 := none
  exclusiveMaximum : Option Binary64 := none
deriving DecidableEq

namespace Bounds

/-- Bounds that belong to the accepted numbers. -/
def inclusive (minimum maximum : Option Binary64) : Bounds :=
  ⟨minimum, maximum, none, none⟩

/-- Bounds that do not belong to the accepted numbers. -/
def exclusive (exclusiveMinimum exclusiveMaximum : Option Binary64) : Bounds :=
  ⟨none, none, exclusiveMinimum, exclusiveMaximum⟩

/-- Whether no bound is given. -/
def isUnbounded (bounds : Bounds) : Bool :=
  bounds.minimum.isNone && bounds.maximum.isNone && bounds.exclusiveMinimum.isNone &&
    bounds.exclusiveMaximum.isNone

/-- Whether a number passes every bound.  A comparison with an undefined number rejects nothing. -/
def contains (bounds : Bounds) (x : Binary64) : Bool :=
  !(bounds.minimum.any fun least => x.lt least) &&
    !(bounds.maximum.any fun greatest => greatest.lt x) &&
    !(bounds.exclusiveMinimum.any fun low => x.le low) &&
    !(bounds.exclusiveMaximum.any fun high => high.le x)

/-- The text of a bound: whole numbers of up to fifteen digits without a sign of zero, all others
in full. -/
def boundText (x : Binary64) : String :=
  match x.toInt? with
  | some n => if n.natAbs < 1000000000000000 then toString n else x.plain
  | none => x.plain

/-- The message for a number outside the bounds.  An exclusive bound is named in place of an
inclusive one on the same side. -/
def message (bounds : Bounds) : String :=
  match bounds.minimum, bounds.maximum, bounds.exclusiveMinimum, bounds.exclusiveMaximum with
  | _, _, some low, some high =>
      s!"Must be greater than {boundText low} and smaller than {boundText high}"
  | _, some greatest, some low, none =>
      s!"Must be greater than {boundText low} and smaller or equal to {boundText greatest}"
  | _, none, some low, none => s!"Must be greater than {boundText low}"
  | none, _, none, some high => s!"Must be smaller than {boundText high}"
  | some least, _, none, some high =>
      s!"Must be greater or equal {boundText least} and smaller than {boundText high}"
  | some least, some greatest, none, none =>
      s!"Must be between {boundText least} and {boundText greatest}."
  | some least, none, none, none => s!"Must be greater than or equal to {boundText least}."
  | none, some greatest, none, none => s!"Must be less than or equal to {boundText greatest}."
  | none, none, none, none => "Value out of range."

/-- The bounds that are given, with their names in documents. -/
def toEntries (bounds : Bounds) : Entries Json :=
  let entry (name : String) (bound : Option Binary64) : List (String × Json) :=
    bound.toList.map fun x => (name, Json.ofBinary64 x)
  entry "minimum" bounds.minimum ++ entry "maximum" bounds.maximum ++
    entry "exclusive_minimum" bounds.exclusiveMinimum ++
    entry "exclusive_maximum" bounds.exclusiveMaximum

/-- A number is within bounds when it passes each bound that is given. -/
theorem contains_iff (bounds : Bounds) (x : Binary64) :
    bounds.contains x = true ↔
      (∀ least, bounds.minimum = some least → x.lt least = false) ∧
        (∀ greatest, bounds.maximum = some greatest → greatest.lt x = false) ∧
        (∀ low, bounds.exclusiveMinimum = some low → x.le low = false) ∧
        (∀ high, bounds.exclusiveMaximum = some high → high.le x = false) := by
  obtain ⟨minimum, maximum, low, high⟩ := bounds
  cases minimum <;> cases maximum <;> cases low <;> cases high <;>
    simp [contains, and_assoc]

/-- Without bounds every number is accepted. -/
theorem contains_of_isUnbounded {bounds : Bounds} (h : bounds.isUnbounded = true) (x : Binary64) :
    bounds.contains x = true := by
  simp only [isUnbounded, Bool.and_eq_true, Option.isNone_iff_eq_none] at h
  obtain ⟨⟨⟨hmin, hmax⟩, hlow⟩, hhigh⟩ := h
  simp [contains, hmin, hmax, hlow, hhigh]

end Bounds
end SchemaForm
