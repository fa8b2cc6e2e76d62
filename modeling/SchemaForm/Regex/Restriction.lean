import SchemaForm.Regex.Matching
import SchemaForm.Regex.Reading.Pattern

/-!
# Restrictions

A pattern that texts have to match as a whole.

Main results:

- Theorem `pattern_ofPattern?`: a restriction is made from the pattern that it has.
-/

namespace SchemaForm

/-- A pattern that texts have to match. -/
structure Restriction where
  pattern : String
  expr : Regex.Pattern
  read_pattern : Regex.read? (Regex.whole pattern.toList) = some expr

namespace Restriction

/-- The restriction to texts that match a pattern, if it is one. -/
def ofPattern? (pattern : String) : Option Restriction :=
  match h : Regex.read? (Regex.whole pattern.toList) with
  | some expr => some ⟨pattern, expr, h⟩
  | none => none

/-- Whether a text matches. -/
def accepts (restriction : Restriction) (text : String) : Bool :=
  restriction.expr.occursIn text.toList

/-- A restriction is made from the pattern that it has. -/
theorem pattern_ofPattern? {pattern : String} {restriction : Restriction}
    (h : ofPattern? pattern = some restriction) : restriction.pattern = pattern := by
  unfold ofPattern? at h
  split at h
  · cases h
    rfl
  · simp at h

end Restriction
end SchemaForm
