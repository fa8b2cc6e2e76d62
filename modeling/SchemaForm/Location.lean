/-!
# Locations

The place of a value inside a form as text: names with points between them,
positions in a list in brackets and without a point.

Main results:

- Theorem `above_root`: seen from the root, a location stays as it is.
-/

namespace SchemaForm
namespace Location

/-- Whether a step is a position in a list. -/
def isPosition (step : String) : Bool :=
  step.toList.head? == some '['

/-- A position in a list as a step. -/
def position (index : Nat) : String :=
  "[" ++ toString index ++ "]"

/-- One step down from a location. -/
def below (parent step : String) : String :=
  if parent.isEmpty then step
  else if isPosition step then parent ++ step
  else parent ++ "." ++ step

/-- A location as it is seen from one step above. -/
def above (parent location : String) : String :=
  if parent.isEmpty then location
  else if location.isEmpty then parent
  else if isPosition location then parent ++ location
  else parent ++ "." ++ location

/-- Seen from the root, a location stays as it is. -/
@[simp]
theorem above_root (location : String) : above "" location = location :=
  rfl

end Location
end SchemaForm
