import SchemaForm.Calendar.Iso

/-!
# Surroundings

What the rules of a form may ask the machine that they run on.
-/

namespace SchemaForm

/-- The answers of a machine to the questions of a form. -/
structure Surroundings where
  /-- Whether a path leads to a regular file. -/
  isFile : String → Bool
  /-- Whether a path leads to a directory. -/
  isDirectory : String → Bool
  /-- Whether the home directory of the user is known. -/
  hasHome : Bool
  /-- The current date under a pattern, as an example in messages. -/
  today : String → String

namespace Surroundings

/-- A machine without files at a moment in universal time. -/
def empty (now : Calendar.DateTime) : Surroundings where
  isFile _ := false
  isDirectory _ := false
  hasHome := false
  today := Calendar.exampleText now

end Surroundings
end SchemaForm
