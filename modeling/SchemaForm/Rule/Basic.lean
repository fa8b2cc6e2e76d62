import SchemaForm.Binary64.Reading
import SchemaForm.Bounds
import SchemaForm.Calendar.Iso
import SchemaForm.Path
import SchemaForm.Settings
import SchemaForm.Surroundings
import SchemaForm.Text.Blank

/-!
# Rules

A rule accepts or rejects the text that a user has entered.  Rules are tried in
order and every one that rejects is reported.

Main results:

- Theorem `check_notEmpty_eq_none_iff`: the rule against blanks accepts every other text.
-/

namespace SchemaForm

/-- A rule for an entered text. -/
inductive Rule where
  | notEmpty
  | integer
  | number
  | range (bounds : Bounds)
  | date (pattern : String) (blankAllowed : Bool)
  | dateTime (pattern : String) (blankAllowed : Bool)
  | file (blankAllowed : Bool)
  | directory (blankAllowed : Bool)
  | absolutePath (blankAllowed : Bool)
deriving DecidableEq

/-- A rule that rejected a text, by name, and what to tell the user. -/
structure Violation where
  rule : String
  message : String
deriving DecidableEq, Repr

namespace Rule

/-- The rule of a format, if the format has one. -/
def ofFormat? (format : String) (patterns : DatePatterns) (blankAllowed : Bool) : Option Rule :=
  match format with
  | "date" => some (.date patterns.date blankAllowed)
  | "date-time" => some (.dateTime patterns.dateTime blankAllowed)
  | "file-path" => some (.file blankAllowed)
  | "directory-path" => some (.directory blankAllowed)
  | "path" => some (.absolutePath blankAllowed)
  | _ => none

/-- The name of a rule. -/
def name : Rule → String
  | .notEmpty => "not_empty"
  | .integer => "integer"
  | .number => "number"
  | .range _ => "range"
  | .date .. => "date"
  | .dateTime .. => "date_time"
  | .file _ => "file_path"
  | .directory _ => "directory_path"
  | .absolutePath _ => "absolute_path"

/-- Whether the outcome may change while the text stays the same. -/
def asksMachine : Rule → Bool
  | .file _ | .directory _ | .absolutePath _ => true
  | _ => false

/-! ## Messages -/

/-- The message for a blank text. -/
def blankMessage : String := "Field can not be empty"

/-- The message for a text that is no number. -/
def numberMessage : String := "Must be a valid number."

/-- The message for a number that is no integer. -/
def integerMessage : String := "Must be a valid integer."

/-- The message for a well-formed text that a rule rejects. -/
def message (around : Surroundings) : Rule → String
  | .notEmpty => blankMessage
  | .integer => integerMessage
  | .number => numberMessage
  | .range bounds => bounds.message
  | .date pattern _ | .dateTime pattern _ =>
      s!"Is not a valid date of format '{around.today pattern}'"
  | .file _ => "File does not exist"
  | .directory _ => "Directory does not exist"
  | .absolutePath _ => "Use absolute paths or '~' to expand the current user"

/-- The violation of the rule against blanks. -/
def blankViolation : Violation :=
  ⟨name .notEmpty, blankMessage⟩

/-! ## Checking -/

/-- The finite number that a text is, blanks around it left out. -/
def number? (text : String) : Option Binary64 :=
  match Binary64.read (Text.trim text.toList) with
  | .ok x => if x.isFinite then some x else none
  | .error _ => none

/-- Whether a text is an integer of 64 signed bits, blanks around it left out. -/
def isInteger (text : String) : Bool :=
  match Text.Integer.read Text.Integer.signed64 (Text.trim text.toList) with
  | .ok _ => true
  | .error _ => false

/-- What a blank text is worth, or else a test. -/
def unlessBlank (blankAllowed : Bool) (text : String) (test : Bool) : Bool :=
  if text.isEmpty then blankAllowed else test

/-- Whether reading succeeded. -/
def succeeded {ε α : Type} : Except ε α → Bool
  | .ok _ => true
  | .error _ => false

/-- The message with which a rule rejects a text, or nothing if it accepts. -/
def rejection? (around : Surroundings) (rule : Rule) (text : String) : Option String :=
  let require (accepted : Bool) : Option String :=
    if accepted then none else some (rule.message around)
  match rule with
  | .notEmpty => require (!text.isEmpty)
  | .integer =>
      match number? text with
      | none => some numberMessage
      | some _ => require (isInteger text)
  | .number => require (number? text).isSome
  | .range bounds =>
      match number? text with
      | none => some numberMessage
      | some x => require (bounds.contains x)
  | .date pattern blankAllowed =>
      require (unlessBlank blankAllowed text (succeeded (Calendar.Date.read text pattern)))
  | .dateTime pattern blankAllowed =>
      require (unlessBlank blankAllowed text (succeeded (Calendar.DateTime.read text pattern)))
  | .file blankAllowed => require (unlessBlank blankAllowed text (around.isFile text))
  | .directory blankAllowed => require (unlessBlank blankAllowed text (around.isDirectory text))
  | .absolutePath blankAllowed =>
      require (unlessBlank blankAllowed text (Path.isAbsolute around.hasHome text))

/-- The violation of a rule by a text, if it rejects the text. -/
def check (around : Surroundings) (rule : Rule) (text : String) : Option Violation :=
  (rule.rejection? around text).map fun message => ⟨rule.name, message⟩

/-- The violations of several rules, in order. -/
def checkAll (around : Surroundings) (rules : List Rule) (text : String) : List Violation :=
  rules.filterMap fun rule => rule.check around text

/-! ## Documents -/

/-- A rule as a document. -/
def toJson (rule : Rule) : Json :=
  let kind : List (String × Json) := [("kind", .string rule.name)]
  let blank (blankAllowed : Bool) : List (String × Json) := [("allow_blank", .bool blankAllowed)]
  match rule with
  | .notEmpty | .integer | .number => .object kind
  | .range bounds => .object (kind ++ bounds.toEntries)
  | .date pattern blankAllowed | .dateTime pattern blankAllowed =>
      .object (kind ++ [("pattern", .string pattern)] ++ blank blankAllowed)
  | .file blankAllowed | .directory blankAllowed | .absolutePath blankAllowed =>
      .object (kind ++ blank blankAllowed)

/-! ## Laws -/

/-- The rule against blanks accepts every other text. -/
theorem check_notEmpty_eq_none_iff (around : Surroundings) (text : String) :
    check around .notEmpty text = none ↔ text.isEmpty = false := by
  cases h : text.isEmpty <;> simp [check, rejection?, h]

end Rule

/-- A violation as a document. -/
def Violation.toJson (violation : Violation) : Json :=
  .object [("validator", .string violation.rule), ("message", .string violation.message)]

end SchemaForm
