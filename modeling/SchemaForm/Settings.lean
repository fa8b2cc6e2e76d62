import SchemaForm.Calendar.Pattern
import SchemaForm.Json.Flow
import SchemaForm.Text.Quoted

/-!
# Settings

How a form presents dates and choices and how deep it may nest.  Settings come
from named variables, from a document, or from the defaults.

Main results:

- Theorem `check_default`: the default settings are sound.
- Theorem `check_eq_ok_iff`: settings are sound when both patterns are valid and nesting is
  possible.
-/

namespace SchemaForm

/-- The patterns under which dates are edited. -/
structure DatePatterns where
  date : String := "%d.%m.%Y"
  dateTime : String := "%d.%m.%Y %H:%M"
deriving DecidableEq, Repr

/-- The settings of a form. -/
structure Settings where
  patterns : DatePatterns := {}
  /-- Offer the choices of a text as suggestions instead of a closed list. -/
  suggestChoices : Bool := false
  /-- How deep fields may nest. -/
  depthLimit : Nat := 32
deriving DecidableEq, Repr

/-- Why settings are refused. -/
inductive SettingsError where
  | notInteger (name value : String) (fault : Text.Integer.Fault)
  | notBoolean (name value : String)
  | invalidDatePattern (pattern : String)
  | invalidDateTimePattern (pattern : String)
  | noDepth
deriving DecidableEq, Repr

/-- The wording of an error. -/
def SettingsError.message : SettingsError → String
  | .notInteger name value fault =>
      s!"invalid value {Text.quote value} for {name}: {fault.message}"
  | .notBoolean name value =>
      s!"invalid value {Text.quote value} for {name}: expected a boolean"
  | .invalidDatePattern pattern => s!"invalid date pattern {Text.quote pattern}"
  | .invalidDateTimePattern pattern => s!"invalid date-time pattern {Text.quote pattern}"
  | .noDepth => "max_depth must be at least 1"

namespace Settings

/-- Whether settings are sound: both patterns are valid and at least one level may nest. -/
def check (settings : Settings) : Except SettingsError Unit :=
  if !Calendar.Pattern.isValid settings.patterns.date then
    .error (.invalidDatePattern settings.patterns.date)
  else if !Calendar.Pattern.isValid settings.patterns.dateTime then
    .error (.invalidDateTimePattern settings.patterns.dateTime)
  else if settings.depthLimit = 0 then .error .noDepth
  else .ok ()

/-- Settings are sound when both patterns are valid and nesting is possible. -/
theorem check_eq_ok_iff (settings : Settings) :
    settings.check = .ok () ↔
      Calendar.Pattern.isValid settings.patterns.date = true ∧
        Calendar.Pattern.isValid settings.patterns.dateTime = true ∧ 0 < settings.depthLimit := by
  unfold check
  cases Calendar.Pattern.isValid settings.patterns.date <;>
    cases Calendar.Pattern.isValid settings.patterns.dateTime <;>
    by_cases h : settings.depthLimit = 0 <;> simp [h]
  omega

/-! ## Variables -/

/-- The variable that holds the date pattern. -/
def dateVariable : String := "JSONFORM_DATE_FORMAT"

/-- The variable that holds the pattern of dates with a time. -/
def dateTimeVariable : String := "JSONFORM_DATETIME_FORMAT"

/-- The variable that turns suggestions on. -/
def suggestVariable : String := "JSONFORM_ENUM_SUGGESTER"

/-- The variable that limits the depth. -/
def depthVariable : String := "JSONFORM_MAX_DEPTH"

/-- Read a truth value from one of its common words. -/
def readFlag (name value : String) : Except SettingsError Bool :=
  let word := String.ofList ((Text.trim value.toList).map Char.toLower)
  if ["1", "true", "yes", "on"].contains word then .ok true
  else if ["0", "false", "no", "off", ""].contains word then .ok false
  else .error (.notBoolean name value)

/-- Read a depth. -/
def readDepth (name value : String) : Except SettingsError Nat :=
  match Text.Integer.read Text.Integer.unsigned64 (Text.trim value.toList) with
  | .ok n => .ok n.toNat
  | .error fault => .error (.notInteger name value fault)

/-- Settings from variables; what is not given keeps its default. -/
def ofLookup (lookup : String → Option String) : Except SettingsError Settings := do
  let defaults : Settings := {}
  let date := (lookup dateVariable).getD defaults.patterns.date
  let dateTime := (lookup dateTimeVariable).getD defaults.patterns.dateTime
  let suggestChoices ←
    match lookup suggestVariable with
    | some value => readFlag suggestVariable value
    | none => pure defaults.suggestChoices
  let depthLimit ←
    match lookup depthVariable with
    | some value => readDepth depthVariable value
    | none => pure defaults.depthLimit
  let settings : Settings := ⟨⟨date, dateTime⟩, suggestChoices, depthLimit⟩
  settings.check
  return settings

/-! ## Documents -/

/-- The names of the settings in documents, in order. -/
def keys : List String :=
  ["date_format", "datetime_format", "enum_suggester", "max_depth"]

/-- Replace a setting by the value that a document has for it. -/
def set? (settings : Settings) (key : String) (value : Json) : Option Settings :=
  match key with
  | "date_format" =>
      value.asString?.map fun s =>
        { settings with patterns := { settings.patterns with date := s } }
  | "datetime_format" =>
      value.asString?.map fun s =>
        { settings with patterns := { settings.patterns with dateTime := s } }
  | "enum_suggester" => value.asBool?.map fun b => { settings with suggestChoices := b }
  | "max_depth" => value.asNatural?.map fun n => { settings with depthLimit := n }
  | _ => none

/-- Settings from a document: an object with some of the keys, or a list of values in their
order. -/
def ofJson? : Json → Option Settings
  | .object entries => entries.foldlM (fun settings entry => settings.set? entry.1 entry.2) {}
  | .array items =>
      if items.length ≤ keys.length then
        (keys.zip items).foldlM (fun settings entry => settings.set? entry.1 entry.2) {}
      else none
  | _ => none

/-- The value for a setting whose scalar is not yet understood.  A text may be any scalar as it is
written. -/
def valueOfMarkup? (key : String) (value : Json.Markup) : Option Json :=
  match key, value with
  | "enum_suggester", .word word => (Json.Flow.bool? word).map .bool
  | "max_depth", .word word =>
      (Json.Flow.unsigned? word).map fun n => .number (.integer n)
  | "enum_suggester", _ => none
  | "max_depth", _ => none
  | _, .word word => some (.string (String.ofList word))
  | _, .quoted text => (Json.Flow.decode? text).map fun cs => .string (String.ofList cs)
  | _, _ => none

/-- Settings from a settings file: an object without repeated keys. -/
def ofMarkup? : Json.Markup → Option Settings
  | .mapping entries => do
      let entries ← entries.mapM fun entry => do
        let key := String.ofList (← Json.Flow.decode? entry.1)
        return (key, ← valueOfMarkup? key entry.2)
      if (Entries.names entries).eraseDups.length < entries.length then none
      else ofJson? (.object entries)
  | _ => none

/-- Settings from the text of a settings file. -/
def read? (text : String) : Option Settings :=
  (Json.Flow.markup? text).bind ofMarkup?

/-- Settings as a document. -/
def toJson (settings : Settings) : Json :=
  .object
    [("date_format", .string settings.patterns.date),
      ("datetime_format", .string settings.patterns.dateTime),
      ("enum_suggester", .bool settings.suggestChoices),
      ("max_depth", .number (.integer settings.depthLimit))]

/-! ## Defaults -/

/-- The default settings are sound. -/
theorem check_default : check {} = .ok () :=
  (check_eq_ok_iff {}).mpr (by decide)

end Settings
end SchemaForm
