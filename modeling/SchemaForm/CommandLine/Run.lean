import SchemaForm.CommandLine.Arguments
import SchemaForm.CommandLine.Documents
import SchemaForm.Outline

/-!
# Running the command

What the command prints and with which code it ends, as a function of its
arguments, the files and variables it sees and the machine it runs on.
-/

namespace SchemaForm
namespace CommandLine

/-- How the command ends. -/
structure Outcome where
  exit : Nat
  output : String
  /-- What is logged as an error. -/
  error : Option String
deriving DecidableEq, Repr

namespace Outcome

/-- An end without an error. -/
def success (exit : Nat) (output : String) : Outcome :=
  ⟨exit, output, none⟩

/-- An end by an error; a breakdown leaves nothing in the log. -/
def failure (error : CommandError) : Outcome :=
  if error.isBreakdown then ⟨101, "", none⟩ else ⟨2, "", some error.message⟩

/-- The end of a computation. -/
def ofExcept : Except CommandError Outcome → Outcome
  | .ok outcome => outcome
  | .error error => failure error

end Outcome

/-- The version line. -/
def versionText : String := "jsonform 0.1.0\n"

/-- The help text. -/
def helpText : String :=
  String.intercalate "\n"
    ["Compile JSON Schemas into form Field Models and check data against them", "",
      "Usage: jsonform [OPTIONS] <COMMAND>", "",
      "Commands:",
      "  inspect  Compile a schema and print the field tree",
      "  check    Validate a data document against a schema", "",
      "Options:",
      "  -v, --verbose          Enable verbose output",
      "      --config <CONFIG>  Form configuration file (YAML)",
      "  -h, --help             Print help",
      "  -V, --version          Print version", ""]

/-- The form of a schema file. -/
def formOf (files : Files) (settings : Settings) (schema : String) :
    Except CommandError Form := do
  let document ← readDocument files schema
  (Form.compile .standard settings document).mapError (.refusedSchema schema)

/-- Print a form. -/
def inspect (files : Files) (settings : Settings) (schema : String) (asJson : Bool) :
    Except CommandError Outcome := do
  let form ← formOf files settings schema
  if asJson then return .success 0 (form.toJson.pretty 0 ++ "\n")
  else return .success 0 (← form.outline.mapError .noWidget)

/-- Check a document against a form. -/
def check (around : Surroundings) (files : Files) (settings : Settings) (schema data : String)
    (normalize : Bool) : Except CommandError Outcome := do
  let form ← formOf files settings schema
  let native ← readDocument files data
  let report ← (Report.ofData around form native normalize).mapError (.refusedData data)
  return .success (if report.isValid then 0 else 1) report.text

/-- Run an action. -/
def runAction (around : Surroundings) (files : Files) (settings : Settings) :
    Action → Except CommandError Outcome
  | .inspect schema asJson => inspect files settings schema asJson
  | .check schema data normalize => check around files settings schema data normalize

/-- Run the command. -/
def run (around : Surroundings) (files : Files) (lookup : String → Option String)
    (arguments : List String) : Outcome :=
  match Request.ofArguments arguments with
  | .version => .success 0 versionText
  | .help => .success 0 helpText
  | .misuse => ⟨2, "", none⟩
  | .run settings action =>
      .ofExcept do
        let settings ← settingsOf files lookup settings
        runAction around files settings action

/-! ## What the command needs to know -/

/-- The files that the command may read. -/
def filesOf (arguments : List String) : List String :=
  match Request.ofArguments arguments with
  | .run settings (.inspect schema _) => settings.toList ++ [schema]
  | .run settings (.check schema data _) => settings.toList ++ [schema, data]
  | _ => []

/-- The paths that the rules of a form may ask about. -/
def pathsOf (files : Files) (lookup : String → Option String) (arguments : List String) :
    List String :=
  match Request.ofArguments arguments with
  | .run settings (.check schema data _) =>
      let draft : Except CommandError Draft := do
        let settings ← settingsOf files lookup settings
        let form ← formOf files settings schema
        let native ← readDocument files data
        (form.load native).mapError fun error => .refusedData data (.unfit error)
      match draft with
      | .ok draft => draft.texts
      | .error _ => []
  | _ => []

end CommandLine
end SchemaForm
