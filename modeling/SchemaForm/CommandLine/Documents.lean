import SchemaForm.Json.Flow
import SchemaForm.Path
import SchemaForm.Report

/-!
# Documents of the command

The files that the command reads: schemas, data and settings.  The extension of
a name says in which notation a document is written.
-/

namespace SchemaForm
namespace CommandLine

/-- Why the command gives up. -/
inductive CommandError where
  | noDocument (file : String)
  | badJson (file : String)
  | badYaml (file : String)
  | noSettings (file : String)
  | badSettings (file : String)
  | refusedSettings (file : String) (error : SettingsError)
  | refusedVariables (error : SettingsError)
  | refusedSchema (file : String) (error : SchemaError)
  | refusedData (file : String) (error : ReportError)
  /-- The form has a default that no widget can show. -/
  | noWidget (error : DataError)

namespace CommandError

/-- The wording of an error. -/
def message : CommandError → String
  | .noDocument file => s!"failed to read {file}"
  | .badJson file => s!"failed to parse JSON in {file}"
  | .badYaml file => s!"failed to parse YAML in {file}"
  | .noSettings file => s!"failed to read config {file}"
  | .badSettings file => s!"failed to parse config {file}"
  | .refusedSettings file error => s!"invalid config {file}: {error.message}"
  | .refusedVariables error => s!"invalid JSONFORM_* environment: {error.message}"
  | .refusedSchema file error => s!"failed to compile {file}: {error.message}"
  | .refusedData file error => s!"failed to check {file}: {error.message}"
  | .noWidget error => error.message

/-- Whether a date that cannot be written has broken off the command. -/
def isBreakdown : CommandError → Bool
  | .refusedData _ error => error.cause.isUnwritable
  | .noWidget error => error.isUnwritable
  | _ => false

end CommandError

/-- The contents of the files that are there, by path. -/
abbrev Files := String → Option String

/-- Whether a path names a document in YAML. -/
def isYaml (path : String) : Bool :=
  match Path.extension? path with
  | some extension => extension == "yaml".toList || extension == "yml".toList
  | none => false

/-- Read a document. -/
def readDocument (files : Files) (path : String) : Except CommandError Json :=
  match files path with
  | none => .error (.noDocument path)
  | some text =>
      if isYaml path then
        match Json.Flow.read? text with
        | some value => .ok value
        | none => .error (.badYaml path)
      else
        match Json.read? text with
        | some value => .ok value
        | none => .error (.badJson path)

/-- Read a settings file. -/
def readSettings (files : Files) (path : String) : Except CommandError Settings :=
  match files path with
  | none => .error (.noSettings path)
  | some text =>
      match Settings.read? text with
      | none => .error (.badSettings path)
      | some settings =>
          match settings.check with
          | .ok () => .ok settings
          | .error error => .error (.refusedSettings path error)

/-- The settings of a file, or else those of the variables. -/
def settingsOf (files : Files) (lookup : String → Option String) :
    Option String → Except CommandError Settings
  | some path => readSettings files path
  | none => (Settings.ofLookup lookup).mapError .refusedVariables

end CommandLine
end SchemaForm
