/-!
# Arguments

The arguments of the command: what to do with which files.  Options stand
anywhere among the file names, some of them before the name of the action as
well.
-/

namespace SchemaForm
namespace CommandLine

/-- What the command can do with a schema. -/
inductive Action where
  | inspect (schema : String) (asJson : Bool)
  | check (schema data : String) (normalize : Bool)
deriving DecidableEq, Repr

/-- What the arguments ask for. -/
inductive Request where
  | run (settings : Option String) (action : Action)
  | version
  | help
  /-- The arguments break a rule. -/
  | misuse
deriving DecidableEq, Repr

namespace Arguments

/-- The actions by name. -/
inductive ActionName where
  | inspect
  | check
deriving DecidableEq, Repr

/-- How many files an action takes. -/
def ActionName.fileCount : ActionName → Nat
  | .inspect => 1
  | .check => 2

/-- The arguments read so far. -/
structure State where
  action : Option ActionName := none
  /-- The settings file that is named before the action, and the one after it. -/
  outerSettings : Option String := none
  innerSettings : Option String := none
  asJson : Option Bool := none
  normalize : Bool := false
  /-- The file names, in reverse. -/
  files : List String := []
  /-- All that follows is a file name. -/
  plain : Bool := false

/-- What reading an argument leads to. -/
inductive Step where
  | next (state : State)
  | stop (request : Request)

/-- The text after a beginning, if a text has it. -/
def after? (start text : String) : Option String :=
  if start.toList.isPrefixOf text.toList then
    some (String.ofList (text.toList.drop start.toList.length))
  else none

/-- Whether an argument is an option; a single hyphen is none. -/
def isOption (argument : String) : Bool :=
  match argument.toList with
  | '-' :: _ :: _ => true
  | _ => false

/-- Take a settings file. -/
def takeSettings (state : State) (file : String) : Step :=
  if file.isEmpty then .stop .misuse
  else
    match state.action, state.outerSettings, state.innerSettings with
    | none, none, _ => .next { state with outerSettings := some file }
    | some _, _, none => .next { state with innerSettings := some file }
    | _, _, _ => .stop .misuse

/-- Take the form in which an action is to print. -/
def takeFormat (state : State) (format : String) : Step :=
  match state.action, state.asJson, format with
  | some .inspect, none, "text" => .next { state with asJson := some false }
  | some .inspect, none, "json" => .next { state with asJson := some true }
  | _, _, _ => .stop .misuse

/-- Take a file name, or the name of the action before all others. -/
def takeName (state : State) (name : String) : Step :=
  match state.action with
  | some action =>
      if name.isEmpty || action.fileCount ≤ state.files.length then .stop .misuse
      else .next { state with files := name :: state.files }
  | none =>
      if state.plain then .stop .misuse
      else
        match name with
        | "inspect" => .next { state with action := some .inspect }
        | "check" => .next { state with action := some .check }
        | "help" => .stop .help
        | _ => .stop .misuse

/-- Take the letters of short options. -/
def takeLetters (state : State) : List Char → Step
  | [] => .next state
  | 'v' :: rest => takeLetters state rest
  | 'h' :: _ => .stop .help
  | 'V' :: _ => .stop (if state.action.isNone then .version else .misuse)
  | _ => .stop .misuse

/-- Take an argument that needs no other one. -/
def take (state : State) (argument : String) : Step :=
  if state.plain || !isOption argument then takeName state argument
  else
    match argument with
    | "--" => .next { state with plain := true }
    | "--verbose" => .next state
    | "--help" => .stop .help
    | "--version" => .stop (if state.action.isNone then .version else .misuse)
    | "--normalize" =>
        if state.action = some .check ∧ state.normalize = false then
          .next { state with normalize := true }
        else .stop .misuse
    | argument =>
        match after? "--config=" argument, after? "--format=" argument, argument.toList with
        | some file, _, _ => takeSettings state file
        | _, some format, _ => takeFormat state format
        | _, _, '-' :: '-' :: _ => .stop .misuse
        | _, _, letters => takeLetters state letters.tail

/-- The request that all arguments together make. -/
def finish (state : State) : Request :=
  let settings := state.innerSettings.or state.outerSettings
  match state.action, state.files.reverse with
  | some .inspect, [schema] => .run settings (.inspect schema (state.asJson.getD false))
  | some .check, [schema, data] => .run settings (.check schema data state.normalize)
  | _, _ => .misuse

/-- Read arguments from a state on. -/
def readFrom : State → List String → Request
  | state, [] => finish state
  | state, argument :: rest =>
      if !state.plain && (argument == "--config" || argument == "--format") then
        match rest with
        | [] => .misuse
        | value :: rest =>
            let step :=
              if argument = "--config" then takeSettings state value else takeFormat state value
            if isOption value then .misuse
            else
              match step with
              | .next state => readFrom state rest
              | .stop request => request
      else
        match take state argument with
        | .next state => readFrom state rest
        | .stop request => request

end Arguments

/-- What arguments ask for. -/
def Request.ofArguments (arguments : List String) : Request :=
  Arguments.readFrom {} arguments

end CommandLine
end SchemaForm
