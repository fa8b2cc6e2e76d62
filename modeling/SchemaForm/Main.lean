import SchemaForm.CommandLine.Run
import Std.Time.DateTime.Timestamp

/-!
# The command

Reads the files and variables that the arguments call for, runs the command on
them and prints what it says.
-/

namespace SchemaForm
namespace Main

/-- The content of a file, if it can be read. -/
def contentOf (path : String) : IO (Option String) := do
  try
    return some (← IO.FS.readFile path)
  catch _ =>
    return none

/-- Whether a path leads to a file, and whether it leads to a directory. -/
def statusOf (path : String) : IO (Bool × Bool) := do
  try
    let place ← IO.FS.realPath path
    let isDirectory ← place.isDir
    return (!isDirectory && (← place.pathExists), isDirectory)
  catch _ =>
    return (false, false)

/-- The moment in universal time. -/
def now : IO (Option Calendar.DateTime) := do
  let timestamp ← Std.Time.Timestamp.now
  return Calendar.DateTime.ofTimestamp? timestamp.toSecondsSinceUnixEpoch.val

/-- Run the command on the files, variables and clock of the machine. -/
def perform (arguments : List String) : IO CommandLine.Outcome := do
  let contents ← (CommandLine.filesOf arguments).mapM fun path => do
    return (path, ← contentOf path)
  let files : CommandLine.Files := fun path => (List.lookup path contents).join
  let names :=
    [Settings.dateVariable, Settings.dateTimeVariable, Settings.suggestVariable,
      Settings.depthVariable]
  let values ← names.mapM fun name => do
    return (name, ← IO.getEnv name)
  let lookup (name : String) := (List.lookup name values).join
  let statuses ← (CommandLine.pathsOf files lookup arguments).mapM fun path => do
    return (path, ← statusOf path)
  let home ← IO.getEnv "HOME"
  let moment ← now
  let around : Surroundings :=
    { isFile := fun path => (List.lookup path statuses).any Prod.fst
      isDirectory := fun path => (List.lookup path statuses).any Prod.snd
      hasHome := home.any fun path => !path.isEmpty
      today := fun pattern =>
        match moment with
        | some moment => Calendar.exampleText moment pattern
        | none => pattern }
  return CommandLine.run around files lookup arguments

end Main
end SchemaForm

/-- The command. -/
def main (arguments : List String) : IO UInt32 := do
  let outcome ← SchemaForm.Main.perform arguments
  IO.print outcome.output
  match outcome.error with
  | some message => IO.eprintln ("ERROR " ++ message)
  | none => pure ()
  return outcome.exit.toUInt32
