import PassiveFtp.Arguments
import PassiveFtp.Files.Edit
import PassiveFtp.Server
import PassiveFtp.Settings.Load

/-!
# The program

Reads the command line, the file of settings and the environment, and then
holds one conversation: control lines come from the standard input and replies
go to the standard output, as for a server that is started once per client. It
serves an empty root, and nobody connects to its passive channels.
-/

namespace PassiveFtp

/-- The text of a file, if it can be read. -/
def readIfPresent (name : String) : IO (Option String) := do
  try
    return some (← IO.FS.readFile name)
  catch _ => return none

/-- Those of the given names that belong to readable files, with their texts. -/
def readPresent (names : List String) : IO (List (String × String)) := do
  names.filterMapM fun name => return (← readIfPresent name).map (name, ·)

/-- The variables of the environment that are about settings. -/
def settingVariables : IO (List (String × String)) := do
  (Settings.names.map fun name => Entry.variableStart.toUpper ++ name.toUpper).filterMapM
    fun name => return (← IO.getEnv name).map (name, ·)

/-- Everything there is to read on a stream. -/
partial def readToEnd (stream : IO.FS.Stream) (before : List (List UInt8)) :
    IO (List (List UInt8)) := do
  let bytes ← stream.read 4096
  if bytes.isEmpty then return before.reverse else readToEnd stream (bytes.toList :: before)

/-- Holds a conversation on the standard streams. -/
def converse (settings : Settings) : IO Unit := do
  let root := Path.ofString "/"
  let reads ← readToEnd (← IO.getStdin) []
  let conditions : Conditions :=
    { tree := Tree.empty, attempts := fun _ => ⟨0, .bindFailed (.bare .addressNotAvailable)⟩ }
  let done := Conversation.hold settings (.v4 ⟨127, 0, 0, 1⟩ settings.controlPort)
    (fun _ => conditions) (.start root) {} { reads }
  let output ← IO.getStdout
  output.write ⟨done.writer.received.toArray⟩
  output.flush

end PassiveFtp

open PassiveFtp

/-- Starts from a command line. -/
def main (arguments : List String) : IO UInt32 := do
  match Arguments.parse arguments with
  | .error e =>
    IO.eprintln e.message
    return e.exitCode.toUInt32
  | .ok chosen =>
    let files ← readPresent (SettingsFile.candidates (chosen.config.getD SettingsFile.defaultName))
    let read (name : String) := (files.find? (·.1 == name)).map Prod.snd
    match Settings.load chosen.config read (← settingVariables) with
    | .error e =>
      IO.eprintln (ServerError.configuration e.reason).message
      return 1
    | .ok settings =>
      converse { settings with controlPort := chosen.port }
      return 0
