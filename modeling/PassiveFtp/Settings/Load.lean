import PassiveFtp.Settings
import PassiveFtp.Settings.Json
import PassiveFtp.Settings.Layers
import PassiveFtp.Settings.Toml

/-!
# Loading settings

A file is named by whoever starts the server, and then it has to be there, or
it is looked for under a fixed name. Its values come after the defaults and
before those of the environment. Each setting is converted on its own and from
the value that won, so a value that lost may be of any type; only then is the
whole checked.
-/

namespace PassiveFtp

/-- Why settings could not be loaded. -/
inductive LoadError where
  /-- there is no such file, or none whose name tells its format -/
  | noFile (name : String)
  | malformed (name : String)
  | mismatch (setting : String) (mismatch : Mismatch) (origin : Option String)
  | fault (fault : SettingsFault)
deriving DecidableEq, Repr

/-- The text of a failure to load. -/
def LoadError.reason : LoadError → String
  | .noFile name => "no configuration file " ++ Text.quoted name
  | .malformed name => "configuration file " ++ Text.quoted name ++ " is malformed"
  | .mismatch setting types origin =>
    let place := (origin.map (" in " ++ ·)).getD ""
    "invalid type: " ++ types.found ++ ", expected " ++ types.wanted ++ " for key `"
      ++ setting ++ "`" ++ place
  | .fault found => found.message

/-! ## Files -/

/-- A format of settings. -/
inductive SettingsFormat where
  | toml
  | json
deriving DecidableEq, Repr

namespace SettingsFormat

/-- The end of a file name that stands for the format. -/
def extension : SettingsFormat → String
  | .toml => "toml"
  | .json => "json"

/-- The formats, in the order they are looked for. -/
def all : List SettingsFormat :=
  [.toml, .json]

/-- What follows the last point of the last part of a file name; a point in
front does not count. -/
def extension? (file : String) : Option (List Char) :=
  let last := (file.toList.splitOn '/').getLast?.getD []
  match (last.splitOn '.').reverse with
  | ending :: next :: rest =>
    if (next.isEmpty && rest.isEmpty) || last = ['.', '.'] then none else some ending
  | _ => none

/-- The format that a file name tells. -/
def ofFile? (file : String) : Option SettingsFormat :=
  all.find? fun format => extension? file == some format.extension.toList

/-- The outermost keys of a text with their values, if it is well formed. -/
def read? : SettingsFormat → String → Option (List (String × Value))
  | .toml => Toml.read?
  | .json => Json.read?

end SettingsFormat

/-- A file of settings: its name, its format and its text. -/
structure SettingsFile where
  name : String
  format : SettingsFormat
  text : String

namespace SettingsFile

/-- The name of the file that is looked for if none is given. -/
def defaultName : String := "solo-ftpd"

/-- The names under which a file may be found: its own, and with an extension
added. -/
def candidates (name : String) : List String :=
  name :: SettingsFormat.all.map fun format => name ++ "." ++ format.extension

/-- The file with exactly this name, or else the first with an extension added
to it. -/
def find? (read : String → Option String) (name : String) : Option SettingsFile :=
  match read name with
  | some text => (SettingsFormat.ofFile? name).map (⟨name, ·, text⟩)
  | none => SettingsFormat.all.findSome? fun format =>
      let name := name ++ "." ++ format.extension
      (read name).map (⟨name, format, ·⟩)

/-- The entries of a file. -/
def entries (file : SettingsFile) : Except LoadError (List Entry) :=
  match file.format.read? file.text with
  | some members => .ok (Entry.ofFile file.name members)
  | none => .error (.malformed file.name)

end SettingsFile

/-! ## Settings -/

namespace Settings

/-- The names of the settings. -/
def names : List String :=
  ["bind_address", "control_port", "pasv_address", "server_root", "username", "buffer_size",
    "data_accept_timeout_secs", "pasv_bind_attempts", "max_command_length", "serialize_sessions"]

/-- The value of one setting: converted if one was found, the default if
not. -/
def field {α : Type} (entries : List Entry) (name : String)
    (convert : Value → Except Mismatch α) (default : α) : Except LoadError α :=
  match Finding.find? name entries with
  | none => .ok default
  | some finding =>
    match convert finding.value with
    | .ok value => .ok value
    | .error types => .error (.mismatch name types finding.origin)

/-- A value as a port; only its lower sixteen binary digits count. -/
def toPort (value : Value) : Except Mismatch UInt16 :=
  value.toNat.map UInt16.ofNat

/-- A value as a text that may be unset. -/
def toOptionalText : Value → Except Mismatch (Option String)
  | .nothing => .ok none
  | value => value.toText.map some

/-- The settings that entries make, unchecked. -/
def ofEntries (entries : List Entry) : Except LoadError Settings := do
  let defaults : Settings := {}
  let bindAddress ← field entries "bind_address" Value.toText defaults.bindAddress
  let controlPort ← field entries "control_port" toPort defaults.controlPort
  let pasvAddress ← field entries "pasv_address" toOptionalText defaults.pasvAddress
  let serverRoot ← field entries "server_root" Value.toText defaults.serverRoot
  let username ← field entries "username" Value.toText defaults.username
  let bufferSize ← field entries "buffer_size" Value.toNat defaults.bufferSize
  let dataAcceptTimeoutSecs ←
    field entries "data_accept_timeout_secs" Value.toNat defaults.dataAcceptTimeoutSecs
  let pasvBindAttempts ← field entries "pasv_bind_attempts" Value.toNat defaults.pasvBindAttempts
  let maxCommandLength ← field entries "max_command_length" Value.toNat defaults.maxCommandLength
  let serializeSessions ←
    field entries "serialize_sessions" Value.toSwitch defaults.serializeSessions
  return { bindAddress, controlPort, pasvAddress, serverRoot, username, bufferSize,
           dataAcceptTimeoutSecs, pasvBindAttempts, maxCommandLength, serializeSessions }

/-- The settings themselves if they are valid. -/
def check (settings : Settings) : Except LoadError Settings :=
  match settings.fault? with
  | none => .ok settings
  | some found => .error (.fault found)

/-- The entries of the file in use. A file that is named has to be there. -/
def fileEntries (read : String → Option String) : Option String → Except LoadError (List Entry)
  | some name =>
    match SettingsFile.find? read name with
    | some file => file.entries
    | none => .error (.noFile name)
  | none =>
    match SettingsFile.find? read SettingsFile.defaultName with
    | some file => file.entries
    | none => .ok []

/-- Loads settings. The file to use may be named, `read` tells the text of the
files there are, and the environment is a list of variables. -/
def load (name : Option String) (read : String → Option String)
    (environment : List (String × String)) : Except LoadError Settings := do
  let fromFile ← fileEntries read name
  let settings ← ofEntries (fromFile ++ Entry.ofVariables environment)
  settings.check

end Settings

end PassiveFtp
