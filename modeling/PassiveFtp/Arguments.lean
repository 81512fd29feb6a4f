import PassiveFtp.Text.Decimal

/-!
# The command line

The port is the one argument that has to be there, and a configuration file is
the one option that may be. A value is looked at only when its turn is over:
when the next option begins, or the next position, or when the arguments end.
That decides which of two mistakes is reported, except that an argument nobody
knows is reported at once.
-/

namespace PassiveFtp

/-- What the command line asks for. -/
structure Arguments where
  port : UInt16
  config : Option String
deriving DecidableEq, Repr

/-- Why a command line starts no server. -/
inductive ArgumentError where
  | helpWanted
  | missingPort
  | invalidPort (text : String)
  | unknownArgument (text : String)
  | missingValue
  | repeatedOption
  | valueNotWanted (text : String)
deriving DecidableEq, Repr

/-- How the program is used. -/
def usage : String :=
  "A single-user passive-mode FTP server.\n\nUsage: solo-ftpd [OPTIONS] <PORT>\n\nArguments:\n"
    ++ "  <PORT>  Port the control connection listens on\n\nOptions:\n"
    ++ "  -c, --config <CONFIG>  Path to the configuration file\n"
    ++ "  -h, --help             Print help\n"

/-- The text of a refusal. -/
def ArgumentError.message : ArgumentError → String
  | .helpWanted => usage
  | .missingPort => "error: the port is missing"
  | .invalidPort text => "error: " ++ text ++ " is not a port in 1..=65535"
  | .unknownArgument text => "error: unexpected argument " ++ text
  | .missingValue => "error: the configuration file is missing"
  | .repeatedOption => "error: more than one configuration file"
  | .valueNotWanted text => "error: unexpected value " ++ text

/-- The exit code that goes with a refusal: being asked for help is not a
failure. -/
def ArgumentError.exitCode : ArgumentError → UInt8
  | .helpWanted => 0
  | _ => 2

namespace Arguments

/-- A value whose turn is not over. -/
inductive Pending where
  | nothing
  | port (text : String)
  | config (text : Option String)

/-- What has been read of a command line. -/
structure Progress where
  pending : Pending := .nothing
  hasPosition : Bool := false
  port : Option UInt16 := none
  config : Option String := none

/-- The port that a text spells; zero is none. -/
def port? (text : String) : Option UInt16 :=
  ((Decimal.read? 65535 text.toList).filter (· ≠ 0)).map UInt16.ofNat

namespace Progress

/-- Takes a value for the configuration file. -/
def takeConfig (text : String) (p : Progress) : Except ArgumentError Progress :=
  if p.config.isSome then .error .repeatedOption
  else if text.isEmpty then .error .missingValue
  else .ok { p with config := some text, pending := .nothing }

/-- Ends the turn of the pending value. -/
def settle (p : Progress) : Except ArgumentError Progress :=
  match p.pending with
  | .nothing => .ok p
  | .port text =>
    match port? text with
    | some port => .ok { p with port := some port, pending := .nothing }
    | none => .error (.invalidPort text)
  | .config (some text) => p.takeConfig text
  | .config none => .error .missingValue

/-- The option for the configuration file, with its value if that is
attached. -/
def configOption (p : Progress) (value : Option String) : Except ArgumentError Progress := do
  let p ← p.settle
  match value with
  | some text => p.takeConfig text
  | none => .ok { p with pending := .config none }

/-- The option that asks for help. -/
def helpOption (p : Progress) : Except ArgumentError Progress := do
  let _ ← p.settle
  .error .helpWanted

/-- An option that starts with two dashes, without them. -/
def longOption (p : Progress) (body : List Char) : Except ArgumentError Progress :=
  let name := String.ofList (body.takeWhile (· != '='))
  let value := match body.dropWhile (· != '=') with
    | [] => none
    | _ :: value => some (String.ofList value)
  match name, value with
  | "config", value => p.configOption value
  | "help", none => p.helpOption
  | "help", some text => .error (.valueNotWanted text)
  | _, _ => .error (.unknownArgument ("--" ++ String.ofList body))

/-- An option that starts with one dash, without it. -/
def shortOption (p : Progress) (body : List Char) : Except ArgumentError Progress :=
  match body with
  | 'h' :: _ => p.helpOption
  | 'c' :: [] => p.configOption none
  | 'c' :: '=' :: value => p.configOption (some (String.ofList value))
  | 'c' :: value => p.configOption (some (String.ofList value))
  | _ => .error (.unknownArgument ("-" ++ String.ofList body))

/-- An argument by position; there is one position. -/
def positional (p : Progress) (text : String) : Except ArgumentError Progress :=
  if p.hasPosition then .error (.unknownArgument text)
  else do
    let p ← p.settle
    .ok { p with pending := .port text, hasPosition := true }

/-- An argument that may be an option. -/
def argument (p : Progress) (text : String) : Except ArgumentError Progress :=
  match text.toList, p.pending with
  | '-' :: '-' :: body, _ => p.longOption body
  | '-' :: c :: body, _ => p.shortOption (c :: body)
  | _, .config none => .ok { p with pending := .config (some text) }
  | _, _ => p.positional text

/-- What the command line asks for once it has ended. -/
def finish (p : Progress) : Except ArgumentError Arguments := do
  let p ← p.settle
  match p.port with
  | some port => .ok { port, config := p.config }
  | none => .error .missingPort

end Progress

/-- Reads arguments; after two dashes on their own there are no options. -/
def readAll (p : Progress) : List String → Except ArgumentError Progress
  | [] => .ok p
  | "--" :: rest => rest.foldlM Progress.positional p
  | text :: rest => do
    let p ← p.argument text
    readAll p rest

/-- What a command line asks for. -/
def parse (arguments : List String) : Except ArgumentError Arguments := do
  let p ← readAll {} arguments
  p.finish

end Arguments

end PassiveFtp
