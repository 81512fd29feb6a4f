import PassiveFtp.Duration
import PassiveFtp.Net.SocketAddress
import PassiveFtp.Text.Blank
import PassiveFtp.Text.Quoted

/-!
# Settings of the server

Every setting has a default that works, and settings from outside are checked
once, when they are loaded: whatever passes the check can be served with. The
check stops at the first fault and names the setting in its message.
-/

namespace PassiveFtp

/-- The settings a server runs with. -/
structure Settings where
  /-- IP address the control connection listens on -/
  bindAddress : String := "127.0.0.1"
  /-- port of the control connection -/
  controlPort : UInt16 := 2121
  /-- IPv4 address told to clients and bound for data; found out if unset -/
  pasvAddress : Option String := none
  /-- directory sessions start in and may not leave -/
  serverRoot : String := "."
  /-- the one account that may log in -/
  username : String := "cs317"
  /-- bytes sent at a time -/
  bufferSize : Nat := 1024
  /-- how long a transfer waits for its data connection, in seconds -/
  dataAcceptTimeoutSecs : Nat := 30
  /-- how many ports a passive request tries -/
  pasvBindAttempts : Nat := 8
  /-- greatest length of a control line, its end included -/
  maxCommandLength : Nat := 1024
  /-- whether one control connection is served at a time -/
  serializeSessions : Bool := false
deriving DecidableEq, Repr

/-- What can be wrong with settings. -/
inductive SettingsFault where
  | bindAddress (text : String)
  | pasvAddress (text : String)
  | serverRootEmpty
  | usernameEmpty
  | bufferSizeZero
  | dataAcceptTimeoutZero
  | pasvBindAttemptsZero
  | maxCommandLengthZero
deriving DecidableEq, Repr

/-- The text of a fault. -/
def SettingsFault.message : SettingsFault → String
  | .bindAddress text => "bind_address " ++ Text.quoted text ++ " is not an IP address"
  | .pasvAddress text => "pasv_address " ++ Text.quoted text ++ " is not an IPv4 address"
  | .serverRootEmpty => "server_root cannot be empty"
  | .usernameEmpty => "username cannot be empty"
  | .bufferSizeZero => "buffer_size must be greater than 0"
  | .dataAcceptTimeoutZero => "data_accept_timeout_secs must be greater than 0"
  | .pasvBindAttemptsZero => "pasv_bind_attempts must be greater than 0"
  | .maxCommandLengthZero => "max_command_length must be greater than 0"

namespace Settings

/-- The first fault of the settings, if there is one. -/
def fault? (s : Settings) : Option SettingsFault :=
  if !SocketAddress.isIpAddress s.bindAddress then some (.bindAddress s.bindAddress)
  else
    match s.pasvAddress.filter fun text => (Ipv4.parse? text).isNone with
    | some text => some (.pasvAddress text)
    | none =>
      if s.serverRoot.isEmpty then some .serverRootEmpty
      else if Text.allBlank s.username then some .usernameEmpty
      else if s.bufferSize = 0 then some .bufferSizeZero
      else if s.dataAcceptTimeoutSecs = 0 then some .dataAcceptTimeoutZero
      else if s.pasvBindAttempts = 0 then some .pasvBindAttemptsZero
      else if s.maxCommandLength = 0 then some .maxCommandLengthZero
      else none

/-- Settings that can be served with. -/
def Valid (s : Settings) : Prop :=
  s.fault? = none

instance (s : Settings) : Decidable s.Valid :=
  inferInstanceAs (Decidable (_ = none))

theorem valid_iff {s : Settings} :
    s.Valid ↔ SocketAddress.isIpAddress s.bindAddress = true ∧
      (∀ text, s.pasvAddress = some text → (Ipv4.parse? text).isSome = true) ∧
      s.serverRoot.isEmpty = false ∧ Text.allBlank s.username = false ∧ s.bufferSize ≠ 0 ∧
      s.dataAcceptTimeoutSecs ≠ 0 ∧ s.pasvBindAttempts ≠ 0 ∧ s.maxCommandLength ≠ 0 := by
  have hpasv : s.pasvAddress.filter (fun text => (Ipv4.parse? text).isNone) = none ↔
      ∀ text, s.pasvAddress = some text → (Ipv4.parse? text).isSome = true := by
    simp [Option.filter_eq_none_iff, Option.isSome_iff_ne_none]
  rw [Valid, fault?, ← hpasv]
  cases s.pasvAddress.filter (fun text => (Ipv4.parse? text).isNone) with
  | none => grind
  | some text => grind

theorem valid_default : ({} : Settings).Valid :=
  valid_iff.mpr ⟨by decide, nofun, by decide, by decide, by decide, by decide, by decide, by decide⟩

/-- The address and port of the control connection. -/
def controlSocket (s : Settings) : String :=
  s.bindAddress ++ ":" ++ Decimal.print s.controlPort.toNat

/-- The address for passive channels, if one is set and is one. -/
def pasvIp? (s : Settings) : Option Ipv4 :=
  s.pasvAddress.bind Ipv4.parse?

/-- How long a transfer waits for its data connection. -/
def dataAcceptTimeout (s : Settings) : Duration :=
  .ofSeconds s.dataAcceptTimeoutSecs

end Settings

end PassiveFtp
