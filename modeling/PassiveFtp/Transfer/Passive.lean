import PassiveFtp.Duration
import PassiveFtp.Net.DataAddress
import PassiveFtp.Net.SocketAddress
import PassiveFtp.Reply
import PassiveFtp.Transfer.Sink

/-!
# Passive channels

For a transfer the client connects to an address the server tells it. A passive
channel is a listener on such an address that waits for one connection: it is
opened on a port picked at random, again and again if the port is taken, and
accepting uses it up whatever comes of it.

Which port is picked, whether the system lets it be bound and who connects are
not for the server to decide, so they are inputs here.
-/

namespace PassiveFtp

/-- Why there is no data connection. -/
inductive TransferError where
  | notInitialized
  | noInterfaceAddress
  | portBindingFailed (address : SocketAddress) (error : IoError)
  | listenerConfigurationFailed (error : IoError)
  | connectionTimeout (waited : Duration)
  | acceptFailed (error : IoError)

namespace TransferError

/-- The text of the failure. -/
def message : TransferError → String
  | .notInitialized => "No passive data channel has been requested"
  | .noInterfaceAddress => "No non-loopback IPv4 address available for passive mode"
  | .portBindingFailed address error =>
    "Failed to bind to " ++ address.print ++ ": " ++ error.message
  | .listenerConfigurationFailed error => "Failed to configure listener: " ++ error.message
  | .connectionTimeout waited =>
    "Timeout after " ++ waited.print ++ " waiting for data connection"
  | .acceptFailed error => "Failed to accept data connection: " ++ error.message

/-- The code that reports the failure: one for a transfer that found no
connection, another for an allocation that failed. -/
def replyCode : TransferError → ReplyCode
  | .notInitialized | .connectionTimeout _ | .acceptFailed _ => .cannotOpenDataConnection
  | .noInterfaceAddress | .portBindingFailed .. | .listenerConfigurationFailed _ =>
    .commandUnrecognized

end TransferError

/-- What became of one attempt to open a listener. -/
inductive Opening where
  | opened
  | bindFailed (error : IoError)
  | configurationFailed (error : IoError)

/-- One attempt to open a listener: the port that was picked and the outcome. -/
structure Attempt where
  port : UInt16
  opening : Opening

/-- Who came to a listener: a client, whose connection takes bytes like any
sink; nobody in time; or a connection that had already failed. -/
inductive Arrival where
  | connected (sink : Sink)
  | nobody
  | failed (error : IoError)

/-- The connection a listener yields when it waits no longer than `timeout`. -/
def Arrival.accept (timeout : Duration) : Arrival → Except TransferError Sink
  | .connected sink => .ok sink
  | .nobody => .error (.connectionTimeout timeout)
  | .failed e => .error (.acceptFailed e)

/-- A listener waiting for its one data connection. -/
structure PassiveChannel where
  address : DataAddress
deriving DecidableEq, Repr

namespace PassiveChannel

/-- Whether a port may be picked for a listener. -/
def mayPick (port : UInt16) : Bool :=
  1024 ≤ port && port < 65535

/-- Opens a listener. -/
def listen (ip : Ipv4) (attempt : Attempt) : Except TransferError PassiveChannel :=
  match attempt.opening with
  | .opened => .ok ⟨ip, attempt.port⟩
  | .bindFailed e => .error (.portBindingFailed (.v4 ip attempt.port) e)
  | .configurationFailed e => .error (.listenerConfigurationFailed e)

/-- Opens a listener with attempt number `next`, and with up to `more` after it
as long as ports turn out to be taken. -/
def allocateFrom (ip : Ipv4) (attempts : Nat → Attempt) (next : Nat) :
    Nat → Except TransferError PassiveChannel
  | 0 => listen ip (attempts next)
  | more + 1 =>
    match listen ip (attempts next) with
    | .error (.portBindingFailed ..) => allocateFrom ip attempts (next + 1) more
    | settled => settled

/-- Opens a listener in at most `limit` attempts, and at least one. -/
def allocate (ip : Ipv4) (limit : Nat) (attempts : Nat → Attempt) :
    Except TransferError PassiveChannel :=
  allocateFrom ip attempts 0 (limit - 1)

/-- The line that tells the client where to connect. -/
def reply (channel : PassiveChannel) : Reply :=
  .raw ("227 Entering Passive Mode (" ++ channel.address.tuple ++ ")\r\n")

end PassiveChannel

end PassiveFtp
