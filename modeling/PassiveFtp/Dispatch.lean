import PassiveFtp.Login
import PassiveFtp.Navigation
import PassiveFtp.Request
import PassiveFtp.Session
import PassiveFtp.Transfer.File
import PassiveFtp.Transfer.Listing

/-!
# Dispatch: what one request does

A request turns a session into the next and has effects in a fixed order:
replies on the control connection, and listeners and data connections opened
and closed around them. Both are results here, so that a run of requests is a
fold and nothing happens behind its back.

Checks come in a fixed order too. A verb nobody knows is answered before
anything else is asked; logging in has rules of its own; every other verb needs
a login first and then the right number of spaces.
-/

namespace PassiveFtp

/-- What the outside contributes while one request is handled: the files, the
host's own address, the fate of each attempt to open a listener, who comes to
the pending one, how directories are listed, and what may keep a file from being
sent. -/
structure Conditions where
  tree : Tree
  interface : Option Ipv4 := none
  attempts : Nat → Attempt
  arrival : Arrival := .nobody
  lister : Lister := Listing.names
  fault : Option Transfer.FileFault := none

/-- Something a request does that can be seen from outside. -/
inductive Effect where
  /-- a reply is sent on the control connection -/
  | reply (reply : Reply)
  /-- a listener starts to wait -/
  | listening (channel : PassiveChannel)
  /-- a listener is closed -/
  | listenerClosed (channel : PassiveChannel)
  /-- these bytes have gone out on the data connection -/
  | sent (bytes : List UInt8)
  /-- the data connection is closed -/
  | dataClosed

/-- Whether the control connection stays open after a request. -/
inductive Afterwards where
  | readOn
  | close
  /-- it is lost, and so is all that was still to be done for the request -/
  | breakOff
deriving DecidableEq, Repr

/-- What a request comes to. -/
structure Outcome where
  session : Session
  effects : List Effect
  afterwards : Afterwards := .readOn

/-- The reply an effect is, if it is one. -/
def Effect.reply? : Effect → Option Reply
  | .reply r => some r
  | _ => none

namespace Outcome

/-- The replies among the effects, in order. -/
def replies (outcome : Outcome) : List Reply :=
  outcome.effects.filterMap Effect.reply?

/-- Nothing but a reply. -/
def saying (session : Session) (reply : Reply) : Outcome :=
  { session, effects := [.reply reply] }

end Outcome

namespace Dispatch

/-- Logs the session in if the name is that of the account. -/
def user (settings : Settings) (session : Session) (request : Request) : Outcome :=
  if session.loggedIn then .saying session (.plain .serviceReady)
  else
    match request.argument, request.spaces with
    | some name, 1 =>
      match Login.check settings name with
      | .ok () => .saying { session with loggedIn := true } (.plain .loggedIn)
      | .error e => .saying session e.reply
    | _, _ => .saying session (.plain .syntaxErrorInArguments)

/-- Ends the conversation. -/
def quit (session : Session) : Outcome :=
  { session, effects := [.reply (.plain .closingControlConnection)], afterwards := .close }

/-- Changes the working directory. -/
def cwd (conditions : Conditions) (session : Session) (target : String) : Outcome :=
  match Navigation.changeDirectory conditions.tree session.root session.cwd target with
  | .ok found => .saying { session with cwd := found } (.plain .fileActionOk)
  | .error e => .saying session (.plain e.replyCode)

/-- Changes to the directory above; the reply shows the one that was left. -/
def cdup (conditions : Conditions) (session : Session) : Outcome :=
  let shown := Navigation.virtualPath session.root session.cwd
  match Navigation.parentDirectory conditions.tree session.root session.cwd with
  | .ok parent => .saying { session with cwd := parent } (.coded .commandOk shown)
  | .error e => .saying session (.coded e.replyCode shown)

/-- The reply to a parameter code. -/
def negotiated {α : Type} : Negotiation α → Reply
  | .accepted _ => .plain .commandOk
  | .unimplemented => .plain .notImplementedForParameter
  | .invalid => .plain .syntaxErrorInArguments

/-- Chooses the representation type. -/
def type (session : Session) (code : String) : Outcome :=
  let answer := Representation.negotiate code
  match answer with
  | .accepted representation => .saying { session with representation } (negotiated answer)
  | _ => .saying session (negotiated answer)

/-- The effect of closing a listener, if there is one. -/
def closing (pending : Option PassiveChannel) : List Effect :=
  pending.toList.map .listenerClosed

/-- The listener a passive request gets, on the address that is set or else on the
host's own. -/
def allocation (settings : Settings) (conditions : Conditions) :
    Except TransferError PassiveChannel :=
  match settings.pasvIp?.or conditions.interface with
  | some ip => PassiveChannel.allocate ip settings.pasvBindAttempts conditions.attempts
  | none => .error .noInterfaceAddress

/-- Opens a passive channel in place of the one that may be pending. -/
def pasv (settings : Settings) (conditions : Conditions) (session : Session) : Outcome :=
  let closed := closing session.passive
  match allocation settings conditions with
  | .ok channel =>
    { session := { session with passive := some channel }
      effects := closed ++ [.listening channel, .reply channel.reply] }
  | .error e =>
    { session := { session with passive := none }
      effects := closed ++ [.reply (.plain e.replyCode)] }

/-- The data connection that the pending channel yields, if there is one. -/
def connection (settings : Settings) (conditions : Conditions) (session : Session) :
    Except TransferError Sink :=
  match session.passive with
  | some _ => conditions.arrival.accept settings.dataAcceptTimeout
  | none => .error .notInitialized

/-- Takes the pending channel for a transfer, which uses it up. The transfer
itself says what reply ends it and what the connection took. -/
def transfer (settings : Settings) (conditions : Conditions) (session : Session)
    (carryOut : Sink → Reply × Sink) : Outcome :=
  let after := { session with passive := none }
  let closed := closing session.passive
  match connection settings conditions session with
  | .ok sink =>
    let (last, sink) := carryOut sink
    { session := after
      effects := closed ++ [.reply (.plain .aboutToOpenDataConnection),
        .sent sink.received, .dataClosed, .reply last] }
  | .error e => { session := after, effects := closed ++ [.reply (.plain e.replyCode)] }

/-- Sends the file a name resolves to over a data connection. -/
def fetch (settings : Settings) (conditions : Conditions) (session : Session)
    (target : String) (sink : Sink) : Reply × Sink :=
  match Navigation.resolveFile conditions.tree session.root session.cwd target with
  | .ok found =>
    let (outcome, sink) :=
      Transfer.sendFile conditions.tree found settings.bufferSize conditions.fault sink
    (outcome.reply, sink)
  | .error e => ((FileOutcome.openFailed e).reply, sink)

/-- Sends a file. -/
def retr (settings : Settings) (conditions : Conditions) (session : Session)
    (target : String) : Outcome :=
  transfer settings conditions session (fetch settings conditions session target)

/-- Sends the listing of the working directory over a data connection. -/
def list (conditions : Conditions) (session : Session) (sink : Sink) : Reply × Sink :=
  let (outcome, sink) := conditions.lister conditions.tree session.cwd sink
  (outcome.reply, sink)

/-- Sends the names in the working directory. -/
def nlst (settings : Settings) (conditions : Conditions) (session : Session) : Outcome :=
  transfer settings conditions session (list conditions session)

/-- Gives a request's argument to a verb that cannot do without. -/
def withArgument (session : Session) (request : Request) (act : String → Outcome) : Outcome :=
  match request.argument with
  | some argument => act argument
  | none => .saying session (.plain .syntaxErrorInArguments)

/-- Handles a request that no check holds back. -/
def handle (settings : Settings) (conditions : Conditions) (session : Session)
    (request : Request) : Outcome :=
  match request.verb with
  | .user => user settings session request
  | .quit => quit session
  | .cwd => withArgument session request (cwd conditions session)
  | .cdup => cdup conditions session
  | .type => withArgument session request (type session)
  | .mode => withArgument session request fun code =>
      .saying session (negotiated (TransferMode.negotiate code))
  | .stru => withArgument session request fun code =>
      .saying session (negotiated (FileStructure.negotiate code))
  | .pasv => pasv settings conditions session
  | .retr => withArgument session request (retr settings conditions session)
  | .nlst => nlst settings conditions session
  | .unknown _ => .saying session (.plain .commandUnrecognized)

end Dispatch

/-- The reply to a request that is not let through: a login comes first, the
number of spaces second. Logging in and unknown verbs need neither. -/
def Dispatch.refusal? (session : Session) (request : Request) : Option Reply :=
  match request.verb with
  | .user | .unknown _ => none
  | verb =>
    if !session.loggedIn then some (.plain .notLoggedIn)
    else if verb.spaces? ≠ some request.spaces then some (.plain .syntaxErrorInArguments)
    else none

/-- Handles a request, or says why it is not handled. -/
def dispatch (settings : Settings) (conditions : Conditions) (session : Session)
    (request : Request) : Outcome :=
  match Dispatch.refusal? session request with
  | some refusal => .saying session refusal
  | none => Dispatch.handle settings conditions session request

/-- The data connection of a request whose file is open when it turns out that
there cannot be a buffer for it. -/
def Dispatch.unbuffered? (settings : Settings) (conditions : Conditions) (session : Session)
    (request : Request) : Option Sink :=
  match refusal? session request, request.verb, request.argument,
    connection settings conditions session with
  | none, .retr, some target, .ok sink =>
    match Navigation.resolveFile conditions.tree session.root session.cwd target with
    | .ok found =>
      match Transfer.sendFile? conditions.tree found settings.bufferSize conditions.fault sink with
      | none => some sink
      | some _ => none
    | .error _ => none
  | _, _, _, _ => none

/-- Handles a request with the buffers there can be. Without one for its file a
transfer breaks off after it was announced, and takes its connections with
it. -/
def dispatchInTask (settings : Settings) (conditions : Conditions) (session : Session)
    (request : Request) : Outcome :=
  match Dispatch.unbuffered? settings conditions session request with
  | some sink =>
    { session := { session with passive := none }
      effects := Dispatch.closing session.passive ++
        [.reply (.plain .aboutToOpenDataConnection), .sent sink.received, .dataClosed]
      afterwards := .breakOff }
  | none => dispatch settings conditions session request

end PassiveFtp
