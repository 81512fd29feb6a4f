import PassiveFtp.Control.Frame
import PassiveFtp.Dispatch

/-!
# Conversations: one control connection from greeting to end

A conversation greets, then answers one line after the other until a line
closes it or there are no more. Sending a reply may fail; that is noticed by
nobody but the client, so the writer and the log are carried along and never
looked at. Lines and replies are logged as they pass, a reply only once it is
out.

Buffers are what a conversation may lack. `Conversation.run` has all of them,
and `Conversation.hold` those there can be: it is what the program does, and the
same as `run` where the settings ask for no more.
-/

namespace PassiveFtp

/-- A line of the log about the control connection. -/
inductive LogEntry where
  | request (client : SocketAddress) (line : String)
  | reply (line : String)

/-- The text of a log entry; a reply is logged without the white space it ends
with. -/
def LogEntry.text : LogEntry → String
  | .request client line => client.print ++ " --> " ++ line
  | .reply line => "<-- " ++ String.ofList (Text.trimEnd line.toList)

/-- How far a conversation has come. -/
structure Conversation where
  session : Session
  writer : Sink
  log : Array LogEntry := #[]
  /-- everything the requests have done, in order -/
  trace : Array Effect := #[]
  /-- how many lines have been dispatched -/
  dispatched : Nat := 0
  afterwards : Afterwards := .readOn

namespace Conversation

/-- The reply to a line that is too long. -/
def tooLong : Reply :=
  .coded .commandUnrecognized "Command too long."

/-- Sends a reply, or as much of it as goes out. -/
def say (c : Conversation) (reply : Reply) : Conversation :=
  let line := reply.encode
  match c.writer.send (Utf8.ofString line) with
  | (.ok (), writer) => { c with writer, log := c.log.push (.reply line) }
  | (.error _, writer) => { c with writer }

/-- Lets an effect happen: a reply is sent, everything else has happened. -/
def perform (c : Conversation) (effect : Effect) : Conversation :=
  let c := { c with trace := c.trace.push effect }
  match effect.reply? with
  | some reply => c.say reply
  | none => c

/-- The line a received one stands for, its bytes read as text. -/
def lineOf (bytes : List UInt8) : String :=
  Request.stripEnd (Utf8.toStringLossy bytes)

/-- A way to handle requests. -/
abbrev Handler := Conditions → Session → Request → Outcome

/-- Answers one line, with a given way to handle requests. -/
def answerBy (handle : Handler) (client : SocketAddress) (world : Nat → Conditions)
    (c : Conversation) : Frame → Conversation
  | .overlong _ => c.perform (.reply tooLong)
  | .line bytes =>
    let line := lineOf bytes
    let outcome := handle (world c.dispatched) c.session (Request.parse line)
    let c := { c with log := c.log.push (.request client line) }
    let c := outcome.effects.foldl perform c
    { c with
      session := outcome.session
      dispatched := c.dispatched + 1
      afterwards := outcome.afterwards }

/-- Answers lines until the conversation is no longer open. -/
def answerAllBy (handle : Handler) (client : SocketAddress) (world : Nat → Conditions) :
    Conversation → List Frame → Conversation
  | c, [] => c
  | c, frame :: rest =>
    let c := c.answerBy handle client world frame
    match c.afterwards with
    | .readOn => c.answerAllBy handle client world rest
    | .close | .breakOff => c

/-- Answers one line, with a buffer for every file. -/
def answer (settings : Settings) : SocketAddress → (Nat → Conditions) → Conversation → Frame →
    Conversation :=
  answerBy (dispatch settings)

/-- Answers lines until one closes the conversation, with a buffer for every
file. -/
def answerAll (settings : Settings) : SocketAddress → (Nat → Conditions) → Conversation →
    List Frame → Conversation :=
  answerAllBy (dispatch settings)

/-- A conversation that has just greeted. -/
def greet (session : Session) (writer : Sink) : Conversation :=
  Conversation.perform { session, writer } (.reply (.plain .serviceReady))

/-- A whole conversation with all the buffers it asks for: what `world n` tells
holds while the line number `n` is dispatched. -/
def run (settings : Settings) (client : SocketAddress) (world : Nat → Conditions)
    (session : Session) (writer : Sink) (incoming : Incoming) : Conversation :=
  (greet session writer).answerAll settings client world
    (incoming.frames settings.maxCommandLength)

/-- The beginning of a conversation: a greeting, unless there cannot be a buffer
for its lines. -/
def start (settings : Settings) (session : Session) (writer : Sink) : Conversation :=
  if Buffer.Fits settings.maxCommandLength then greet session writer
  else { session, writer, afterwards := .breakOff }

/-- A whole conversation with the buffers there can be. -/
def hold (settings : Settings) (client : SocketAddress) (world : Nat → Conditions)
    (session : Session) (writer : Sink) (incoming : Incoming) : Conversation :=
  let started := start settings session writer
  match started.afterwards with
  | .readOn => started.answerAllBy (dispatchInTask settings) client world
      (incoming.frames settings.maxCommandLength)
  | .close | .breakOff => started

end Conversation

end PassiveFtp
