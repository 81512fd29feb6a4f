import PassiveFtp.Control.Conversation
import PassiveFtp.ServerError
import PassiveFtp.Settings

/-!
# The server: many conversations over one root

A server finds its root once, when it starts, and gives every client that
connects a session of its own. Either all clients are served side by side, or
each waits until the one before it is done; what a client sends while it waits
is kept. Whichever it is, what a client is told depends on nothing but its own
lines and on what the outside contributes to each.
-/

namespace PassiveFtp

/-- A line a client has sent, and what the outside contributes to its answer. -/
structure SentLine where
  frame : Frame
  conditions : Conditions

/-- A client that has connected. -/
structure Connection where
  client : SocketAddress
  /-- what has been sent and not been answered yet -/
  inbox : List SentLine := []
  /-- whether nothing more will be sent -/
  hasLeft : Bool := false
  /-- the conversation with the client, once it has begun -/
  conversation : Option Conversation := none

namespace Connection

/-- Answers lines until the conversation is no longer open. -/
def answerLines (settings : Settings) (client : SocketAddress) :
    Conversation → List SentLine → Conversation
  | c, [] => c
  | c, sent :: rest =>
    match c.afterwards with
    | .close | .breakOff => c
    | .readOn =>
      answerLines settings client
        (c.answerBy (dispatchInTask settings) client (fun _ => sent.conditions) sent.frame) rest

/-- Begins the conversation if it has not begun, and answers what has been
sent. -/
def serve (settings : Settings) (root : Path) (connection : Connection) : Connection :=
  let begun := connection.conversation.getD (Conversation.start settings (.start root) {})
  { connection with
    inbox := []
    conversation := some (answerLines settings connection.client begun connection.inbox) }

/-- Whether the server is done with a client: its conversation is closed, or it
has left and everything is answered. The server never is with one whose
conversation has broken off; if it waits for it, it is lost with it. -/
def isDone (connection : Connection) : Bool :=
  match connection.conversation with
  | some c =>
    match c.afterwards with
    | .readOn => connection.hasLeft && connection.inbox.isEmpty
    | .close => true
    | .breakOff => false
  | none => false

/-- Takes note of a line. From a client that has left nothing more comes. -/
def receive (connection : Connection) (sent : SentLine) : Connection :=
  if connection.hasLeft then connection
  else { connection with inbox := connection.inbox ++ [sent] }

end Connection

/-- Something that happens to a server. -/
inductive ServerEvent where
  | connected (client : SocketAddress)
  | received (client : SocketAddress) (sent : SentLine)
  | left (client : SocketAddress)

/-- A server and everybody who has connected to it, in order of arrival. -/
structure Server where
  settings : Settings
  root : Path
  connections : List Connection := []

namespace Server

/-- Starts a server: the root has to be a directory, and the control socket has
to come without an error. -/
def start (tree : Tree) (settings : Settings) (socket : Except IoError Unit) :
    Except ServerError Server := do
  let root ← (tree.canonicalize (.ofString settings.serverRoot)).mapError
    (.root settings.serverRoot)
  if tree.isDir root then
    socket.mapError (.binding settings.controlSocket)
    return { settings, root }
  else throw (.root settings.serverRoot (.other "not a directory"))

/-- Serves everybody. -/
def serveAll (server : Server) (connections : List Connection) : List Connection :=
  connections.map (·.serve server.settings server.root)

/-- Serves one after the other, up to the first that is not done. -/
def serveInTurn (server : Server) : List Connection → List Connection
  | [] => []
  | connection :: rest =>
    let served := connection.serve server.settings server.root
    if served.isDone then served :: serveInTurn server rest else served :: rest

/-- Serves whoever is to be served now. -/
def serve (server : Server) : Server :=
  let serveThem := if server.settings.serializeSessions then server.serveInTurn
    else server.serveAll
  { server with connections := serveThem server.connections }

/-- Changes the connection of a client. -/
def update (server : Server) (client : SocketAddress) (change : Connection → Connection) :
    Server :=
  { server with
    connections := server.connections.map fun c => if c.client = client then change c else c }

/-- The connection of a client. -/
def find? (server : Server) (client : SocketAddress) : Option Connection :=
  server.connections.find? fun c => c.client = client

/-- Takes note of an event. -/
def note (server : Server) : ServerEvent → Server
  | .connected client => { server with connections := server.connections ++ [{ client }] }
  | .received client sent => server.update client (·.receive sent)
  | .left client => server.update client fun c => { c with hasLeft := true }

/-- The server after an event. -/
def step (server : Server) (event : ServerEvent) : Server :=
  (server.note event).serve

/-- The server after a run of events. -/
def run (server : Server) (events : List ServerEvent) : Server :=
  events.foldl step server

end Server

end PassiveFtp
