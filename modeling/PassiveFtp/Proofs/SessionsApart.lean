import Mathlib
import PassiveFtp.Proofs.OutsideUnseen
import PassiveFtp.Proofs.WorkingDirectory

/-!
# Sessions do not get into each other's way

A server keeps one list of connections, and every event goes through all of it.
Still, what a client is told depends on its own lines alone. Whatever came from
others in between, its conversation is the one that its own lines make when they
are answered in a row from the greeting on (`Connection.UpToDate`), and that is
the conversation it would have had with nobody else about.

Serving one after the other only changes when the lines are answered. A client
that has to wait has not been greeted, and once it is its turn it is told
everything at once. For that the turns have to be kept: whoever has been greeted
is preceded by clients that the server is done with (`Connection.InTurn`), so a
begun conversation is never passed over.
-/

namespace PassiveFtp

/-- The client that an event is about. -/
def ServerEvent.client : ServerEvent → SocketAddress
  | .connected client => client
  | .received client _ => client
  | .left client => client

/-- What a client does among some events. -/
def ServerEvent.own (client : SocketAddress) (events : List ServerEvent) : List ServerEvent :=
  events.filter fun event => event.client = client

/-- The lines that a client's events bring, up to its leaving. -/
def ServerEvent.lines : List ServerEvent → List SentLine
  | [] => []
  | .received _ sent :: rest => sent :: lines rest
  | .left _ :: _ => []
  | .connected _ :: rest => lines rest

/-- The same line, sent at moments at which the same happens outside over one
tree, save for the ports that are picked. -/
structure SentLine.Alike (tree : Tree) (sent other : SentLine) : Prop where
  frame : sent.frame = other.frame
  events : sent.conditions.SameEvents other.conditions
  sentTree : sent.conditions.tree = tree
  otherTree : other.conditions.tree = tree

/-- The same thing done by a client that is connected. -/
inductive ServerEvent.Alike (tree : Tree) : ServerEvent → ServerEvent → Prop
  | received {client : SocketAddress} {sent other : SentLine} :
      sent.Alike tree other → Alike tree (.received client sent) (.received client other)
  | left {client : SocketAddress} : Alike tree (.left client) (.left client)

/-- Conversations that agree but for ports. -/
structure Conversation.SameButPort (c d : Conversation) : Prop where
  session : c.session.SameButPort d.session
  trace : List.Forall₂ Effect.SameButPort c.trace.toList d.trace.toList
  dispatched : c.dispatched = d.dispatched
  afterwards : c.afterwards = d.afterwards
  requests : c.requests = d.requests

namespace Server

/-- The conversation with a client, if it has begun. -/
def conversation? (server : Server) (client : SocketAddress) : Option Conversation :=
  (server.find? client).bind (·.conversation)

end Server

/-! ## One tree looks like itself -/

theorem Tree.AlikeWithin.refl {tree : Tree} {root : Path} (h : tree.HasDirectory root root) :
    tree.AlikeWithin tree root where
  treeRoot := h
  peerRoot := h
  seen := by
    intro base target _ _ _
    by_cases hinside : ∃ found,
        tree.canonicalize (Navigation.clientPath root base target) = .ok found ∧ found.Within root
    · obtain ⟨found, hfound, hwithin⟩ := hinside
      obtain ⟨place, -, hreached, rfl⟩ := locate_of_canonicalize hfound
      obtain ⟨node, hnode, hlink⟩ := hreached.node
      have hfind := find_path hreached hnode
      refine .inside hwithin hfound hfound hfind hfind ?_
      cases node with
      | file content => exact .file
      | link target => exact absurd rfl (hlink target)
      | dir entries => exact .dir (.refl _)
    · have hhides : tree.Hides root (Navigation.clientPath root base target) :=
        fun found hfound hwithin => hinside ⟨found, hfound, hwithin⟩
      exact .outside hhides hhides

/-! ## Lines answered in a row -/

section
variable (settings : Settings) (serialize : Bool)

end

namespace Connection

variable (settings : Settings) (client : SocketAddress)

theorem answerLines_of_over {c : Conversation} (h : c.afterwards ≠ .readOn)
    (lines : List SentLine) : answerLines settings client c lines = c := by
  cases lines with
  | nil => rfl
  | cons sent rest =>
      rw [answerLines]
      cases hafter : c.afterwards with
      | readOn => exact absurd hafter h
      | close | breakOff => rfl

theorem answerLines_cons_of_readOn {c : Conversation} (h : c.afterwards = .readOn)
    (sent : SentLine) (rest : List SentLine) :
    answerLines settings client c (sent :: rest) =
      answerLines settings client
        (c.answerBy (dispatchInTask settings) client (fun _ => sent.conditions) sent.frame)
        rest := by
  rw [answerLines, h]

theorem answerLines_append (c : Conversation) (lines more : List SentLine) :
    answerLines settings client c (lines ++ more) =
      answerLines settings client (answerLines settings client c lines) more := by
  induction lines generalizing c with
  | nil => rfl
  | cons sent rest ih =>
      by_cases hopen : c.afterwards = .readOn
      · rw [List.cons_append, answerLines_cons_of_readOn settings client hopen,
          answerLines_cons_of_readOn settings client hopen, ih]
      · simp only [answerLines_of_over settings client hopen]

variable {settings client} {root : Path} {connection : Connection} {lines : List SentLine}

/-- A connection over which some lines have come, in a conversation of these
lines and no others if it has begun. -/
inductive UpToDate (settings : Settings) (root : Path) (lines : List SentLine)
    (connection : Connection) : Prop
  | waiting : connection.conversation = none → connection.inbox = lines →
      UpToDate settings root lines connection
  | begun : connection.inbox = [] →
      connection.conversation = some (answerLines settings connection.client
        (Conversation.start settings (.start root) {}) lines) →
      UpToDate settings root lines connection

/-- What serving may do to a connection: it is served, or passed over while it
waits. -/
def MayBeServed (settings : Settings) (root : Path) (before after : Connection) : Prop :=
  after = before.serve settings root ∨ after = before ∧ before.conversation = none

theorem UpToDate.step (h : connection.UpToDate settings root lines) {more : List SentLine}
    {noted after : Connection} (hclient : noted.client = connection.client)
    (hinbox : noted.inbox = connection.inbox ++ more)
    (hconversation : noted.conversation = connection.conversation)
    (hafter : MayBeServed settings root noted after) :
    after.UpToDate settings root (lines ++ more) := by
  cases h with
  | waiting hnone hlines =>
      rw [hnone] at hconversation
      rw [hlines] at hinbox
      obtain rfl | ⟨rfl, -⟩ := hafter
      · refine .begun rfl ?_
        simp only [serve, hconversation, hinbox, Option.getD_none]
      · exact .waiting hconversation hinbox
  | begun hnothing hbegun =>
      rw [hbegun] at hconversation
      rw [hnothing, List.nil_append] at hinbox
      obtain rfl | ⟨rfl, hnone⟩ := hafter
      · refine .begun rfl ?_
        simp only [serve, hconversation, hinbox, Option.getD_some, hclient, answerLines_append]
      · rw [hconversation] at hnone
        cases hnone

theorem isDone_serve (h : connection.isDone = true) :
    (connection.serve settings root).isDone = true := by
  simp only [isDone] at h ⊢
  split at h
  · next c hc =>
      simp only [serve, hc, Option.getD_some]
      split at h
      · next hopen =>
          obtain ⟨hleft, hempty⟩ := Bool.and_eq_true_iff.mp h
          simp only [List.isEmpty_iff.mp hempty, answerLines, hopen, hleft]
          rfl
      · next hclose =>
          have hover : c.afterwards ≠ .readOn := by simp [hclose]
          simp only [answerLines_of_over settings connection.client hover, hclose]
      · cases h
  · cases h

theorem client_receive (connection : Connection) (sent : SentLine) :
    (connection.receive sent).client = connection.client := by
  rw [receive]
  split <;> rfl

theorem conversation_receive (connection : Connection) (sent : SentLine) :
    (connection.receive sent).conversation = connection.conversation := by
  rw [receive]
  split <;> rfl

theorem isDone_receive (h : connection.isDone = true) (sent : SentLine) :
    (connection.receive sent).isDone = true := by
  rw [receive]
  split
  · exact h
  · next hstays =>
      simp only [isDone, hstays, Bool.false_and] at h ⊢
      exact h

theorem isDone_leave (h : connection.isDone = true) :
    { connection with hasLeft := true }.isDone = true := by
  simp only [isDone, Bool.true_and] at h ⊢
  split at h
  · split at h
    · exact (Bool.and_eq_true_iff.mp h).2
    · rfl
    · cases h
  · cases h

/-- Whoever has been greeted comes after clients the server is done with. -/
def InTurn (connections : List Connection) : Prop :=
  connections.Pairwise fun earlier later =>
    later.conversation.isSome = true → earlier.isDone = true

end Connection

namespace Server

open Connection

variable {server : Server} {client : SocketAddress} {connections : List Connection}

/-! ## Serving -/

theorem inTurn_serveInTurn (h : InTurn connections) : InTurn (server.serveInTurn connections) := by
  induction connections with
  | nil => exact h
  | cons connection rest ih =>
      obtain ⟨hfirst, hrest⟩ := List.pairwise_cons.mp h
      rw [serveInTurn]
      split
      · next hdone => exact List.pairwise_cons.mpr ⟨fun _ _ _ => hdone, ih hrest⟩
      · exact List.pairwise_cons.mpr
          ⟨fun later hlater hbegun => isDone_serve (hfirst later hlater hbegun), hrest⟩

theorem serveInTurn_mayBeServed (h : InTurn connections) :
    List.Forall₂ (MayBeServed server.settings server.root) connections
      (server.serveInTurn connections) := by
  induction connections with
  | nil => exact .nil
  | cons connection rest ih =>
      obtain ⟨hfirst, hrest⟩ := List.pairwise_cons.mp h
      rw [serveInTurn]
      split
      · exact .cons (.inl rfl) (ih hrest)
      · next hbusy =>
          refine .cons (.inl rfl) (List.forall₂_same.mpr fun later hlater => .inr ⟨rfl, ?_⟩)
          cases hbegun : later.conversation with
          | none => rfl
          | some c => exact absurd (isDone_serve (hfirst later hlater (by rw [hbegun]; rfl))) hbusy

theorem serveAll_mayBeServed (server : Server) (connections : List Connection) :
    List.Forall₂ (MayBeServed server.settings server.root) connections
      (server.serveAll connections) := by
  rw [serveAll, List.forall₂_map_right_iff]
  exact List.forall₂_same.mpr fun _ _ => .inl rfl

/-! ## One event

An event changes the connections of its own client, and what is done about it then
may change any of them. -/

/-- The connections of one client. -/
def ofClient (server : Server) (client : SocketAddress) : List Connection :=
  server.connections.filter fun connection => connection.client = client

theorem find?_of_ofClient {connection : Connection} (h : server.ofClient client = [connection]) :
    server.find? client = some connection := by
  rw [find?, ← List.head?_filter]
  exact congrArg List.head? h

/-- If clients take turns, the turns are kept. -/
def KeepsTurns (server : Server) : Prop :=
  server.settings.serializeSessions = true → InTurn server.connections

theorem ofClient_update (server : Server) (client other : SocketAddress)
    {change : Connection → Connection}
    (hclient : ∀ connection, (change connection).client = connection.client) :
    (server.update other change).ofClient client =
      if other = client then (server.ofClient client).map change else server.ofClient client := by
  have hkeeps : ((fun connection => decide (connection.client = client)) ∘
      fun connection => if connection.client = other then change connection else connection) =
        fun connection => decide (connection.client = client) := by
    funext connection
    simp only [Function.comp_apply]
    split
    · rw [hclient]
    · rfl
  simp only [ofClient, update, List.filter_map, hkeeps]
  split
  · next hsame =>
      refine List.map_congr_left fun connection hconnection => if_pos ?_
      rw [hsame]
      simpa using (List.mem_filter.mp hconnection).2
  · next hother =>
      refine (List.map_congr_left fun connection hconnection => if_neg ?_).trans (List.map_id' _)
      intro hsame
      exact hother (hsame.symm.trans (by simpa using (List.mem_filter.mp hconnection).2))

theorem ofClient_note_of_ne {event : ServerEvent} (h : event.client ≠ client) (server : Server) :
    (server.note event).ofClient client = server.ofClient client := by
  cases event with
  | connected other =>
      have hother : other ≠ client := h
      simp [note, ofClient, hother]
  | received other sent =>
      refine (ofClient_update server client other ?_).trans (if_neg h)
      exact fun connection => client_receive connection sent
  | left other =>
      refine (ofClient_update server client other ?_).trans (if_neg h)
      exact fun _ => rfl

theorem KeepsTurns.note (h : server.KeepsTurns) (event : ServerEvent) :
    (server.note event).KeepsTurns := by
  -- what is noted of a connection neither begins it nor takes back that it is done
  have hchanged : ∀ (other : SocketAddress) {change : Connection → Connection},
      (∀ connection, (change connection).conversation = connection.conversation ∧
        (connection.isDone = true → (change connection).isDone = true)) →
      (server.update other change).KeepsTurns := by
    intro other change hchange hserialize
    refine List.pairwise_map.mpr ((h hserialize).imp fun {earlier later} hdone hbegun => ?_)
    have hlater : later.conversation.isSome = true := by
      split at hbegun
      · rwa [(hchange later).1] at hbegun
      · exact hbegun
    split
    · exact (hchange earlier).2 (hdone hlater)
    · exact hdone hlater
  cases event with
  | connected client =>
      intro hserialize
      refine List.pairwise_append.mpr ⟨h hserialize, List.pairwise_singleton _ _, ?_⟩
      intro earlier _ later hlater hbegun
      rw [List.mem_singleton.mp hlater] at hbegun
      cases hbegun
  | received client sent =>
      exact hchanged client fun connection =>
        ⟨conversation_receive connection sent, fun hdone => isDone_receive hdone sent⟩
  | left client =>
      exact hchanged client fun connection => ⟨rfl, isDone_leave⟩

theorem KeepsTurns.serve (h : server.KeepsTurns) : server.serve.KeepsTurns := by
  intro hserialize
  have hserialize' : server.settings.serializeSessions = true := hserialize
  simp only [Server.serve, hserialize', if_true]
  exact inTurn_serveInTurn (h hserialize')

theorem serve_mayBeServed (h : server.KeepsTurns) :
    List.Forall₂ (MayBeServed server.settings server.root) server.connections
      server.serve.connections := by
  cases hserialize : server.settings.serializeSessions with
  | true =>
      simp only [serve, hserialize, if_true]
      exact serveInTurn_mayBeServed (h hserialize)
  | false =>
      simp only [serve, hserialize, Bool.false_eq_true, if_false]
      exact serveAll_mayBeServed server server.connections

theorem ofClient_serve (h : server.KeepsTurns) (client : SocketAddress) :
    List.Forall₂ (MayBeServed server.settings server.root) (server.ofClient client)
      (server.serve.ofClient client) := by
  refine List.rel_filter (fun before after hserved => ?_) (serve_mayBeServed h)
  obtain rfl | ⟨rfl, -⟩ := hserved
  · rfl
  · rfl

/-- A server with one connection of a client, over which some lines have come, and
which the client has left or not. -/
def Serves (server : Server) (client : SocketAddress) (lines : List SentLine)
    (hasLeft : Bool) : Prop :=
  ∃ connection, server.ofClient client = [connection] ∧ connection.client = client ∧
    connection.hasLeft = hasLeft ∧ connection.UpToDate server.settings server.root lines

theorem KeepsTurns.step (h : server.KeepsTurns) (event : ServerEvent) :
    (server.step event).KeepsTurns :=
  (h.note event).serve

theorem settings_note (server : Server) (event : ServerEvent) :
    (server.note event).settings = server.settings ∧ (server.note event).root = server.root := by
  cases event <;> exact ⟨rfl, rfl⟩

/-- A client's one connection is still its one connection after an event, and up
to date if what was noted of it is what it has sent. -/
theorem serves_step (hturns : server.KeepsTurns) {event : ServerEvent}
    {connection noted : Connection} (hnoted : (server.note event).ofClient client = [noted])
    (hclient : connection.client = client) (hsame : noted.client = connection.client)
    {lines more : List SentLine}
    (hupToDate : connection.UpToDate server.settings server.root lines)
    (hinbox : noted.inbox = connection.inbox ++ more)
    (hconversation : noted.conversation = connection.conversation) :
    (server.step event).Serves client (lines ++ more) noted.hasLeft := by
  have hserved := ofClient_serve (hturns.note event) client
  rw [hnoted, List.forall₂_cons_left_iff] at hserved
  obtain ⟨after, rest, hafter, hrest, hall⟩ := hserved
  rw [List.forall₂_nil_left_iff.mp hrest] at hall
  obtain ⟨hsettings, hroot⟩ := settings_note server event
  rw [hsettings, hroot] at hafter
  refine ⟨after, hall, ?_, ?_, ?_⟩
  · obtain rfl | ⟨rfl, -⟩ := hafter
    · exact hsame.trans hclient
    · exact hsame.trans hclient
  · obtain rfl | ⟨rfl, -⟩ := hafter
    · rfl
    · rfl
  · show after.UpToDate (server.note event).settings (server.note event).root (lines ++ more)
    rw [hsettings, hroot]
    exact hupToDate.step hsame hinbox hconversation hafter

/-- What an event adds to a client's lines is the difference between the lines
that are still to come before it and after it. -/
theorem Serves.step {lines : List SentLine} {hasLeft : Bool}
    (h : server.Serves client lines hasLeft) (hturns : server.KeepsTurns) {event : ServerEvent}
    (hevent : event ≠ .connected client) :
    ∃ more left, (server.step event).Serves client (lines ++ more) left ∧
      ∀ rest, (if hasLeft then [] else ServerEvent.lines (ServerEvent.own client (event :: rest))) =
        more ++ if left then [] else ServerEvent.lines (ServerEvent.own client rest) := by
  obtain ⟨connection, honly, hclient, rfl, hupToDate⟩ := h
  by_cases hown : event.client = client
  · have howns : ∀ rest, ServerEvent.own client (event :: rest) =
        event :: ServerEvent.own client rest := by
      intro rest
      exact List.filter_cons_of_pos (by simpa using hown)
    cases event with
    | connected other => exact absurd (congrArg ServerEvent.connected hown) hevent
    | received other sent =>
        have hnoted : (server.note (.received other sent)).ofClient client =
            [connection.receive sent] := by
          refine (ofClient_update server client other ?_).trans
            ((if_pos hown).trans (by rw [honly]; rfl))
          exact fun connection => client_receive connection sent
        cases hleft : connection.hasLeft with
        | true =>
            have hsame : connection.receive sent = connection := if_pos hleft
            rw [hsame] at hnoted
            have hserves := serves_step hturns hnoted hclient rfl hupToDate
              (List.append_nil _).symm rfl
            rw [hleft] at hserves
            exact ⟨[], true, hserves, fun rest => rfl⟩
        | false =>
            have hmore : connection.receive sent =
                { connection with inbox := connection.inbox ++ [sent] } :=
              if_neg (by simp [hleft])
            rw [hmore] at hnoted
            have hserves := serves_step hturns hnoted hclient rfl hupToDate rfl rfl
            rw [hleft] at hserves
            refine ⟨[sent], false, hserves, fun rest => ?_⟩
            rw [howns]
            rfl
    | left other =>
        have hnoted : (server.note (.left other)).ofClient client =
            [{ connection with hasLeft := true }] := by
          refine (ofClient_update server client other ?_).trans
            ((if_pos hown).trans (by rw [honly]; rfl))
          exact fun _ => rfl
        refine ⟨[], true, serves_step hturns hnoted hclient rfl hupToDate
          (List.append_nil _).symm rfl, fun rest => ?_⟩
        rw [howns]
        exact ite_self []
  · have hnoted : (server.note event).ofClient client = [connection] :=
      (ofClient_note_of_ne hown server).trans honly
    refine ⟨[], connection.hasLeft, serves_step hturns hnoted hclient rfl hupToDate
      (List.append_nil _).symm rfl, fun rest => ?_⟩
    have hskips : ServerEvent.own client (event :: rest) = ServerEvent.own client rest :=
      List.filter_cons_of_neg (by simpa using hown)
    rw [hskips, List.nil_append]

/-! ## Runs -/

theorem Serves.run {lines : List SentLine} {hasLeft : Bool}
    (h : server.Serves client lines hasLeft) (hturns : server.KeepsTurns)
    {events : List ServerEvent} (hevents : .connected client ∉ events) :
    ∃ left, (server.run events).Serves client
      (lines ++ if hasLeft then [] else ServerEvent.lines (ServerEvent.own client events))
      left := by
  induction events generalizing server lines hasLeft with
  | nil =>
      have hnone : (if hasLeft then [] else ServerEvent.lines (ServerEvent.own client [])) = [] :=
        ite_self []
      rw [hnone, List.append_nil]
      exact ⟨hasLeft, h⟩
  | cons event rest ih =>
      obtain ⟨hfirst, hrest⟩ := not_or.mp (mt List.mem_cons.mpr hevents)
      obtain ⟨more, left, hnext, hsplit⟩ := h.step hturns (Ne.symm hfirst)
      rw [hsplit rest, ← List.append_assoc]
      exact ih hnext (hturns.step event) hrest

/-- A begun conversation is that of the client's own lines. -/
theorem Serves.conversation {lines : List SentLine} {hasLeft : Bool}
    (h : server.Serves client lines hasLeft) {c : Conversation}
    (hc : server.conversation? client = some c) :
    c = answerLines server.settings client
      (Conversation.start server.settings (.start server.root) {}) lines := by
  obtain ⟨connection, honly, hclient, -, hupToDate⟩ := h
  rw [conversation?, find?_of_ofClient honly, Option.bind_some] at hc
  cases hupToDate with
  | waiting hnone =>
      rw [hnone] at hc
      cases hc
  | begun _ hbegun =>
      rw [hbegun, hclient] at hc
      exact (Option.some.inj hc).symm

end Server

end PassiveFtp
