import Mathlib
import PassiveFtp.Proofs.AlikeTrees
import PassiveFtp.Proofs.Conversations

/-!
# Nothing outside the root can be observed

Run one conversation over two trees that look alike from the root, with the same
lines and the same connections: the client cannot tell which one it is talking
to. Everything it is sent on either connection is the same, save the ports that
were picked for listeners, and so is the session that is left.

The two runs are kept side by side. Their sessions agree but for a port, so they
stand in the same directory, and that is a directory in both trees because each
run keeps to its own. One request then does the same on both sides: what depends
on the tree is answered alike, and what depends on a port is the passive reply
and the listeners themselves.
-/

namespace PassiveFtp

/-- Sessions that agree but for the port of a pending channel. -/
structure Session.SameButPort (s t : Session) : Prop where
  root : s.root = t.root
  cwd : s.cwd = t.cwd
  loggedIn : s.loggedIn = t.loggedIn
  representation : s.representation = t.representation
  passive : s.passive.map (·.address.ip) = t.passive.map (·.address.ip)

/-- Effects that agree but for the port of a listener or of the reply that tells
it. -/
inductive Effect.SameButPort : Effect → Effect → Prop
  | reply {reply : Reply} : SameButPort (.reply reply) (.reply reply)
  | told {ip : Ipv4} {port other : UInt16} :
      SameButPort (.reply (PassiveChannel.reply ⟨⟨ip, port⟩⟩))
        (.reply (PassiveChannel.reply ⟨⟨ip, other⟩⟩))
  | listening {ip : Ipv4} {port other : UInt16} :
      SameButPort (.listening ⟨⟨ip, port⟩⟩) (.listening ⟨⟨ip, other⟩⟩)
  | listenerClosed {ip : Ipv4} {port other : UInt16} :
      SameButPort (.listenerClosed ⟨⟨ip, port⟩⟩) (.listenerClosed ⟨⟨ip, other⟩⟩)
  | sent {bytes : List UInt8} : SameButPort (.sent bytes) (.sent bytes)
  | dataClosed : SameButPort .dataClosed .dataClosed

/-- Outcomes that agree but for ports. -/
structure Outcome.SameButPort (o p : Outcome) : Prop where
  session : o.session.SameButPort p.session
  effects : List.Forall₂ Effect.SameButPort o.effects p.effects
  afterwards : o.afterwards = p.afterwards

/-- Moments at which the same happens outside, apart from the tree and the ports
that are picked, and directories are listed by name. -/
structure Conditions.SameEvents (c d : Conditions) : Prop where
  interface : c.interface = d.interface
  openings : ∀ n, (c.attempts n).opening = (d.attempts n).opening
  arrival : c.arrival = d.arrival
  fault : c.fault = d.fault
  lister : c.lister = Listing.names
  peerLister : d.lister = Listing.names

/-- Two sessions that agree but for a port, in a directory of two trees that look
alike from their root. -/
structure Session.SideBySide (tree peer : Tree) (s t : Session) : Prop where
  same : s.SameButPort t
  alike : tree.AlikeWithin peer s.root
  treeCwd : tree.HasDirectory s.root s.cwd
  peerCwd : peer.HasDirectory s.root s.cwd

/-! ## Listeners -/

/-- The same openings make the same of an allocation, on whatever ports. -/
theorem PassiveChannel.allocateFrom_same (ip : Ipv4) {attempts others : Nat → Attempt}
    (h : ∀ n, (attempts n).opening = (others n).opening) (next more : Nat) :
    (∃ port other, allocateFrom ip attempts next more = .ok ⟨⟨ip, port⟩⟩ ∧
      allocateFrom ip others next more = .ok ⟨⟨ip, other⟩⟩) ∨
    ∃ e e', allocateFrom ip attempts next more = .error e ∧
      allocateFrom ip others next more = .error e' := by
  induction more generalizing next with
  | zero =>
      simp only [allocateFrom, listen, ← h next]
      cases (attempts next).opening with
      | opened => exact .inl ⟨_, _, rfl, rfl⟩
      | bindFailed e => exact .inr ⟨_, _, rfl, rfl⟩
      | configurationFailed e => exact .inr ⟨_, _, rfl, rfl⟩
  | succ more ih =>
      simp only [allocateFrom, listen, ← h next]
      cases (attempts next).opening with
      | opened => exact .inl ⟨_, _, rfl, rfl⟩
      | bindFailed e => exact ih (next + 1)
      | configurationFailed e => exact .inr ⟨_, _, rfl, rfl⟩

section
variable (settings : Settings) {c d : Conditions} {s t : Session} (request : Request)

theorem Dispatch.allocation_same (h : c.SameEvents d) :
    (∃ ip port other, allocation settings c = .ok ⟨⟨ip, port⟩⟩ ∧
      allocation settings d = .ok ⟨⟨ip, other⟩⟩) ∨
    ∃ e e', allocation settings c = .error e ∧ allocation settings d = .error e' := by
  simp only [allocation, ← h.interface]
  cases settings.pasvIp?.or c.interface with
  | none => exact .inr ⟨_, _, rfl, rfl⟩
  | some ip =>
      obtain ⟨port, other, hport, hother⟩ | hfailed :=
        PassiveChannel.allocateFrom_same ip h.openings 0 (settings.pasvBindAttempts - 1)
      · exact .inl ⟨ip, port, other, hport, hother⟩
      · exact .inr hfailed

theorem Dispatch.closing_same (h : s.SameButPort t) :
    List.Forall₂ Effect.SameButPort (closing s.passive) (closing t.passive) := by
  have hpassive := h.passive
  cases hs : s.passive with
  | none =>
      rw [hs, Option.map_none, eq_comm, Option.map_eq_none_iff] at hpassive
      rw [hpassive]
      exact .nil
  | some channel =>
      rw [hs, Option.map_some, eq_comm, Option.map_eq_some_iff] at hpassive
      obtain ⟨other, ht, hip⟩ := hpassive
      obtain ⟨⟨ip, port⟩⟩ := channel
      obtain ⟨⟨ip', port'⟩⟩ := other
      obtain rfl : ip' = ip := hip
      rw [ht]
      exact .cons .listenerClosed .nil

theorem Dispatch.connection_same (hevents : c.SameEvents d) (h : s.SameButPort t) :
    connection settings c s = connection settings d t := by
  have hpassive : s.passive.isSome = t.passive.isSome := by
    rw [← Option.isSome_map, h.passive, Option.isSome_map]
  simp only [connection, hevents.arrival]
  cases hs : s.passive <;> cases ht : t.passive
  · rfl
  · simp [hs, ht] at hpassive
  · simp [hs, ht] at hpassive
  · rfl

/-! ## One request -/

theorem Session.SameButPort.moved (h : s.SameButPort t) (p : Path) :
    Session.SameButPort { s with cwd := p } { t with cwd := p } :=
  ⟨h.root, rfl, h.loggedIn, h.representation, h.passive⟩

theorem Outcome.SameButPort.saying (h : s.SameButPort t) (reply : Reply) :
    (Outcome.saying s reply).SameButPort (.saying t reply) :=
  ⟨h, .cons .reply .nil, rfl⟩

namespace Dispatch

/-- A target leads both sessions to what opens alike, or neither anywhere. -/
theorem resolveFile_same (h : Session.SideBySide c.tree d.tree s t) (target : String) :
    (∃ found, Navigation.resolveFile c.tree s.root s.cwd target = .ok found ∧
      Navigation.resolveFile d.tree t.root t.cwd target = .ok found ∧
      ∀ fault, Transfer.openFile c.tree found fault = Transfer.openFile d.tree found fault) ∨
    ∃ e e', Navigation.resolveFile c.tree s.root s.cwd target = .error e ∧
      Navigation.resolveFile d.tree t.root t.cwd target = .error e' := by
  rw [← h.same.root, ← h.same.cwd]
  cases hfound : Navigation.resolveFile c.tree s.root s.cwd target with
  | ok found =>
      obtain ⟨hsame, node, other, hnode, hother, halike⟩ :=
        Navigation.resolveFile_alike h.alike h.treeCwd h.peerCwd hfound
      exact .inl ⟨found, rfl, hsame, Transfer.openFile_alike hnode hother halike⟩
  | error e =>
      cases hother : Navigation.resolveFile d.tree s.root s.cwd target with
      | ok found =>
          rw [(Navigation.resolveFile_alike h.alike.symm h.peerCwd h.treeCwd hother).1] at hfound
          cases hfound
      | error e' => exact .inr ⟨e, e', rfl, rfl⟩

theorem fetch_same (hevents : c.SameEvents d) (h : Session.SideBySide c.tree d.tree s t)
    (target : String) (sink : Sink) :
    fetch settings c s target sink = fetch settings d t target sink := by
  obtain ⟨found, hfound, hother, hopens⟩ | ⟨e, e', he, he'⟩ := resolveFile_same h target
  · simp only [fetch, hfound, hother, Transfer.sendFile, hopens, hevents.fault]
  · simp only [fetch, he, he']
    rfl

theorem list_same (hevents : c.SameEvents d) (h : Session.SideBySide c.tree d.tree s t)
    (sink : Sink) : list c s sink = list d t sink := by
  simp only [list, hevents.lister, hevents.peerLister, ← h.same.cwd]
  rw [Listing.names_alike h.alike h.treeCwd h.peerCwd]

theorem transfer_same (hevents : c.SameEvents d) (h : s.SameButPort t)
    {carryOut other : Sink → Reply × Sink} (hcarry : ∀ sink, carryOut sink = other sink) :
    (transfer settings c s carryOut).SameButPort (transfer settings d t other) := by
  have hafter : Session.SameButPort { s with passive := none } { t with passive := none } :=
    ⟨h.root, h.cwd, h.loggedIn, h.representation, rfl⟩
  rw [transfer, transfer, connection_same settings hevents h]
  cases connection settings d t with
  | error e => exact ⟨hafter, List.rel_append (closing_same h) (.cons .reply .nil), rfl⟩
  | ok sink =>
      simp only [hcarry sink]
      refine ⟨hafter, List.rel_append (closing_same h) ?_, rfl⟩
      exact .cons .reply (.cons .sent (.cons .dataClosed (.cons .reply .nil)))

theorem user_same (h : s.SameButPort t) :
    (user settings s request).SameButPort (user settings t request) := by
  have hadmitted : Session.SameButPort { s with loggedIn := true } { t with loggedIn := true } :=
    ⟨h.root, h.cwd, rfl, h.representation, h.passive⟩
  simp only [user, ← h.loggedIn]
  split
  · exact .saying h _
  · split
    · split
      · exact .saying hadmitted _
      · exact .saying h _
    · exact .saying h _

theorem cwd_same (h : Session.SideBySide c.tree d.tree s t) (target : String) :
    (cwd c s target).SameButPort (cwd d t target) := by
  have hplace : Navigation.changeDirectory d.tree t.root t.cwd target =
      Navigation.changeDirectory d.tree s.root s.cwd target := by rw [h.same.root, h.same.cwd]
  rw [cwd, cwd, hplace]
  cases hfound : Navigation.changeDirectory c.tree s.root s.cwd target with
  | ok found =>
      rw [Navigation.changeDirectory_alike h.alike h.treeCwd h.peerCwd hfound]
      exact .saying (h.same.moved _) _
  | error e =>
      cases hother : Navigation.changeDirectory d.tree s.root s.cwd target with
      | ok found =>
          rw [Navigation.changeDirectory_alike h.alike.symm h.peerCwd h.treeCwd hother] at hfound
          cases hfound
      | error e' =>
          simp only [Navigation.replyCode_of_changeDirectory hfound,
            Navigation.replyCode_of_changeDirectory hother]
          exact .saying h.same _

theorem cdup_same (h : Session.SideBySide c.tree d.tree s t) :
    (cdup c s).SameButPort (cdup d t) := by
  have hshown : Navigation.virtualPath t.root t.cwd = Navigation.virtualPath s.root s.cwd := by
    rw [h.same.root, h.same.cwd]
  have habove : Navigation.parentDirectory d.tree t.root t.cwd =
      Navigation.parentDirectory c.tree s.root s.cwd := by
    rw [Navigation.parentDirectory_alike h.treeCwd.canonical h.peerCwd.canonical, h.same.root,
      h.same.cwd]
  simp only [cdup, hshown, habove]
  cases Navigation.parentDirectory c.tree s.root s.cwd with
  | ok parent =>
      exact .saying (h.same.moved _) _
  | error e => exact .saying h.same _

theorem type_same (h : s.SameButPort t) (code : String) :
    (type s code).SameButPort (type t code) := by
  have hchosen : ∀ representation, Session.SameButPort { s with representation }
      { t with representation } :=
    fun _ => ⟨h.root, h.cwd, h.loggedIn, rfl, h.passive⟩
  simp only [type]
  split
  · exact .saying (hchosen _) _
  · exact .saying h _

theorem pasv_same (hevents : c.SameEvents d) (h : s.SameButPort t) :
    (pasv settings c s).SameButPort (pasv settings d t) := by
  simp only [pasv]
  obtain ⟨ip, port, other, hport, hother⟩ | ⟨e, e', he, he'⟩ :=
    allocation_same settings hevents
  · rw [hport, hother]
    exact ⟨⟨h.root, h.cwd, h.loggedIn, h.representation, rfl⟩,
      List.rel_append (closing_same h) (.cons .listening (.cons .told .nil)), rfl⟩
  · rw [he, he']
    simp only [replyCode_of_allocation he, replyCode_of_allocation he']
    exact ⟨⟨h.root, h.cwd, h.loggedIn, h.representation, rfl⟩,
      List.rel_append (closing_same h) (.cons .reply .nil), rfl⟩

theorem withArgument_same (h : s.SameButPort t) {act other : String → Outcome}
    (hact : ∀ argument, (act argument).SameButPort (other argument)) :
    (withArgument s request act).SameButPort (withArgument t request other) := by
  simp only [withArgument]
  split
  · exact hact _
  · exact .saying h _

theorem handle_same (hevents : c.SameEvents d) (h : Session.SideBySide c.tree d.tree s t) :
    (handle settings c s request).SameButPort (handle settings d t request) := by
  rw [handle, handle]
  cases request.verb with
  | user => exact user_same settings request h.same
  | quit => exact ⟨h.same, .cons .reply .nil, rfl⟩
  | cwd => exact withArgument_same request h.same (cwd_same h)
  | cdup => exact cdup_same h
  | type => exact withArgument_same request h.same (type_same h.same)
  | mode => exact withArgument_same request h.same fun code => .saying h.same _
  | stru => exact withArgument_same request h.same fun code => .saying h.same _
  | pasv => exact pasv_same settings hevents h.same
  | retr =>
      exact withArgument_same request h.same fun target =>
        transfer_same settings hevents h.same (fetch_same settings hevents h target)
  | nlst => exact transfer_same settings hevents h.same (list_same hevents h)
  | unknown word => exact .saying h.same _

end Dispatch

theorem dispatch_same (hevents : c.SameEvents d) (h : Session.SideBySide c.tree d.tree s t) :
    (dispatch settings c s request).SameButPort (dispatch settings d t request) := by
  have hrefusal : Dispatch.refusal? s request = Dispatch.refusal? t request := by
    simp only [Dispatch.refusal?, h.same.loggedIn]
  rw [dispatch, dispatch, hrefusal]
  cases Dispatch.refusal? t request with
  | some refusal => exact .saying h.same refusal
  | none => exact Dispatch.handle_same settings request hevents h

theorem hasDirectory_dispatch (h : c.tree.HasDirectory s.root s.cwd) :
    let next := (dispatch settings c s request).session
    next.root = s.root ∧ c.tree.HasDirectory s.root next.cwd := by
  intro next
  obtain ⟨hroot, hwithin⟩ : next.Inside s.root := Session.Inside.dispatch ⟨rfl, h.within⟩
  obtain ⟨hcanonical, hdir⟩ : next.Settled c.tree := Session.Settled.dispatch ⟨h.canonical, h.isDir⟩
  exact ⟨hroot, hcanonical, hdir, hwithin⟩

/-- A way to handle requests that does the same in sessions side by side, and
leaves them so. -/
def Conversation.Handler.KeepsSideBySide (handle : Handler) : Prop :=
  ∀ {c d : Conditions} {s t : Session} (request : Request), c.SameEvents d →
    Session.SideBySide c.tree d.tree s t →
      (handle c s request).SameButPort (handle d t request) ∧
        Session.SideBySide c.tree d.tree (handle c s request).session (handle d t request).session

/-- Each side keeps to a directory of its own tree; that it is the same one is
known once the sessions agree. -/
theorem Session.SideBySide.next {next other : Session} (h : Session.SideBySide c.tree d.tree s t)
    (hsame : next.SameButPort other)
    (htree : next.root = s.root ∧ c.tree.HasDirectory s.root next.cwd)
    (hpeer : other.root = t.root ∧ d.tree.HasDirectory t.root other.cwd) :
    Session.SideBySide c.tree d.tree next other := by
  obtain ⟨hroot, htreeCwd⟩ := htree
  refine ⟨hsame, ?_, ?_, ?_⟩
  · rw [hroot]
    exact h.alike
  · rw [hroot]
    exact htreeCwd
  · rw [hroot, hsame.cwd, h.same.root]
    exact hpeer.2

theorem Session.SideBySide.peerDirectory (h : Session.SideBySide c.tree d.tree s t) :
    d.tree.HasDirectory t.root t.cwd :=
  h.same.root ▸ h.same.cwd ▸ h.peerCwd

theorem keepsSideBySide_dispatch : Conversation.Handler.KeepsSideBySide (dispatch settings) := by
  intro c d s t request hevents h
  have hsame := dispatch_same settings request hevents h
  exact ⟨hsame, h.next hsame.session (hasDirectory_dispatch settings request h.treeCwd)
    (hasDirectory_dispatch settings request h.peerDirectory)⟩

end

namespace Conversation

/-- Two conversations that have come equally far over two trees that look alike,
and have done the same but for ports. -/
structure SideBySide (tree peer : Tree) (c d : Conversation) : Prop where
  session : Session.SideBySide tree peer c.session d.session
  trace : List.Forall₂ Effect.SameButPort c.trace.toList d.trace.toList
  dispatched : c.dispatched = d.dispatched
  afterwards : c.afterwards = d.afterwards
  requests : c.requests = d.requests

section
variable {handle : Handler} (settings : Settings) (client : SocketAddress) {tree peer : Tree}
  {world other : Nat → Conditions} {c d : Conversation}

theorem SideBySide.answerBy (hkeeps : handle.KeepsSideBySide)
    (hworld : ∀ n, (world n).tree = tree) (hother : ∀ n, (other n).tree = peer)
    (hevents : ∀ n, (world n).SameEvents (other n)) (h : SideBySide tree peer c d)
    (frame : Frame) :
    SideBySide tree peer (c.answerBy handle client world frame)
      (d.answerBy handle client other frame) := by
  cases frame with
  | overlong kept =>
      obtain ⟨csession, ctrace, cdispatched, cafterwards, crequests⟩ :=
        answerBy_overlong handle client world c kept
      obtain ⟨dsession, dtrace, ddispatched, dafterwards, drequests⟩ :=
        answerBy_overlong handle client other d kept
      constructor
      · rw [csession, dsession]
        exact h.session
      · rw [ctrace, dtrace, Array.toList_push, Array.toList_push]
        exact List.rel_append h.trace (.cons .reply .nil)
      · rw [cdispatched, ddispatched, h.dispatched]
      · rw [cafterwards, dafterwards, h.afterwards]
      · rw [crequests, drequests, h.requests]
  | line bytes =>
      obtain ⟨csession, ctrace, cdispatched, cafterwards, crequests⟩ :=
        answerBy_line handle client world c bytes
      obtain ⟨dsession, dtrace, ddispatched, dafterwards, drequests⟩ :=
        answerBy_line handle client other d bytes
      rw [← h.dispatched] at dsession dtrace dafterwards
      have hsession : Session.SideBySide (world c.dispatched).tree (other c.dispatched).tree
          c.session d.session := by
        rw [hworld, hother]
        exact h.session
      obtain ⟨hsame, hnext⟩ := hkeeps (Request.parse (lineOf bytes)) (hevents c.dispatched)
        hsession
      rw [hworld, hother] at hnext
      constructor
      · rw [csession, dsession]
        exact hnext
      · rw [ctrace, dtrace, Array.toList_append, Array.toList_append, List.toList_toArray,
          List.toList_toArray]
        exact List.rel_append h.trace hsame.effects
      · rw [cdispatched, ddispatched, h.dispatched]
      · rw [cafterwards, dafterwards, hsame.afterwards]
      · rw [crequests, drequests, h.requests]

theorem SideBySide.answerAll (hworld : ∀ n, (world n).tree = tree)
    (hother : ∀ n, (other n).tree = peer) (hevents : ∀ n, (world n).SameEvents (other n))
    (h : SideBySide tree peer c d) (frames : List Frame) :
    SideBySide tree peer (c.answerAll settings client world frames)
      (d.answerAll settings client other frames) :=
  answerAll_related settings client world h (fun h => h.afterwards) fun _ _ frame h =>
    h.answerBy client (keepsSideBySide_dispatch settings) hworld hother hevents frame

end

/-- Over two trees that look alike from the root, and that stay as they are, one
stream of lines makes one conversation: the same replies and the same bytes on
every data connection, in the same order, and the same session in the end, all
but for the ports that are picked. -/
theorem run_same_of_alike (settings : Settings) (client : SocketAddress) {tree peer : Tree}
    {root : Path} (halike : tree.AlikeWithin peer root) {world other : Nat → Conditions}
    (hworld : ∀ n, (world n).tree = tree) (hother : ∀ n, (other n).tree = peer)
    (hevents : ∀ n, (world n).SameEvents (other n)) (writer : Sink) (incoming : Incoming) :
    let c := run settings client world (.start root) writer incoming
    let d := run settings client other (.start root) writer incoming
    List.Forall₂ Effect.SameButPort c.trace.toList d.trace.toList ∧
      c.session.SameButPort d.session ∧ c.requests = d.requests ∧ c.afterwards = d.afterwards := by
  intro c d
  obtain ⟨hsession, htrace, -, -⟩ := greet_keeps (.start root) writer
  have hgreeted : SideBySide tree peer (greet (.start root) writer)
      (greet (.start root) writer) := by
    refine ⟨?_, ?_, rfl, rfl, rfl⟩
    · rw [hsession]
      exact ⟨⟨rfl, rfl, rfl, rfl, rfl⟩, halike, halike.treeRoot, halike.peerRoot⟩
    · rw [htrace]
      exact .cons .reply .nil
  have hdone : SideBySide tree peer c d :=
    hgreeted.answerAll settings client hworld hother hevents
      (incoming.frames settings.maxCommandLength)
  exact ⟨hdone.trace, hdone.session.same, hdone.requests, hdone.afterwards⟩

/-- A client that logs in, asks for a channel and for what the link `l` leads to. -/
def askingForLink : Incoming where
  reads := [Utf8.ofString "USER cs317\r\nPASV\r\nRETR l\r\nCWD l\r\n"]

/-- A world that does not change, in which listeners open on one port and clients
come. -/
def listeningWorld (tree : Tree) (port : UInt16) : Nat → Conditions := fun _ =>
  { tree
    interface := some ⟨127, 0, 0, 1⟩
    attempts := fun _ => ⟨port, .opened⟩
    arrival := .connected {} }

/-- That client is not told whether there is a file outside. -/
theorem run_same_of_alike_leading :
    let client : SocketAddress := .v4 ⟨127, 0, 0, 1⟩ 5000
    let root := Location.path [.letter 'r']
    let c := run {} client (listeningWorld leadingToFile 2000) (.start root) {} askingForLink
    let d := run {} client (listeningWorld leadingNowhere 3000) (.start root) {} askingForLink
    leadingToFile.AlikeWithin leadingNowhere root ∧
      (∀ n, (listeningWorld leadingToFile 2000 n).SameEvents
        (listeningWorld leadingNowhere 3000 n)) ∧
      List.Forall₂ Effect.SameButPort c.trace.toList d.trace.toList ∧
      c.session.SameButPort d.session := by
  intro client root c d
  have hevents : ∀ n, (listeningWorld leadingToFile 2000 n).SameEvents
      (listeningWorld leadingNowhere 3000 n) := fun _ => ⟨rfl, fun _ => rfl, rfl, rfl, rfl, rfl⟩
  obtain ⟨htrace, hsession, -, -⟩ := run_same_of_alike {} client alikeWithin_leading
    (fun _ => rfl) (fun _ => rfl) hevents {} askingForLink
  exact ⟨alikeWithin_leading, hevents, htrace, hsession⟩

end Conversation

end PassiveFtp
