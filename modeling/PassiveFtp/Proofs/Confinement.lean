import Mathlib
import PassiveFtp.Proofs.Navigation
import PassiveFtp.Proofs.Runs
import PassiveFtp.Proofs.Sending
import PassiveFtp.Server

/-!
# No session leaves its root

Two things keep a session inside, and they are of different strength. The
comparison with the root is made on every path that is about to be used, so it
holds whatever happened to the tree before: the working directory always begins
with the root, and a file is only sent from a path that resolves to itself and
begins with the root at that very moment. That the working directory is still a
directory there needs more, namely that nothing moved in the meantime; over a
tree that stays as it is, the working directory is canonical all along, because
what a change resolves to is canonical and what lies above it is too.
-/

namespace PassiveFtp

/-- A session that is still confined to a root. -/
def Session.Inside (root : Path) (session : Session) : Prop :=
  session.root = root ∧ session.cwd.Within root

/-- A working directory that is a directory and its own canonical path. -/
def Session.Settled (tree : Tree) (session : Session) : Prop :=
  tree.Canonical session.cwd ∧ tree.isDir session.cwd = true

/-- What has gone out on a data connection that had taken something before:
nothing more, or a beginning of a file that lies inside the root and is found
under its own canonical path. -/
def SentFromInside (tree : Tree) (root : Path) (before sent : List UInt8) : Prop :=
  ∃ gone, sent = before ++ gone ∧
    (gone ≠ [] → ∃ found content, tree.Canonical found ∧ found.Within root ∧
      tree.find found = .ok (.file content) ∧ gone <+: content)

variable {settings : Settings} {conditions : Conditions} {session : Session} {request : Request}
  {outcome : Outcome}

/-! ## One turn -/

/-- The root stays, and the working directory is what it was or what one of the
two changes of directory let through. -/
theorem session_cases (h : Handled settings conditions session request outcome) :
    outcome.session.root = session.root ∧
      (outcome.session.cwd = session.cwd ∨
        (∃ target, Navigation.changeDirectory conditions.tree session.root session.cwd target =
          .ok outcome.session.cwd) ∨
        Navigation.parentDirectory conditions.tree session.root session.cwd =
          .ok outcome.session.cwd) := by
  cases h with
  | entered _ _ _ hfound => exact ⟨rfl, .inr (.inl ⟨_, hfound⟩)⟩
  | climbed _ _ hparent => exact ⟨rfl, .inr (.inr hparent)⟩
  | answered | admitted | quit | typed | listening | unallocated | unconnected | fetched
  | listed => exact ⟨rfl, .inl rfl⟩

theorem Session.Inside.dispatch {root : Path} (h : session.Inside root) :
    (dispatch settings conditions session request).session.Inside root := by
  obtain ⟨hroot, hcwd⟩ := h
  obtain ⟨hsame, hmove⟩ := session_cases (dispatch_handled settings conditions session request)
  refine ⟨hsame.trans hroot, ?_⟩
  rw [hroot] at hmove
  obtain hcwd' | ⟨target, hfound⟩ | hparent := hmove
  · rw [hcwd']
    exact hcwd
  · exact (Navigation.changeDirectory_eq_ok hfound).2.1
  · exact (Navigation.parentDirectory_eq_ok hparent).2.1

theorem Session.Settled.dispatch (h : session.Settled conditions.tree) :
    (dispatch settings conditions session request).session.Settled conditions.tree := by
  obtain ⟨hcanonical, hdir⟩ := h
  obtain ⟨-, hmove⟩ := session_cases (dispatch_handled settings conditions session request)
  obtain hcwd' | ⟨target, hfound⟩ | hparent := hmove
  · rw [Settled, hcwd']
    exact ⟨hcanonical, hdir⟩
  · obtain ⟨hcanonicalize, -, hdir⟩ := Navigation.changeDirectory_eq_ok hfound
    exact ⟨Tree.canonical_of_canonicalize hcanonicalize, hdir⟩
  · obtain ⟨hparent, -, -⟩ := Navigation.parentDirectory_eq_ok hparent
    exact Tree.canonical_parent hcanonical hparent

/-- What a fetch sends is a file found inside the session's root. -/
theorem sentFromInside_fetch (target : String) (sink : Sink) :
    SentFromInside conditions.tree session.root sink.received
      (Dispatch.fetch settings conditions session target sink).2.received := by
  have hnothing : SentFromInside conditions.tree session.root sink.received sink.received :=
    ⟨[], (List.append_nil _).symm, fun h => absurd rfl h⟩
  simp only [Dispatch.fetch]
  split
  · next found hfound =>
      obtain ⟨hcanonicalize, hwithin⟩ := Navigation.resolveFile_eq_ok hfound
      obtain hsame | ⟨content, hcontent, gone, hgone, hreceived⟩ :=
        Transfer.sendFile_cases conditions.tree found settings.bufferSize conditions.fault sink
      · simp only [hsame]
        exact hnothing
      · exact ⟨gone, hreceived, fun _ => ⟨found, content,
          Tree.canonical_of_canonicalize hcanonicalize, hwithin, hcontent, hgone⟩⟩
  · exact hnothing

/-- Bytes go out on a data connection in two ways only. -/
theorem sent_cases (h : Handled settings conditions session request outcome) {sent : List UInt8}
    (hsent : .sent sent ∈ outcome.effects) :
    ∃ sink, conditions.arrival = .connected sink ∧
      ((∃ target, request.verb = .retr ∧ request.argument = some target ∧
          sent = (Dispatch.fetch settings conditions session target sink).2.received) ∨
        request.verb = .nlst ∧ sent = (Dispatch.list conditions session sink).2.received) := by
  cases h with
  | fetched _ hverb harg _ harrival =>
      refine ⟨_, harrival, .inl ⟨_, hverb, harg, ?_⟩⟩
      simpa using hsent
  | listed _ hverb _ harrival =>
      refine ⟨_, harrival, .inr ⟨hverb, ?_⟩⟩
      simpa using hsent
  | listening | unallocated | unconnected =>
      cases session.passive <;> simp [Dispatch.closing] at hsent
  | answered | admitted | quit | entered | climbed | typed =>
      simp [Outcome.saying, Dispatch.quit] at hsent

/-! ## Whole runs -/

theorem Session.inside_after (settings : Settings) (root : Path) (turns : List Turn) :
    ((Session.start root).after settings turns).Inside root :=
  after_invariant ⟨rfl, Path.Within.refl root⟩ fun _ _ _ h => h.dispatch

theorem Session.settled_after {settings : Settings} {tree : Tree} {root : Path} {turns : List Turn}
    (hroot : tree.Canonical root) (hdir : tree.isDir root = true)
    (hstill : ∀ turn ∈ turns, turn.conditions.tree = tree) :
    ((Session.start root).after settings turns).Settled tree := by
  refine after_invariant ⟨hroot, hdir⟩ fun turn hturn session h => ?_
  rw [← hstill turn hturn] at h ⊢
  exact h.dispatch

/-- What a server finds its root to be when it starts is a canonical directory. -/
theorem Server.canonical_root {tree : Tree} {socket : Except IoError Unit} {server : Server}
    (h : Server.start tree settings socket = .ok server) :
    tree.Canonical server.root ∧ tree.isDir server.root = true := by
  simp only [Server.start, bind, Except.bind] at h
  split at h
  · cases h
  · next root hroot =>
      cases hcanonicalize : tree.canonicalize (.ofString settings.serverRoot) with
      | error e =>
          rw [hcanonicalize] at hroot
          cases hroot
      | ok found =>
          rw [hcanonicalize] at hroot
          cases hroot
          split at h
          · next hdir =>
              split at h
              · cases h
              · cases h
                exact ⟨Tree.canonical_of_canonicalize hcanonicalize, hdir⟩
          · cases h

/-- A session that begins in a canonical directory stays in it. Whatever the
tree becomes between two turns, the root is kept, the working directory begins
with it, and all that a fetch sends comes from a file that is found inside the
root under its own canonical path. If the tree stays as it is, the working
directory is a directory, at a place at or below the root's, and that directory
is what gets listed. -/
theorem session_confined (settings : Settings) {start : Tree} {root : Path}
    (hroot : start.Canonical root) (hdir : start.isDir root = true) (turns : List Turn) :
    let session := (Session.start root).after settings turns
    session.Inside root ∧
    (∀ turn : Turn, turn.request.verb = .retr →
      ∀ sent, .sent sent ∈ (turn.outcome settings session).effects →
        ∃ sink, turn.conditions.arrival = .connected sink ∧
          SentFromInside turn.conditions.tree root sink.received sent) ∧
    ((∀ turn ∈ turns, turn.conditions.tree = start) →
      session.Settled start ∧
      (∃ base below, root = Location.path base ∧ session.cwd = Location.path (base ++ below)) ∧
      ∀ turn : Turn, turn.conditions.tree = start → turn.request.verb = .nlst →
        ∀ sent, .sent sent ∈ (turn.outcome settings session).effects →
          ∃ sink, turn.conditions.arrival = .connected sink ∧
            sent = (turn.conditions.lister start session.cwd sink).2.received ∧
            (turn.conditions.lister = Listing.names →
              ∃ names gone, start.entryNames session.cwd = .ok names ∧
                sent = sink.received ++ gone ∧ gone <+: Listing.body names)) := by
  intro session
  have hinside : session.Inside root := Session.inside_after settings root turns
  refine ⟨hinside, ?_, fun hstill => ?_⟩
  · intro turn hverb sent hsent
    obtain ⟨sink, harrival, hway⟩ := sent_cases (dispatch_handled _ _ _ _) hsent
    refine ⟨sink, harrival, ?_⟩
    obtain ⟨target, -, -, rfl⟩ | ⟨hlist, -⟩ := hway
    · rw [← hinside.1]
      exact sentFromInside_fetch target sink
    · rw [hverb] at hlist
      cases hlist
  · have hsettled : session.Settled start := Session.settled_after hroot hdir hstill
    refine ⟨hsettled, Tree.Canonical.below hroot hsettled.1 hinside.2, ?_⟩
    intro turn htree hverb sent hsent
    obtain ⟨sink, harrival, hway⟩ := sent_cases (dispatch_handled _ _ _ _) hsent
    obtain ⟨target, hfetch, -, -⟩ | ⟨-, rfl⟩ := hway
    · rw [hverb] at hfetch
      cases hfetch
    · refine ⟨sink, harrival, by rw [Dispatch.list, htree], fun hlister => ?_⟩
      obtain ⟨names, hnames⟩ := Tree.entryNames_of_isDir hsettled.2
      rw [Dispatch.list, htree, hlister]
      obtain hsame | ⟨names', hnames', gone, hgone, hreceived⟩ :=
        Listing.names_cases start session.cwd sink
      · exact ⟨names, [], hnames, by simp [hsame], List.nil_prefix⟩
      · exact ⟨names', gone, hnames', hreceived, hgone⟩

/-- A root `/r` with a file `f` and a link `l` to the directory `/o` beside it. -/
def linkedTree : Tree :=
  ⟨[(⟨[0x72], by decide⟩, .dir
      [(⟨[0x66], by decide⟩, .file [1, 2, 3]), (⟨[0x6C], by decide⟩, .link ⟨[0x2F, 0x6F]⟩)]),
    (⟨[0x6F], by decide⟩, .dir [(⟨[0x66], by decide⟩, .file [9])])]⟩

/-- Turns over that tree in which listeners open and clients come. -/
def linkedTurn (verb : Verb) (argument : Option String) (spaces : Nat) : Turn where
  conditions :=
    { tree := linkedTree
      interface := some ⟨127, 0, 0, 1⟩
      attempts := fun _ => ⟨2000, .opened⟩
      arrival := .connected {} }
  request := { verb, argument, spaces }

/-- A client that logs in, tries to leave through the link and asks for a
channel is still inside, and the name `f` is that of the file in the root. -/
theorem session_confined_past_link :
    let server : Server := { settings := { serverRoot := "/r" }, root := .ofString "/r" }
    let session := (Session.start server.root).after server.settings
      [linkedTurn .user (some "cs317") 1, linkedTurn .cwd (some "l") 1, linkedTurn .pasv none 0]
    Server.start linkedTree server.settings (.ok ()) = .ok server ∧
      session.Inside server.root ∧ session.Settled linkedTree ∧
      SentFromInside linkedTree server.root [] [1, 2, 3] := by
  intro server session
  have hstart : Server.start linkedTree server.settings (.ok ()) = .ok server := by cbv
  obtain ⟨hroot, hdir⟩ := Server.canonical_root hstart
  obtain ⟨hinside, hfetched, hstill⟩ := session_confined server.settings hroot hdir
    [linkedTurn .user (some "cs317") 1, linkedTurn .cwd (some "l") 1, linkedTurn .pasv none 0]
  refine ⟨hstart, hinside, (hstill (by simp [linkedTurn])).1, ?_⟩
  let admitted : Session := { Session.start server.root with loggedIn := true }
  let pending : Session := { admitted with passive := some ⟨⟨127, 0, 0, 1⟩, 2000⟩ }
  have huser : ((linkedTurn .user (some "cs317") 1).outcome server.settings
      (.start server.root)).session = admitted := rfl
  have hcwd : ((linkedTurn .cwd (some "l") 1).outcome server.settings admitted).session =
      admitted := by cbv
  have hpasv : ((linkedTurn .pasv none 0).outcome server.settings admitted).session = pending :=
    rfl
  have hretr : ((linkedTurn .retr (some "f") 1).outcome server.settings pending).effects =
      [.listenerClosed ⟨⟨127, 0, 0, 1⟩, 2000⟩, .reply (.plain .aboutToOpenDataConnection),
        .sent [1, 2, 3], .dataClosed, .reply (.plain .closingDataConnection)] := by cbv
  have hsession : session = pending := by
    simp only [session, Session.after_cons, Session.after_nil, huser, hcwd, hpasv]
  obtain ⟨sink, harrival, hfrom⟩ := hfetched (linkedTurn .retr (some "f") 1) rfl [1, 2, 3] (by
    rw [show (Session.start server.root).after server.settings _ = pending from hsession, hretr]
    simp)
  cases harrival
  exact hfrom

end PassiveFtp
