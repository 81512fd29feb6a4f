import Mathlib
import PassiveFtp.Proofs.AlikeTrees
import PassiveFtp.Proofs.IllFormedParts
import PassiveFtp.Proofs.SinkReach
import PassiveFtp.Proofs.WorkingDirectory

/-!
# The last reply tells what has gone out

A transfer ends with a reply, and the client has nothing else to go by: a data
connection that is closed looks the same after the last byte and after any other.
So the reply for a success has to mean that everything has gone out, and it does,
because there is one way to it. The name led to a file inside the root, the sink
went as far as the file, and it was flushed.

How far the sink went is also all there is to know of the bytes. They are the
beginning of the file that the sink reaches, or of the listing, and none at all
where there is no file or nothing to list. A file that cannot be read to its end
counts as far as it can be read.

There is one transfer that no reply ends. If there cannot be a buffer for the
file, that is found out when the file is open, and the client is left with the
announcement.
-/

namespace PassiveFtp

/-- A name that leads a session to a file inside its root, and the file's bytes. -/
structure Session.NamesFile (tree : Tree) (session : Session) (name : String)
    (content : List UInt8) : Prop where
  nonempty : name.isEmpty = false
  noParent : TargetShape.hasParentSegment name = false
  leads : ∃ found,
    tree.canonicalize (Navigation.clientPath session.root session.cwd name) = .ok found ∧
      found.Within session.root ∧ tree.find found = .ok (.file content)

/-- A name under which a session has something opened: it leads to a place inside
the root, and nothing keeps what is there from being opened. -/
structure Session.Opens (conditions : Conditions) (session : Session) (name : String) : Prop where
  nonempty : name.isEmpty = false
  noParent : TargetShape.hasParentSegment name = false
  leads : ∃ found,
    conditions.tree.canonicalize (Navigation.clientPath session.root session.cwd name) =
        .ok found ∧ found.Within session.root
  opens : ∀ e, conditions.fault ≠ some (.unopened e)

/-- What can be read of the bytes of a file. -/
def Transfer.FileFault.readable (content : List UInt8) : Option FileFault → List UInt8
  | none => content
  | some (.unopened _) => []
  | some (.unread after _) => content.take after

/-- Bytes that list names: the text of each, what is no text in it replaced, with
a carriage return and a line feed, in ascending order. -/
def Listing.IsListing (names : List Name) (bytes : List UInt8) : Prop :=
  ∃ (texts : List (List Char)) (lines : List (List UInt8)),
    List.Forall₂ (fun name text => Utf8.Replaced name.bytes text) names texts ∧
      lines.Perm (texts.map fun text => text.flatMap String.utf8EncodeChar) ∧
      lines.Pairwise (· ≤ ·) ∧ bytes = lines.flatMap (· ++ [0x0D, 0x0A])

theorem Session.NamesFile.unique {tree : Tree} {session : Session} {name : String}
    {content other : List UInt8} (h : session.NamesFile tree name content)
    (h' : session.NamesFile tree name other) : other = content := by
  obtain ⟨found, hfound, -, hcontent⟩ := h.leads
  obtain ⟨found', hfound', -, hother⟩ := h'.leads
  rw [hfound] at hfound'
  cases hfound'
  rw [hcontent] at hother
  cases hother
  rfl

/-- A sink that goes to the end of some bytes is one that they all go out on. -/
theorem Sink.take_reach_eq_iff (sink : Sink) (bytes : List UInt8) :
    bytes.take (sink.reach bytes.length) = bytes ↔ sink.reach bytes.length = bytes.length := by
  rw [List.take_eq_self_iff]
  have hle := sink.reach_le bytes.length
  omega

/-! ## The replies that end a transfer -/

theorem FileOutcome.status?_reply_eq (outcome : FileOutcome) :
    outcome.reply.status? = some (if outcome.isSuccess then 226 else 426) := by
  cases outcome <;> rfl

namespace Transfer

/-- What is sent of what is not a file is nothing, and no success. -/
theorem sendFile_of_not_file {tree : Tree} {p : Path}
    (h : ∀ content, tree.find p ≠ .ok (.file content)) (bufferSize : Nat)
    (fault : Option FileFault) (sink : Sink) :
    (sendFile tree p bufferSize fault sink).1.isSuccess = false ∧
      (sendFile tree p bufferSize fault sink).2 = sink := by
  simp only [sendFile]
  split
  · exact ⟨rfl, rfl⟩
  · next file hfile =>
      obtain ⟨e, rfl⟩ | ⟨content, hfind, -⟩ := openFile_cases hfile
      · rw [sendChunks]
        exact ⟨rfl, rfl⟩
      · exact absurd hfind (h content)

theorem sendFile_of_open {tree : Tree} {p : Path} {fault : Option FileFault} {file : OpenFile}
    (h : openFile tree p fault = .ok file) (bufferSize : Nat) (sink : Sink) :
    sendFile tree p bufferSize fault sink =
      sendChunks file.failure (bufferSize - 1) file.readable 0 sink := by
  simp only [sendFile, h]

theorem sendFile_of_file {tree : Tree} {p : Path} {content : List UInt8}
    (h : tree.find p = .ok (.file content)) (bufferSize : Nat) (fault : Option FileFault)
    (sink : Sink) :
    let readable := FileFault.readable content fault
    (sendFile tree p bufferSize fault sink).2.received =
        sink.received ++ readable.take (sink.reach readable.length) ∧
      ((sendFile tree p bufferSize fault sink).1.isSuccess = true ↔
        fault = none ∧ sink.reach content.length = content.length ∧
          sink.flushFailure = none) := by
  obtain _ | ⟨e⟩ | ⟨after, e⟩ := fault
  · have hopen : openFile tree p none = .ok { readable := content } := by simp only [openFile, h]
    obtain ⟨hreceived, hsuccess⟩ := sendChunks_reaches none (bufferSize - 1) 0 content sink
    rw [sendFile_of_open hopen]
    exact ⟨hreceived, hsuccess.trans (and_congr_left' (iff_of_true rfl rfl))⟩
  · have hshut : openFile tree p (some (.unopened e)) = .error e := by simp only [openFile, h]
    simp only [sendFile, hshut, FileFault.readable, List.take_nil, List.append_nil]
    simp [FileOutcome.isSuccess]
  · have hopen : openFile tree p (some (.unread after e)) =
        .ok { readable := content.take after, failure := some e } := by simp only [openFile, h]
    rw [sendFile_of_open hopen]
    obtain ⟨hreceived, hsuccess⟩ :=
      sendChunks_reaches (some e) (bufferSize - 1) 0 (content.take after) sink
    refine ⟨hreceived, hsuccess.trans (iff_of_false ?_ ?_)⟩
    · simp
    · simp

end Transfer

/-- Where a path leads there is something, and it is not a link. -/
theorem Tree.exists_node_of_canonicalize {tree : Tree} {p found : Path}
    (h : tree.canonicalize p = .ok found) :
    ∃ node, tree.find found = .ok node ∧ ∀ target, node ≠ .link target := by
  obtain ⟨place, -, hreached, rfl⟩ := locate_of_canonicalize h
  obtain ⟨node, hnode, hlink⟩ := hreached.node
  exact ⟨node, find_path hreached hnode, hlink⟩

section
variable (settings : Settings) {conditions : Conditions} {session : Session} {request : Request}
  {name : String} {content : List UInt8}

/-! ## Files -/

namespace Dispatch

theorem fetch_of_file (h : session.NamesFile conditions.tree name content) (sink : Sink) :
    let readable := Transfer.FileFault.readable content conditions.fault
    (fetch settings conditions session name sink).2.received =
        sink.received ++ readable.take (sink.reach readable.length) ∧
      (fetch settings conditions session name sink).1.status? =
        some (if conditions.fault = none ∧ sink.reach content.length = content.length ∧
          sink.flushFailure = none then 226 else 426) := by
  obtain ⟨hnonempty, hparent, found, hcanonicalize, hwithin, hfind⟩ := h
  have hfound : Navigation.resolveFile conditions.tree session.root session.cwd name = .ok found :=
    Navigation.resolveFile_eq_ok_iff.mpr ⟨hnonempty, hparent, hcanonicalize, hwithin⟩
  obtain ⟨hreceived, hsuccess⟩ :=
    Transfer.sendFile_of_file hfind settings.bufferSize conditions.fault sink
  simp only [fetch, hfound, FileOutcome.status?_reply_eq, hsuccess]
  exact ⟨hreceived, trivial⟩

theorem fetch_of_no_file (h : ∀ content, ¬ session.NamesFile conditions.tree name content)
    (sink : Sink) :
    (fetch settings conditions session name sink).2 = sink ∧
      (fetch settings conditions session name sink).1.status? = some 426 := by
  simp only [fetch]
  cases hfound : Navigation.resolveFile conditions.tree session.root session.cwd name with
  | error e => exact ⟨rfl, rfl⟩
  | ok found =>
      obtain ⟨hnonempty, hparent, hcanonicalize, hwithin⟩ :=
        Navigation.resolveFile_eq_ok_iff.mp hfound
      have hnone : ∀ content, conditions.tree.find found ≠ .ok (.file content) :=
        fun content hfind => h content
          ⟨hnonempty, hparent, found, hcanonicalize, hwithin, hfind⟩
      obtain ⟨hfailed, hsame⟩ :=
        Transfer.sendFile_of_not_file hnone settings.bufferSize conditions.fault sink
      exact ⟨hsame, by simp only [FileOutcome.status?_reply_eq, hfailed]; rfl⟩

end Dispatch

/-! ## Listings -/

theorem Listing.isListing_body (names : List Name) : IsListing names (body names) := by
  refine ⟨names.map fun name => Utf8.decodeLossy name.bytes, sorted names, ?_, ?_,
    pairwise_sorted names, rfl⟩
  · rw [List.forall₂_map_right_iff]
    exact List.forall₂_same.mpr fun name _ => Utf8.replaced_decodeLossy name.bytes
  · rw [List.map_map]
    exact List.mergeSort_perm _ _

theorem Listing.names_of_error {tree : Tree} {p : Path} {e : IoError}
    (h : tree.entryNames p = .error e) (sink : Sink) :
    (names tree p sink).2 = sink ∧ (names tree p sink).1.reply.status? = some 451 := by
  simp only [names, h]
  exact ⟨trivial, rfl⟩

theorem Listing.names_of_ok {tree : Tree} {p : Path} {found : List Name}
    (h : tree.entryNames p = .ok found) (sink : Sink) :
    (names tree p sink).2.received =
        sink.received ++ (body found).take (sink.reach (body found).length) ∧
      (names tree p sink).1.reply.status? =
        some (if sink.reach (body found).length = (body found).length ∧ sink.flushFailure = none
          then 226 else 450) := by
  obtain ⟨hreceived, hok⟩ := sink.send_reaches (body found)
  simp only [names, h]
  split
  · next after hsend =>
      rw [hsend] at hreceived hok
      rw [if_pos (hok.mp rfl)]
      exact ⟨hreceived, rfl⟩
  · next e after hsend =>
      rw [hsend] at hreceived hok
      rw [if_neg fun hall => nomatch hok.mpr hall]
      exact ⟨hreceived, rfl⟩

/-! ## Transfers from beginning to end -/

theorem Dispatch.connection_of_arrival {channel : PassiveChannel} {sink : Sink}
    (hpassive : session.passive = some channel) (harrival : conditions.arrival = .connected sink) :
    connection settings conditions session = .ok sink := by
  simp only [connection, hpassive, harrival, Arrival.accept]

theorem dispatch_eq_fetched {channel : PassiveChannel} {sink : Sink}
    (hpassed : Passed session request) (hpassive : session.passive = some channel)
    (harrival : conditions.arrival = .connected sink) (hverb : request.verb = .retr)
    (harg : request.argument = some name) :
    dispatch settings conditions session request =
      { session := { session with passive := none }
        effects := [.listenerClosed channel, .reply (.plain .aboutToOpenDataConnection),
          .sent (Dispatch.fetch settings conditions session name sink).2.received,
          .dataClosed, .reply (Dispatch.fetch settings conditions session name sink).1] } := by
  rw [dispatch_of_passed hpassed]
  simp only [Dispatch.handle, hverb, Dispatch.withArgument, harg, Dispatch.retr]
  have hconnection := Dispatch.connection_of_arrival settings hpassive harrival
  exact Dispatch.transfer_eq_of_ok hconnection hpassive

theorem dispatch_eq_listed {channel : PassiveChannel} {sink : Sink}
    (hpassed : Passed session request) (hpassive : session.passive = some channel)
    (harrival : conditions.arrival = .connected sink) (hverb : request.verb = .nlst) :
    dispatch settings conditions session request =
      { session := { session with passive := none }
        effects := [.listenerClosed channel, .reply (.plain .aboutToOpenDataConnection),
          .sent (Dispatch.list conditions session sink).2.received,
          .dataClosed, .reply (Dispatch.list conditions session sink).1] } := by
  rw [dispatch_of_passed hpassed]
  simp only [Dispatch.handle, hverb, Dispatch.nlst]
  have hconnection := Dispatch.connection_of_arrival settings hpassive harrival
  exact Dispatch.transfer_eq_of_ok hconnection hpassive

/-! ## Buffers -/

theorem Transfer.sendFile?_eq_none_iff {tree : Tree} {p : Path} {bufferSize : Nat}
    {fault : Option FileFault} {sink : Sink} :
    sendFile? tree p bufferSize fault sink = none ↔
      (∃ file, openFile tree p fault = .ok file) ∧ ¬ Buffer.Fits (max bufferSize 1) := by
  simp only [sendFile?]
  cases openFile tree p fault with
  | error e => simp
  | ok file => by_cases hfits : Buffer.Fits (max bufferSize 1) <;> simp [hfits]

/-- What a path leads to can be opened unless it cannot. -/
theorem Transfer.exists_openFile_iff {tree : Tree} {p found : Path}
    (h : tree.canonicalize p = .ok found) {fault : Option FileFault} :
    (∃ file, openFile tree found fault = .ok file) ↔ ∀ e, fault ≠ some (.unopened e) := by
  obtain ⟨node, hnode, hlink⟩ := Tree.exists_node_of_canonicalize h
  cases node with
  | link target => exact absurd rfl (hlink target)
  | file content =>
      obtain _ | ⟨e⟩ | ⟨after, e⟩ := fault <;> simp [openFile, hnode]
  | dir entries =>
      obtain _ | ⟨e⟩ | ⟨after, e⟩ := fault <;> simp [openFile, hnode]

/-- A transfer lacks its buffer exactly if there cannot be one when its file is
open. -/
theorem Dispatch.unbuffered?_cases {sink : Sink} (hpassed : Passed session request)
    (hverb : request.verb = .retr) (harg : request.argument = some name)
    (hconnection : connection settings conditions session = .ok sink) :
    let lacks := ¬ Buffer.Fits (max settings.bufferSize 1) ∧ session.Opens conditions name
    lacks ∧ unbuffered? settings conditions session request = some sink ∨
      ¬ lacks ∧ unbuffered? settings conditions session request = none := by
  intro lacks
  simp only [unbuffered?, refusal?_of_passed hpassed, hverb, harg, hconnection]
  cases hfound : Navigation.resolveFile conditions.tree session.root session.cwd name with
  | error e =>
      refine .inr ⟨fun h => ?_, rfl⟩
      obtain ⟨-, hnonempty, hparent, ⟨found, hcanonicalize, hwithin⟩, -⟩ := h
      rw [Navigation.resolveFile_eq_ok_iff.mpr ⟨hnonempty, hparent, hcanonicalize, hwithin⟩]
        at hfound
      cases hfound
  | ok found =>
      obtain ⟨hnonempty, hparent, hcanonicalize, hwithin⟩ :=
        Navigation.resolveFile_eq_ok_iff.mp hfound
      have hlacks : Transfer.sendFile? conditions.tree found settings.bufferSize conditions.fault
          sink = none ↔ lacks := by
        rw [Transfer.sendFile?_eq_none_iff, Transfer.exists_openFile_iff hcanonicalize, and_comm]
        exact and_congr_right fun _ =>
          ⟨fun h => ⟨hnonempty, hparent, ⟨found, hcanonicalize, hwithin⟩, h⟩, fun h => h.opens⟩
      cases hsent : Transfer.sendFile? conditions.tree found settings.bufferSize conditions.fault
          sink with
      | none => exact .inl ⟨hlacks.mp hsent, by simp only [hsent]⟩
      | some told =>
          refine .inr ⟨fun h => ?_, by simp only [hsent]⟩
          rw [hlacks.mpr h] at hsent
          cases hsent

/-! ## What the last reply tells -/

section
variable {channel : PassiveChannel} {sink : Sink} (hpassed : Passed session request)
  (hpassive : session.passive = some channel) (harrival : conditions.arrival = .connected sink)
include hpassed hpassive harrival

/-- A file is reported sent exactly if it is there, can be read, and has all gone
out and been flushed. -/
theorem reply_tells_fetched (hverb : request.verb = .retr) (harg : request.argument = some name) :
    ∃ gone last,
      dispatch settings conditions session request =
        { session := { session with passive := none }
          effects := [.listenerClosed channel, .reply (.plain .aboutToOpenDataConnection),
            .sent (sink.received ++ gone), .dataClosed, .reply last] } ∧
      (last.status? = some 226 ∨ last.status? = some 426) ∧
      (last.status? = some 226 ↔ ∃ content,
        session.NamesFile conditions.tree name content ∧ conditions.fault = none ∧
          gone = content ∧ sink.flushFailure = none) ∧
      (∀ content, session.NamesFile conditions.tree name content →
        let readable := Transfer.FileFault.readable content conditions.fault
        gone = readable.take (sink.reach readable.length)) ∧
      ((∀ content, ¬ session.NamesFile conditions.tree name content) → gone = []) := by
  have houtcome := dispatch_eq_fetched settings hpassed hpassive harrival hverb harg
  by_cases hfile : ∃ content, session.NamesFile conditions.tree name content
  · obtain ⟨content, hcontent⟩ := hfile
    obtain ⟨hreceived, hlast⟩ := Dispatch.fetch_of_file settings hcontent sink
    rw [hreceived] at houtcome
    refine ⟨_, _, houtcome, ?_, ?_, ?_, fun hnone => absurd hcontent (hnone content)⟩
    · rw [hlast]
      split
      · exact .inl rfl
      · exact .inr rfl
    · rw [hlast]
      constructor
      · intro hsent
        split at hsent
        · next hall =>
            obtain ⟨hfault, hwhole, hflush⟩ := hall
            refine ⟨content, hcontent, hfault, ?_, hflush⟩
            rw [hfault]
            exact (sink.take_reach_eq_iff content).mpr hwhole
        · cases hsent
      · rintro ⟨other, hother, hfault, hgone, hflush⟩
        rw [hcontent.unique hother, hfault] at hgone
        rw [if_pos ⟨hfault, (sink.take_reach_eq_iff content).mp hgone, hflush⟩]
    · intro other hother
      rw [hcontent.unique hother]
  · have hnone : ∀ content, ¬ session.NamesFile conditions.tree name content :=
      fun content hcontent => hfile ⟨content, hcontent⟩
    obtain ⟨hsame, hlast⟩ := Dispatch.fetch_of_no_file settings hnone sink
    rw [hsame, ← List.append_nil sink.received] at houtcome
    refine ⟨[], _, houtcome, .inr hlast, ?_, fun content h => absurd h (hnone content),
      fun _ => rfl⟩
    rw [hlast]
    refine iff_of_false (by simp) ?_
    rintro ⟨content, hcontent, -⟩
    exact hnone content hcontent

/-- A listing is reported sent exactly if all of it has gone out and been
flushed. -/
theorem reply_tells_listed (hverb : request.verb = .nlst)
    (hlister : conditions.lister = Listing.names) :
    ∃ gone last,
      dispatch settings conditions session request =
        { session := { session with passive := none }
          effects := [.listenerClosed channel, .reply (.plain .aboutToOpenDataConnection),
            .sent (sink.received ++ gone), .dataClosed, .reply last] } ∧
      ((∃ e, conditions.tree.entryNames session.cwd = .error e) →
        gone = [] ∧ last.status? = some 451) ∧
      ∀ names, conditions.tree.entryNames session.cwd = .ok names →
        ∃ listing, Listing.IsListing names listing ∧
          gone = listing.take (sink.reach listing.length) ∧
          (last.status? = some 226 ∨ last.status? = some 450) ∧
          (last.status? = some 226 ↔ gone = listing ∧ sink.flushFailure = none) := by
  have houtcome := dispatch_eq_listed settings hpassed hpassive harrival hverb
  simp only [Dispatch.list, hlister] at houtcome
  cases hnames : conditions.tree.entryNames session.cwd with
  | error e =>
      obtain ⟨hsame, hlast⟩ := Listing.names_of_error hnames sink
      rw [hsame, ← List.append_nil sink.received] at houtcome
      exact ⟨[], _, houtcome, fun _ => ⟨rfl, hlast⟩, fun _ h => by cases h⟩
  | ok names =>
      obtain ⟨hreceived, hlast⟩ := Listing.names_of_ok hnames sink
      rw [hreceived] at houtcome
      refine ⟨_, _, houtcome, ?_, ?_⟩
      · rintro ⟨e, hfailed⟩
        cases hfailed
      intro found hfound
      cases hfound
      refine ⟨_, Listing.isListing_body names, rfl, ?_, ?_⟩
      · rw [hlast]
        split
        · exact .inl rfl
        · exact .inr rfl
      · rw [hlast, Sink.take_reach_eq_iff]
        split
        · next hall => exact iff_of_true rfl hall
        · next hpart => exact iff_of_false (by simp) hpart

end

end

/-- Once a data connection has come, a transfer is announced before a byte goes
out, and how it ended is told after the connection is closed. A file is reported
sent exactly if the name led to one inside the root that can be read, all of it
has gone out and was flushed. Whatever else is reported, the beginning of that
file has gone out that can be read and that the sink reaches, or nothing if the
name led to no file. A listing is reported sent exactly if all of it has gone out
and was flushed, and it is of all the names in the working directory, in order.
It is reported unsent on the other side if a part is missing, and on this side if
there were no names to be had.

Only what was opened and cannot have a buffer is not told of: nothing follows the
announcement, and the conversation is over. -/
theorem last_reply_tells_transfer (settings : Settings) (conditions : Conditions)
    (session : Session) (request : Request) {channel : PassiveChannel} {sink : Sink}
    (hpassed : Passed session request) (hpassive : session.passive = some channel)
    (harrival : conditions.arrival = .connected sink) :
    let told := dispatchInTask settings conditions session request
    (∀ name, request.verb = .retr → request.argument = some name →
      let lacks := ¬ Buffer.Fits (max settings.bufferSize 1) ∧ session.Opens conditions name
      (lacks → told.afterwards = .breakOff ∧ told.effects =
        [.listenerClosed channel, .reply (.plain .aboutToOpenDataConnection),
          .sent sink.received, .dataClosed]) ∧
      (¬ lacks → told.afterwards = .readOn ∧ ∃ gone last,
        told.effects =
          [.listenerClosed channel, .reply (.plain .aboutToOpenDataConnection),
            .sent (sink.received ++ gone), .dataClosed, .reply last] ∧
        (last.status? = some 226 ∨ last.status? = some 426) ∧
        (last.status? = some 226 ↔ ∃ content,
          session.NamesFile conditions.tree name content ∧ conditions.fault = none ∧
            gone = content ∧ sink.flushFailure = none) ∧
        (∀ content, session.NamesFile conditions.tree name content →
          let readable := Transfer.FileFault.readable content conditions.fault
          gone = readable.take (sink.reach readable.length)) ∧
        ((∀ content, ¬ session.NamesFile conditions.tree name content) → gone = []))) ∧
    (request.verb = .nlst → conditions.lister = Listing.names →
      told.afterwards = .readOn ∧ ∃ gone last,
        told.effects =
          [.listenerClosed channel, .reply (.plain .aboutToOpenDataConnection),
            .sent (sink.received ++ gone), .dataClosed, .reply last] ∧
        ((∃ e, conditions.tree.entryNames session.cwd = .error e) →
          gone = [] ∧ last.status? = some 451) ∧
        ∀ names, conditions.tree.entryNames session.cwd = .ok names →
          ∃ listing, Listing.IsListing names listing ∧
            gone = listing.take (sink.reach listing.length) ∧
            (last.status? = some 226 ∨ last.status? = some 450) ∧
            (last.status? = some 226 ↔ gone = listing ∧ sink.flushFailure = none)) := by
  intro told
  constructor
  · intro name hverb harg lacks
    have hconnection := Dispatch.connection_of_arrival settings hpassive harrival
    obtain ⟨hlacks, hnone⟩ | ⟨hlacks, hnone⟩ :=
      Dispatch.unbuffered?_cases settings hpassed hverb harg hconnection
    · refine ⟨fun _ => ?_, fun h => absurd hlacks h⟩
      simp only [told, dispatchInTask, hnone, hpassive]
      exact ⟨trivial, rfl⟩
    · refine ⟨fun h => absurd h hlacks, fun _ => ?_⟩
      obtain ⟨gone, last, houtcome, htold⟩ :=
        reply_tells_fetched settings hpassed hpassive harrival hverb harg
      simp only [told, dispatchInTask, hnone, houtcome]
      exact ⟨trivial, gone, last, rfl, htold⟩
  · intro hverb hlister
    have hnone : Dispatch.unbuffered? settings conditions session request = none := by
      rw [Dispatch.unbuffered?, hverb]
      split
      · next hretr _ _ => cases hretr
      · rfl
    obtain ⟨gone, last, houtcome, htold⟩ :=
      reply_tells_listed settings hpassed hpassive harrival hverb hlister
    simp only [told, dispatchInTask, hnone, houtcome]
    exact ⟨trivial, gone, last, rfl, htold⟩

/-- A connection that takes two bytes of three is not told that the file is
there. -/
theorem last_reply_tells_transfer_cut :
    let turn := linkedTurn .retr (some "f") 1
    let conditions := { turn.conditions with arrival := .connected { room := some 2 } }
    let channel : PassiveChannel := ⟨⟨127, 0, 0, 1⟩, 2000⟩
    let session : Session :=
      { root := .ofString "/r", cwd := .ofString "/r", loggedIn := true, passive := some channel }
    Passed session turn.request ∧ ∃ last,
      (dispatchInTask {} conditions session turn.request).effects =
        [.listenerClosed channel, .reply (.plain .aboutToOpenDataConnection), .sent [1, 2],
          .dataClosed, .reply last] ∧ last.status? = some 426 := by
  intro turn conditions channel session
  have hpassed : Passed session turn.request := ⟨rfl, rfl⟩
  have hfile : session.NamesFile conditions.tree "f" [1, 2, 3] := by
    exact ⟨rfl, by cbv, .ofString "/r/f", by cbv, ⟨[.name [0x66]], by cbv⟩, by cbv⟩
  obtain ⟨hfetched, -⟩ := last_reply_tells_transfer {} conditions session turn.request
    hpassed rfl rfl
  obtain ⟨-, gone, last, heffects, hlast, hsent, hpart, -⟩ :=
    (hfetched "f" rfl rfl).2 fun h => h.1 (by decide)
  have hgone : gone = [1, 2] := hpart [1, 2, 3] hfile
  refine ⟨hpassed, last, by rw [heffects, hgone]; rfl, hlast.resolve_left fun hall => ?_⟩
  obtain ⟨content, hcontent, -, hwhole, -⟩ := hsent.mp hall
  rw [hfile.unique hcontent, hgone] at hwhole
  cases hwhole

/-- A file of three bytes is asked for with a size for which there cannot be a
buffer, over a connection that takes everything. It is announced, and that is the
last that is said. -/
theorem transfer_without_last_reply :
    let turn := linkedTurn .retr (some "f") 1
    let conditions := { turn.conditions with arrival := .connected {} }
    let channel : PassiveChannel := ⟨⟨127, 0, 0, 1⟩, 2000⟩
    let session : Session :=
      { root := .ofString "/r", cwd := .ofString "/r", loggedIn := true, passive := some channel }
    let settings : Settings := { bufferSize := 2 ^ 63 }
    Passed session turn.request ∧ session.NamesFile conditions.tree "f" [1, 2, 3] ∧
      (dispatchInTask settings conditions session turn.request).replies =
        [.plain .aboutToOpenDataConnection] := by
  intro turn conditions channel session settings
  have hpassed : Passed session turn.request := ⟨rfl, rfl⟩
  have hfile : session.NamesFile conditions.tree "f" [1, 2, 3] :=
    ⟨rfl, by cbv, .ofString "/r/f", by cbv, ⟨[.name [0x66]], by cbv⟩, by cbv⟩
  have hlacks : Dispatch.unbuffered? settings conditions session turn.request = some {} := by cbv
  refine ⟨hpassed, hfile, ?_⟩
  simp only [dispatchInTask, hlacks]
  rfl

end PassiveFtp
