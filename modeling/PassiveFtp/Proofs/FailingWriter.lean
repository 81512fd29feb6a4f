import Mathlib
import PassiveFtp.Proofs.Conversations
import PassiveFtp.Proofs.ReplyTable
import PassiveFtp.Proofs.SinkAnswers

/-!
# A control connection that fails

A reply that cannot be sent is not missed. The session goes on as if the client had
been told, so a client that can be told no more still logs in, moves about and has
its files sent, and the only difference is in what it reads.

Two things make that precise. A conversation never looks at its writer, so two of
them with different writers stay together (`SameButWriter`), frame by frame. And all
that a writer is given are the replies, one after the other (`GivenReplies`); what
that comes to is a matter of sinks alone. A sink with limited room gets the beginning
of the replies that it has room for, and is flushed after each that lies in it whole.
For that no reply may be empty: there would be room for an empty one when there is
no room.
-/

namespace PassiveFtp

/-- The bytes a reply is sent as. -/
def Reply.bytes (reply : Reply) : List UInt8 :=
  Utf8.ofString reply.encode

/-! ## One line after the other into a sink -/

namespace Sink

/-- A sink after some lines have been sent to it, whatever became of each. -/
def sendAll (sink : Sink) (lines : List (List UInt8)) : Sink :=
  lines.foldl (fun sink line => (sink.send line).2) sink

/-- How many of some lines end within the first `room` bytes of all. -/
def wholeWithin (room : Nat) (lines : List (List UInt8)) : Nat :=
  (List.range lines.length).countP fun k => (lines.take (k + 1)).flatten.length ≤ room

variable {sink : Sink}

theorem wholeWithin_cons (room : Nat) (line : List UInt8) (rest : List (List UInt8)) :
    wholeWithin room (line :: rest) =
      if line.length ≤ room then wholeWithin (room - line.length) rest + 1 else 0 := by
  have hfirst : ((line :: rest).take (0 + 1)).flatten.length = line.length := by simp
  have hlater : ∀ k, ((line :: rest).take (k + 1 + 1)).flatten.length =
      line.length + (rest.take (k + 1)).flatten.length := by
    intro k
    rw [List.take_succ_cons, List.flatten_cons, List.length_append]
  rw [wholeWithin, List.length_cons, List.range_succ_eq_map, List.countP_cons, List.countP_map,
    hfirst]
  by_cases hfits : line.length ≤ room
  · have hrest : ∀ k, line.length + (rest.take (k + 1)).flatten.length ≤ room ↔
        (rest.take (k + 1)).flatten.length ≤ room - line.length := by
      intro k
      rw [Nat.le_sub_iff_add_le' hfits]
    rw [if_pos hfits, if_pos (decide_eq_true hfits), wholeWithin]
    simp only [Function.comp_def, Nat.succ_eq_add_one, hlater, hrest]
  · have hnone : ∀ k ∈ List.range rest.length,
        ¬ line.length + (rest.take (k + 1)).flatten.length ≤ room :=
      fun k _ hwhole => hfits (Nat.le_trans (Nat.le_add_right _ _) hwhole)
    rw [if_neg hfits, if_neg (by simpa using hfits), Nat.add_zero, List.countP_eq_zero]
    simpa only [Function.comp_apply, Nat.succ_eq_add_one, hlater, decide_eq_true_eq] using hnone

/-- The third line begins within the room and does not end there. -/
example : wholeWithin 6 [[1, 2], [3, 4, 5], [6, 7]] = 2 := by decide

/-- Where there is no room, no line ends. -/
theorem wholeWithin_zero {lines : List (List UInt8)} (hlines : ∀ line ∈ lines, line ≠ []) :
    wholeWithin 0 lines = 0 := by
  cases lines with
  | nil => rfl
  | cons line rest =>
      have hline := List.length_pos_iff.mpr (hlines line List.mem_cons_self)
      rw [wholeWithin_cons, if_neg (by omega)]

theorem sendAll_cons (sink : Sink) (line : List UInt8) (rest : List (List UInt8)) :
    sink.sendAll (line :: rest) = (sink.send line).2.sendAll rest := rfl

theorem sendAll_append (sink : Sink) (lines more : List (List UInt8)) :
    sink.sendAll (lines ++ more) = (sink.sendAll lines).sendAll more :=
  List.foldl_append

/-- A sink without a bound takes every line. -/
theorem received_sendAll_of_unbounded (hroom : sink.room = none)
    (hpieces : sink.perWrite ≠ some 0) (lines : List (List UInt8)) :
    (sink.sendAll lines).received = sink.received ++ lines.flatten := by
  induction lines generalizing sink with
  | nil => exact (List.append_nil _).symm
  | cons line rest ih =>
      have hspent := (sink.send_leaves line).1
      have hnext : (sink.send line).2.room = none := by
        rw [hspent.room, hroom]
        rfl
      rw [sendAll_cons, ih hnext (hspent.perWrite ▸ hpieces), received_send hpieces, hroom,
        Option.getD_none, List.take_length, List.flatten_cons, List.append_assoc]

/-- A sink with limited room takes the beginning of the lines that it has room for,
and is flushed after each line that it took whole. -/
theorem sendAll_within {room : Nat} (hroom : sink.room = some room)
    (hpieces : sink.perWrite ≠ some 0) {lines : List (List UInt8)}
    (hlines : ∀ line ∈ lines, line ≠ []) :
    (sink.sendAll lines).received = sink.received ++ lines.flatten.take room ∧
      (sink.sendAll lines).flushes = sink.flushes + wholeWithin room lines := by
  induction lines generalizing sink room with
  | nil => exact ⟨by simp [sendAll], rfl⟩
  | cons line rest ih =>
      obtain ⟨hspent, hflushes⟩ := sink.send_leaves line
      have hreach : sink.reach line.length = min line.length room := by
        rw [reach_eq_min hpieces, hroom, Option.getD_some]
      have hleft : (sink.send line).2.room = some (room - line.length) := by
        rw [hspent.room, hroom, hreach, Option.map_some, Option.some.injEq]
        omega
      have hreceived : (sink.send line).2.received = sink.received ++ line.take room := by
        rw [received_send hpieces, hroom, Option.getD_some]
      have hrest : ∀ more ∈ rest, more ≠ [] := fun more hmore =>
        hlines more (List.mem_cons_of_mem line hmore)
      obtain ⟨ihreceived, ihflushes⟩ := ih hleft (hspent.perWrite ▸ hpieces) hrest
      rw [sendAll_cons]
      refine ⟨?_, ?_⟩
      · rw [ihreceived, hreceived, List.flatten_cons, List.take_append, List.append_assoc]
      · rw [ihflushes, hflushes, hreach, wholeWithin_cons]
        by_cases hfits : line.length ≤ room
        · rw [if_pos (by omega : min line.length room = line.length), if_pos hfits]
          omega
        · -- the room ends in this line, and there is none for the lines after it
          rw [if_neg (by omega : ¬ min line.length room = line.length), if_neg hfits,
            show room - line.length = 0 by omega, wholeWithin_zero hrest]

end Sink

/-! ## Replies are not empty -/

theorem Reply.bytes_ne_nil {reply : Reply} {code : Nat} (h : reply.status? = some code) :
    reply.bytes ≠ [] := by
  have htext : reply.encode.toList ≠ [] := by
    cases reply with
    | coded code detail =>
        simp only [encode]
        split <;> simp
    | raw line =>
        intro hnil
        rw [encode] at hnil
        simp [status?, hnil] at h
  intro hnil
  rw [bytes, Utf8.ofString, Utf8.encode, List.flatMap_eq_nil_iff] at hnil
  obtain ⟨c, hc⟩ := List.exists_mem_of_ne_nil _ htext
  exact String.utf8EncodeChar_ne_nil (hnil c hc)

theorem bytes_ne_nil_of_dispatch (settings : Settings) (conditions : Conditions)
    (session : Session) (request : Request) :
    ∀ reply ∈ (dispatch settings conditions session request).replies, reply.bytes ≠ [] := by
  intro reply hreply
  obtain ⟨codes, -, hstatus, -⟩ := (dispatch_handled settings conditions session request).answer
  have hmem : reply.status? ∈ codes.map some := hstatus ▸ List.mem_map_of_mem hreply
  obtain ⟨code, -, hcode⟩ := List.mem_map.mp hmem
  exact Reply.bytes_ne_nil hcode.symm

namespace Conversation

/-- The replies of a conversation, in order. -/
def replies (c : Conversation) : List Reply :=
  c.trace.toList.filterMap Effect.reply?

/-- Two conversations that have come equally far and have done the same. The writers
may differ, and with them the replies in the log, which are those that went out. -/
structure SameButWriter (c d : Conversation) : Prop where
  session : c.session = d.session
  trace : c.trace = d.trace
  dispatched : c.dispatched = d.dispatched
  afterwards : c.afterwards = d.afterwards
  requests : c.requests = d.requests

/-- A conversation whose writer has been given the replies and nothing else. -/
structure GivenReplies (writer : Sink) (c : Conversation) : Prop where
  writer : c.writer = writer.sendAll (c.replies.map Reply.bytes)
  bytes : ∀ reply ∈ c.replies, reply.bytes ≠ []

/-! ## What the writer is given -/

theorem writer_say (c : Conversation) (reply : Reply) :
    (c.say reply).writer = (c.writer.send reply.bytes).2 := by
  simp only [say, Reply.bytes]
  cases c.writer.send (Utf8.ofString reply.encode) with
  | mk answer after => cases answer <;> rfl

theorem writer_perform (c : Conversation) (effect : Effect) :
    (c.perform effect).writer =
      c.writer.sendAll (effect.reply?.toList.map Reply.bytes) := by
  simp only [perform]
  cases effect.reply? with
  | none => rfl
  | some reply => exact writer_say _ reply

theorem writer_performAll (c : Conversation) (effects : List Effect) :
    (effects.foldl perform c).writer =
      c.writer.sendAll ((effects.filterMap Effect.reply?).map Reply.bytes) := by
  induction effects generalizing c with
  | nil => rfl
  | cons effect rest ih =>
      have hfirst : (effect :: rest).filterMap Effect.reply? =
          effect.reply?.toList ++ rest.filterMap Effect.reply? := by
        cases hreply : effect.reply? <;> simp [hreply]
      rw [List.foldl_cons, ih, writer_perform, hfirst, List.map_append, Sink.sendAll_append]

theorem GivenReplies.performAll {writer : Sink} {c : Conversation} {effects : List Effect}
    (h : c.GivenReplies writer)
    (hbytes : ∀ reply ∈ effects.filterMap Effect.reply?, reply.bytes ≠ []) :
    (effects.foldl perform c).GivenReplies writer := by
  have hreplies : (effects.foldl perform c).replies =
      c.replies ++ effects.filterMap Effect.reply? := by
    rw [replies, (performAll_keeps c effects).1, Array.toList_append, List.filterMap_append]
    rfl
  refine ⟨?_, fun reply hreply => ?_⟩
  · rw [writer_performAll, h.writer, hreplies, List.map_append, Sink.sendAll_append]
  · rw [hreplies] at hreply
    rcases List.mem_append.mp hreply with hbefore | hnow
    · exact h.bytes reply hbefore
    · exact hbytes reply hnow

section
variable (settings : Settings) (client : SocketAddress) (world : Nat → Conditions)

/-- A reply that stands for itself, such as the greeting. -/
theorem GivenReplies.perform {writer : Sink} {c : Conversation} (h : c.GivenReplies writer)
    (code : ReplyCode) (detail : String) :
    (c.perform (.reply (.coded code detail))).GivenReplies writer := by
  have hbytes : ∀ reply ∈ [Effect.reply (.coded code detail)].filterMap Effect.reply?,
      reply.bytes ≠ [] := by
    intro reply hreply
    obtain rfl : reply = .coded code detail := List.mem_singleton.mp hreply
    exact Reply.bytes_ne_nil rfl
  exact h.performAll hbytes

theorem GivenReplies.answer {writer : Sink} {c : Conversation} (h : c.GivenReplies writer)
    (frame : Frame) : (c.answer settings client world frame).GivenReplies writer := by
  cases frame with
  | overlong kept => exact h.perform _ _
  | line bytes =>
      have hlogged : GivenReplies writer
          { c with log := c.log.push (.request client (lineOf bytes)) } := ⟨h.writer, h.bytes⟩
      have hbytes := bytes_ne_nil_of_dispatch settings (world c.dispatched) c.session
        (Request.parse (lineOf bytes))
      simp only [Conversation.answer, answerBy]
      generalize dispatch settings (world c.dispatched) c.session (Request.parse (lineOf bytes)) =
        outcome at hbytes ⊢
      have htold := hlogged.performAll hbytes
      exact ⟨htold.writer, htold.bytes⟩

theorem givenReplies_run (session : Session) (writer : Sink) (incoming : Incoming) :
    (run settings client world session writer incoming).GivenReplies writer := by
  have hstart : GivenReplies writer { session, writer } := ⟨rfl, fun reply hreply => nomatch hreply⟩
  exact answerAll_invariant settings client world (hstart.perform _ _) fun _ frame h =>
    h.answer settings client world frame

/-! ## The writer makes no difference -/

theorem SameButWriter.perform {c d : Conversation} (h : c.SameButWriter d) (effect : Effect) :
    (c.perform effect).SameButWriter (d.perform effect) := by
  obtain ⟨csession, ctrace, cdispatched, cafterwards, crequests⟩ := perform_keeps c effect
  obtain ⟨dsession, dtrace, ddispatched, dafterwards, drequests⟩ := perform_keeps d effect
  exact ⟨by rw [csession, dsession, h.session], by rw [ctrace, dtrace, h.trace],
    by rw [cdispatched, ddispatched, h.dispatched],
    by rw [cafterwards, dafterwards, h.afterwards], by rw [crequests, drequests, h.requests]⟩

theorem SameButWriter.answer {c d : Conversation} (h : c.SameButWriter d) (frame : Frame) :
    (c.answer settings client world frame).SameButWriter
      (d.answer settings client world frame) := by
  cases frame with
  | overlong kept => exact h.perform (.reply tooLong)
  | line bytes =>
      obtain ⟨csession, ctrace, cdispatched, cafterwards, crequests⟩ :=
        answer_line settings client world c bytes
      obtain ⟨dsession, dtrace, ddispatched, dafterwards, drequests⟩ :=
        answer_line settings client world d bytes
      rw [← h.session, ← h.dispatched] at dsession dtrace dafterwards
      exact ⟨by rw [csession, dsession], by rw [ctrace, dtrace, h.trace],
        by rw [cdispatched, ddispatched, h.dispatched], by rw [cafterwards, dafterwards],
        by rw [crequests, drequests, h.requests]⟩

theorem sameButWriter_answerAll (session : Session) (writer other : Sink) (frames : List Frame) :
    ((greet session writer).answerAll settings client world frames).SameButWriter
      ((greet session other).answerAll settings client world frames) := by
  have hstart : SameButWriter { session, writer } { session, writer := other } :=
    ⟨rfl, rfl, rfl, rfl, rfl⟩
  exact answerAll_related settings client world (hstart.perform _) (fun h => h.afterwards)
    fun _ _ frame h => h.answer settings client world frame

/-- A control connection with limited room changes what the client reads and nothing
else, whatever it does when the room is used up, however little it takes at once and
whether it can be flushed or not. After every frame the session, the requests and all
effects, the bytes on data connections among them, are those of a conversation whose
replies all arrive, and both close at the same frame. The client reads the beginning
of the replies, as far as the room goes, and there is a flush for each reply that
lies in it whole. -/
theorem run_same_but_writer (session : Session) (incoming : Incoming) {writer : Sink}
    {room : Nat} (hroom : writer.room = some room) (hpieces : writer.perWrite ≠ some 0) :
    let frames := incoming.frames settings.maxCommandLength
    let c := run settings client world session writer incoming
    let d := run settings client world session {} incoming
    let lines := d.replies.map Reply.bytes
    (∀ count,
      ((greet session writer).answerAll settings client world (frames.take count)).SameButWriter
        ((greet session {}).answerAll settings client world (frames.take count))) ∧
      c.SameButWriter d ∧ d.writer.received = lines.flatten ∧
      c.writer.received = writer.received ++ d.writer.received.take room ∧
      c.writer.flushes = writer.flushes + Sink.wholeWithin room lines := by
  intro frames c d lines
  have hsame : c.SameButWriter d :=
    sameButWriter_answerAll settings client world session writer {} frames
  have hgiven : c.GivenReplies writer :=
    givenReplies_run settings client world session writer incoming
  have hall : d.GivenReplies {} := givenReplies_run settings client world session {} incoming
  have hreplies : c.replies.map Reply.bytes = lines := by
    simp only [lines, replies, hsame.trace]
  have hlines : ∀ line ∈ lines, line ≠ [] := by
    intro line hline
    obtain ⟨reply, hreply, rfl⟩ := List.mem_map.mp hline
    exact hall.bytes reply hreply
  have hperfect : d.writer.received = lines.flatten := by
    rw [hall.writer]
    exact Sink.received_sendAll_of_unbounded rfl (by decide) lines
  obtain ⟨hreceived, hflushes⟩ := Sink.sendAll_within hroom hpieces hlines
  refine ⟨fun count => sameButWriter_answerAll settings client world session writer {} _, hsame,
    hperfect, ?_, ?_⟩
  · rw [hgiven.writer, hreplies, hreceived, hperfect]
  · rw [hgiven.writer, hreplies, hflushes]

end

/-- A client that logs in and leaves. -/
def leaving : Incoming where
  reads := [Utf8.ofString "USER cs317\r\nQUIT\r\n"]

/-- It is logged in and its connection closed although it cannot be told: there is
room for the greeting and the beginning of a reply, and no flush succeeds. -/
theorem run_same_but_writer_leaving :
    let client : SocketAddress := .v4 ⟨127, 0, 0, 1⟩ 5000
    let world : Nat → Conditions := fun _ => { tree := ⟨[]⟩, attempts := fun _ => ⟨2000, .opened⟩ }
    let session : Session := .start (.ofString "/r")
    let writer : Sink :=
      { room := some 40
        whenFull := some .brokenPipe
        perWrite := some 3
        flushFailure := some .timedOut }
    let c := run {} client world session writer leaving
    writer.room = some 40 ∧ writer.perWrite ≠ some 0 ∧
      c.session.loggedIn = true ∧ c.afterwards = .close ∧
      c.writer.received = Utf8.ofString "220 Service ready for new user.\r\n230 Use" ∧
      c.writer.flushes = 1 := by
  intro client world session writer c
  have hroom : writer.room = some 40 := rfl
  have hpieces : writer.perWrite ≠ some 0 := by decide
  obtain ⟨-, hsame, hall, hreceived, hflushes⟩ :=
    run_same_but_writer {} client world session leaving hroom hpieces
  have hperfect : (let d := run {} client world session {} leaving
      (d.session.loggedIn, d.afterwards, d.replies)) =
      (true, .close,
        [.plain .serviceReady, .plain .loggedIn, .plain .closingControlConnection]) := by
    cbv
  simp only [Prod.mk.injEq] at hperfect
  obtain ⟨hin, hdone, hreplies⟩ := hperfect
  rw [hreplies] at hall hflushes
  refine ⟨hroom, hpieces, ?_, ?_, ?_, ?_⟩
  · exact (congrArg Session.loggedIn hsame.session).trans hin
  · exact hsame.afterwards.trans hdone
  · rw [hall] at hreceived
    exact hreceived.trans (by cbv)
  · exact hflushes.trans (by cbv)

end Conversation

end PassiveFtp
