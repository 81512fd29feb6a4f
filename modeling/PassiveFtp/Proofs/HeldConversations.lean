import Mathlib
import PassiveFtp.Proofs.FailingWriter
import PassiveFtp.Proofs.TruthfulReplies

/-!
# What a conversation comes to with the buffers there can be

A conversation that is held reserves a buffer for its lines before it greets. If
there cannot be one it is over before anything is said. If there can, it greets
and follows the pieces of its stream (`hold_eq_follow`), and a buffer it may lack
for a file later ends it as any other last line does.

What following means is said here without the functions that do it: where a
stream is cut (`Framing.AreLines`), what text a piece stands for (`IsLineOf`),
and what a line and a line that is too long make of a conversation (`Obeys`,
`TurnsDown`).

Where the settings ask for no more than there can be, all this is a conversation
that lacks nothing (`hold_eq_run`).
-/

namespace PassiveFtp

/-- Some bytes, cut after every line feed and nowhere else. -/
structure Framing.AreLines (pieces : List (List UInt8)) (bytes : List UInt8) : Prop where
  whole : pieces.flatten = bytes
  nonempty : [] ∉ pieces
  single : ∀ piece ∈ pieces, lineFeed ∉ piece.dropLast
  ended : ∀ piece ∈ pieces.dropLast, piece.getLast? = some lineFeed

namespace Conversation

open Framing

/-- The line that some bytes stand for: their text, what is no text in it
replaced, up to the first carriage return or line feed. -/
def IsLineOf (bytes : List UInt8) (line : String) : Prop :=
  ∃ text, Utf8.Replaced bytes text ∧
    line.toList = text.takeWhile fun c => c ≠ '\r' ∧ c ≠ '\n'

/-- A conversation that has greeted, and nothing else. -/
structure Greets (session : Session) (writer : Sink) (c : Conversation) : Prop where
  session : c.session = session
  trace : c.trace = #[.reply (.plain .serviceReady)]
  writer : c.writer = (writer.send (Utf8.ofString "220 Service ready for new user.\r\n")).2
  dispatched : c.dispatched = 0
  requests : c.requests = []
  afterwards : c.afterwards = .readOn

/-- The line that a piece stands for has been handled once. -/
structure Obeys (handle : Handler) (world : Nat → Conditions) (c : Conversation)
    (line : String) (next : Conversation) : Prop where
  session : next.session = (handle (world c.dispatched) c.session (.parse line)).session
  trace : next.trace =
    c.trace ++ (handle (world c.dispatched) c.session (.parse line)).effects.toArray
  writer : next.writer = c.writer.sendAll
    ((handle (world c.dispatched) c.session (.parse line)).replies.map Reply.bytes)
  afterwards : next.afterwards = (handle (world c.dispatched) c.session (.parse line)).afterwards
  dispatched : next.dispatched = c.dispatched + 1
  requests : next.requests = c.requests ++ [line]

/-- A line has been turned down for its length, with one reply and nothing else. -/
structure TurnsDown (c next : Conversation) : Prop where
  session : next.session = c.session
  trace : next.trace = c.trace.push
    (.reply (.coded .commandUnrecognized "Command too long."))
  writer : next.writer = (c.writer.send (Utf8.ofString
    "500 Syntax error, command unrecognized. Command too long.\r\n")).2
  afterwards : next.afterwards = c.afterwards
  dispatched : next.dispatched = c.dispatched
  requests : next.requests = c.requests

end Conversation

/-! ## The reference -/

theorem Framing.areLines_pieces (bytes : List UInt8) : AreLines (pieces bytes) bytes := by
  induction bytes using line_induction with
  | nil => exact ⟨rfl, List.not_mem_nil, by simp [pieces], by simp [pieces]⟩
  | unfinished body hbody hne =>
      rw [pieces_of_not_mem hbody hne]
      refine ⟨List.flatten_singleton, by simpa using Ne.symm hne, ?_, by simp⟩
      intro piece hpiece hmem
      rw [List.mem_singleton.mp hpiece] at hmem
      exact hbody (List.mem_of_mem_dropLast hmem)
  | line body rest hbody ih =>
      refine ⟨flatten_pieces _, ?_, ?_, ?_⟩
      · rw [pieces_append_lineFeed hbody]
        simpa using ih.nonempty
      · rw [pieces_append_lineFeed hbody]
        intro piece hpiece
        rcases List.mem_cons.mp hpiece with rfl | hlater
        · rwa [List.dropLast_concat]
        · exact ih.single piece hlater
      · rw [pieces_append_lineFeed hbody]
        intro piece hpiece
        cases hrest : pieces rest with
        | nil => simp [hrest] at hpiece
        | cons next more =>
            rw [hrest, List.dropLast_cons_cons] at hpiece
            rcases List.mem_cons.mp hpiece with rfl | hlater
            · exact List.getLast?_concat
            · exact ih.ended piece (by rwa [hrest])

namespace Conversation

open Framing

variable (settings : Settings) (client : SocketAddress) (world : Nat → Conditions)

theorem isLineOf_lineOf (bytes : List UInt8) : IsLineOf bytes (lineOf bytes) := by
  refine ⟨_, Utf8.replaced_decodeLossy bytes, ?_⟩
  have hends : (fun c => !Request.endsLine c) = fun c => decide (c ≠ '\r' ∧ c ≠ '\n') := by
    funext c
    simp only [Request.endsLine, Bool.not_or, Bool.decide_and, decide_not]
    rfl
  rw [lineOf, Request.stripEnd, Utf8.toStringLossy, String.toList_ofList, String.toList_ofList,
    hends]

theorem greets_greet (session : Session) (writer : Sink) :
    (greet session writer).Greets session writer := by
  obtain ⟨hsession, htrace, hdispatched, hafter, hrequests⟩ :=
    perform_keeps { session, writer } (.reply (.plain .serviceReady))
  refine ⟨hsession, htrace, ?_, hdispatched, hrequests, hafter⟩
  have hline : (Reply.plain .serviceReady).bytes =
      Utf8.ofString "220 Service ready for new user.\r\n" := by
    decide +kernel
  exact hline ▸ writer_perform _ _

theorem obeys_obey (handle : Handler) (c : Conversation) (piece : List UInt8) :
    c.Obeys handle world (lineOf piece) (c.obey handle client world piece) := by
  obtain ⟨hsession, htrace, hdispatched, hafter, hrequests⟩ :=
    answerBy_line handle client world c piece
  exact ⟨hsession, htrace, writer_performAll _ _, hafter, hdispatched, hrequests⟩

theorem turnsDown_tooLong (c : Conversation) : c.TurnsDown (c.perform (.reply tooLong)) := by
  obtain ⟨hsession, htrace, hdispatched, hafter, hrequests⟩ := perform_keeps c (.reply tooLong)
  have hline : tooLong.bytes =
      Utf8.ofString "500 Syntax error, command unrecognized. Command too long.\r\n" := by
    decide +kernel
  exact ⟨hsession, htrace, hline ▸ writer_perform c _, hafter, hdispatched, hrequests⟩

/-! ## Holding a conversation -/

theorem hold_of_fits (h : Buffer.Fits settings.maxCommandLength) (session : Session)
    (writer : Sink) (incoming : Incoming) :
    hold settings client world session writer incoming =
      (greet session writer).answerAllBy (dispatchInTask settings) client world
        (incoming.frames settings.maxCommandLength) := by
  have hopen : (greet session writer).afterwards = .readOn := (greet_keeps session writer).2.2.1
  simp only [hold, start, if_pos h, hopen]

theorem hold_of_not_fits (h : ¬ Buffer.Fits settings.maxCommandLength) (session : Session)
    (writer : Sink) (incoming : Incoming) :
    hold settings client world session writer incoming =
      { session, writer, afterwards := .breakOff } := by
  simp only [hold, start, if_neg h]

/-- A conversation for whose lines there can be a buffer greets and then follows
the pieces of its stream, however the stream is read. A read of nothing in between
is the end of the stream; one that interrupts a line is found out only by reading
on. A piece that is too long leaves everything as it was and gets one reply. A
stream that fails takes the line with it that it fails in, and no more of a line is
ever held than one byte beyond what it may have.

Without a buffer nothing is said and nothing is read. -/
theorem hold_eq_follow (session : Session) (writer : Sink) :
    let limit := settings.maxCommandLength
    let handle := dispatchInTask settings
    let held := hold settings client world session writer
    let told := fun fails bytes =>
      (greet session writer).follow handle limit client world fails (pieces bytes)
    (Buffer.Fits limit →
      (∀ incoming : Incoming, [] ∉ incoming.reads →
        held incoming = told incoming.failure.isSome incoming.reads.flatten) ∧
      ∀ (reads rest : List (List UInt8)) (failure : Option IoError), [] ∉ reads →
        held { reads := reads ++ [] :: rest, failure } =
          if (told false reads.flatten).afterwards = .readOn ∧
              isUnfinished reads.flatten = true then
            (told false reads.flatten).answerAllBy handle client world
              (Incoming.frames limit { reads := rest, failure })
          else told false reads.flatten) ∧
    (¬ Buffer.Fits limit → ∀ incoming : Incoming,
      held incoming = { session, writer, afterwards := .breakOff }) ∧
    (greet session writer).Greets session writer ∧
    (∀ bytes, AreLines (pieces bytes) bytes) ∧
    (∀ (c : Conversation) (piece : List UInt8), ∃ line, IsLineOf piece line ∧
      c.Obeys handle world line (c.obey handle client world piece)) ∧
    (∀ c : Conversation, c.TurnsDown (c.perform (.reply tooLong))) ∧
    (∀ whole body : List UInt8, isUnfinished whole = false → lineFeed ∉ body →
      told true (whole ++ body) =
        if (told false whole).afterwards = .readOn ∧ limit < body.length then
          (told false whole).perform (.reply tooLong)
        else told false whole) ∧
    ∀ (fails : Bool) (reads left : List (List UInt8)) (kept : List UInt8),
      readLine fails (limit + 1) reads = (some kept, left) → kept.length ≤ limit + 1 := by
  intro limit handle held told
  have hopen : (greet session writer).afterwards = .readOn := (greet_keeps session writer).2.2.1
  refine ⟨fun hfits => ⟨?_, ?_⟩, fun hfits => hold_of_not_fits settings client world hfits _ _,
    greets_greet session writer, areLines_pieces,
    fun c piece => ⟨_, isLineOf_lineOf piece, obeys_obey client world handle c piece⟩,
    turnsDown_tooLong, fun whole body hwhole hbody => follow_of_failure hwhole hbody _,
    fun _ _ _ _ h => length_readLine_le h⟩
  · intro incoming hreads
    show hold settings client world session writer incoming = _
    rw [hold_of_fits settings client world hfits, frames_eq_pieces hreads]
    exact (follow_eq_answerAllBy hopen _).symm
  · intro reads rest failure hreads
    show hold settings client world session writer _ = _
    rw [hold_of_fits settings client world hfits, frames_eq_pieces_of_pause hreads,
      answerAllBy_append _ client world hopen, ← follow_eq_answerAllBy hopen]
    show (if (told false reads.flatten).afterwards = .readOn then _ else _) = _
    by_cases hafter : (told false reads.flatten).afterwards = .readOn
    · cases isUnfinished reads.flatten <;> simp [hafter, answerAllBy, told, handle, limit]
    · simp [hafter, told, handle, limit]

/-- With a buffer for the chunks of a file nothing breaks off. -/
theorem dispatchInTask_of_fits (h : Buffer.Fits (max settings.bufferSize 1)) :
    dispatchInTask settings = dispatch settings := by
  funext conditions session request
  have hnone : Dispatch.unbuffered? settings conditions session request = none := by
    rw [Dispatch.unbuffered?]
    split
    · split
      · next found _ =>
          split
          · next hsent => exact absurd h (Transfer.sendFile?_eq_none_iff.mp hsent).2
          · rfl
      · rfl
    · rfl
  rw [dispatchInTask, hnone]

/-- Where there can be both buffers, a conversation is held as one that lacks
nothing. -/
theorem hold_eq_run (hline : Buffer.Fits settings.maxCommandLength)
    (hchunk : Buffer.Fits (max settings.bufferSize 1)) :
    hold settings client world = run settings client world := by
  funext session writer incoming
  rw [hold_of_fits settings client world hline, dispatchInTask_of_fits settings hchunk]
  rfl

/-- A stream with a line of five bytes, in two reads, one of three bytes, and an
unfinished one of one byte, where it fails. -/
def failing : Incoming where
  reads := [[0x51], [0x55, 0x49, 0x54, 0x0A, 0x4E, 0x4F, 0x0A, 0x58]]
  failure := some (.bare .connectionReset)

/-- Where four bytes are allowed, the first line is turned down, the second one
handled and the third one lost. -/
theorem hold_eq_follow_failing :
    let settings : Settings := { maxCommandLength := 4 }
    let client : SocketAddress := .v4 ⟨127, 0, 0, 1⟩ 5000
    let world : Nat → Conditions := fun _ => { tree := ⟨[]⟩, attempts := fun _ => ⟨2000, .opened⟩ }
    let session : Session := .start (.ofString "/r")
    let c := hold settings client world session {} failing
    Buffer.Fits settings.maxCommandLength ∧ [] ∉ failing.reads ∧
      c.trace = #[.reply (.plain .serviceReady), .reply tooLong,
        .reply (.plain .commandUnrecognized)] ∧
      c.requests = ["NO"] ∧ c.session = session ∧ c.afterwards = .readOn := by
  intro settings client world session c
  obtain ⟨hheld, -, hgreets, -, -, hturned, hfails, -⟩ :=
    hold_eq_follow settings client world session {}
  have hfirst := hturned (greet session {})
  have hopen : ((greet session {}).perform (.reply tooLong)).afterwards = .readOn :=
    hfirst.afterwards.trans hgreets.afterwards
  have hpieces : pieces [0x51, 0x55, 0x49, 0x54, 0x0A, 0x4E, 0x4F, 0x0A] =
      [[0x51, 0x55, 0x49, 0x54, 0x0A], [0x4E, 0x4F, 0x0A]] := by decide
  have hfollowed : follow (dispatchInTask settings) settings.maxCommandLength client world false
      (greet session {}) (pieces [0x51, 0x55, 0x49, 0x54, 0x0A, 0x4E, 0x4F, 0x0A]) =
      ((greet session {}).perform (.reply tooLong)).obey (dispatchInTask settings) client world
        [0x4E, 0x4F, 0x0A] := by
    rw [hpieces, follow_cons, heed, if_neg (by simp [hgreets.afterwards]), if_pos (by decide),
      follow_cons, heed, if_neg (by simp [hopen]), if_neg (by decide), if_neg (by decide)]
    rfl
  have hheeded : c = ((greet session {}).perform (.reply tooLong)).obey (dispatchInTask settings)
      client world [0x4E, 0x4F, 0x0A] := by
    refine ((hheld (by decide)).1 failing (by decide)).trans ?_
    refine (hfails [0x51, 0x55, 0x49, 0x54, 0x0A, 0x4E, 0x4F, 0x0A] [0x58] (by decide)
      (by decide)).trans ?_
    exact (if_neg fun h => absurd h.2 (by decide)).trans hfollowed
  have hobeyed := obeys_obey client world (dispatchInTask settings)
    ((greet session {}).perform (.reply tooLong)) [0x4E, 0x4F, 0x0A]
  rw [← hheeded, show lineOf [0x4E, 0x4F, 0x0A] = "NO" by decide +kernel] at hobeyed
  have hsession := hfirst.session.trans hgreets.session
  refine ⟨by decide, by decide, ?_, ?_, ?_, ?_⟩
  · rw [hobeyed.trace, hfirst.trace, hgreets.trace, hsession]
    rfl
  · rw [hobeyed.requests, hfirst.requests, hgreets.requests]
    rfl
  · rw [hobeyed.session, hsession]
    rfl
  · rw [hobeyed.afterwards, hsession]
    rfl

/-- A limit that is valid and for which there cannot be a buffer: the client that
logs in is not even greeted. -/
theorem hold_without_greeting :
    let settings : Settings := { maxCommandLength := 2 ^ 63 }
    let client : SocketAddress := .v4 ⟨127, 0, 0, 1⟩ 5000
    let world : Nat → Conditions := fun _ => { tree := ⟨[]⟩, attempts := fun _ => ⟨2000, .opened⟩ }
    let c := hold settings client world (.start (.ofString "/r")) {}
      { reads := [Utf8.ofString "USER cs317\r\n"] }
    settings.maxCommandLength + 1 < 2 ^ 64 ∧ c.trace = #[] ∧ c.writer.received = [] ∧
      c.dispatched = 0 := by
  intro settings client world c
  have hheld : c = { session := .start (.ofString "/r"), writer := {}, afterwards := .breakOff } :=
    hold_of_not_fits settings client world (by decide) _ _ _
  rw [hheld]
  exact ⟨by decide, rfl, rfl, rfl⟩

end Conversation

end PassiveFtp
