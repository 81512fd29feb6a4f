import PassiveFtp.Control.Conversation
import PassiveFtp.Proofs.Framing

/-!
# A conversation follows the stream piece by piece

`Conversation.follow` is a conversation told from the stream alone: cut the
bytes after every line feed and go through the pieces in order. It knows no
reads, no buffer and no frames. A conversation that frames its reads comes to
the same, whatever the reads are.

An open conversation does to a piece what it does to the frame that becomes of
it, and a closed one does nothing (`heed_of_readOn`, `follow_of_close`). So
following the pieces is answering the frames that become of them, and framing
shows that these are the frames of the stream. The rest is about what an answer
keeps: saying something changes the writer and the log and nothing else.
-/

namespace PassiveFtp

/-- The line of a logged request. -/
def LogEntry.request? : LogEntry → Option String
  | .request _ line => some line
  | .reply _ => none

/-- The line a frame holds, if it is not too long. -/
def Frame.line? : Frame → Option String
  | .line bytes => some (Conversation.lineOf bytes)
  | .overlong _ => none

namespace Conversation

open Framing

section
variable (handle : Handler) (limit : Nat) (client : SocketAddress) (world : Nat → Conditions)

/-- A piece of a stream is obeyed: it is read as text up to its first line end,
taken apart, and dispatched once. -/
def obey (c : Conversation) (piece : List UInt8) : Conversation :=
  let line := Request.stripEnd (Utf8.toStringLossy piece)
  let outcome := handle (world c.dispatched) c.session (Request.parse line)
  let told := outcome.effects.foldl perform { c with log := c.log.push (.request client line) }
  { told with
    session := outcome.session
    dispatched := told.dispatched + 1
    afterwards := outcome.afterwards }

/-- What a piece of a stream makes of a conversation. Once the conversation is
over, nothing counts. A piece that is too long is answered in one fixed way, and
one that the stream fails in is answered by nobody. -/
def heed (fails : Bool) (c : Conversation) (piece : List UInt8) : Conversation :=
  if c.afterwards ≠ .readOn then c
  else if limit < piece.length then c.perform (.reply tooLong)
  else if fails && !isEnded piece then c
  else c.obey handle client world piece

/-- A conversation told from the pieces of a stream, in order. -/
def follow (fails : Bool) (c : Conversation) (pieces : List (List UInt8)) : Conversation :=
  pieces.foldl (heed handle limit client world fails) c

end

/-- The lines that have been dispatched, in order. -/
def requests (c : Conversation) : List String :=
  c.log.toList.filterMap LogEntry.request?

/-! ## Saying something

A reply that goes out leaves its mark on the writer and the log, and one that
fails on the writer. -/

theorem say_keeps (c : Conversation) (reply : Reply) :
    (c.say reply).session = c.session ∧ (c.say reply).trace = c.trace ∧
      (c.say reply).dispatched = c.dispatched ∧ (c.say reply).afterwards = c.afterwards ∧
      (c.say reply).requests = c.requests := by
  simp only [say]
  split
  · simp [requests, LogEntry.request?]
  · simp [requests]

theorem perform_keeps (c : Conversation) (effect : Effect) :
    (c.perform effect).session = c.session ∧ (c.perform effect).trace = c.trace.push effect ∧
      (c.perform effect).dispatched = c.dispatched ∧
      (c.perform effect).afterwards = c.afterwards ∧ (c.perform effect).requests = c.requests := by
  simp only [perform]
  split
  · exact say_keeps _ _
  · exact ⟨rfl, rfl, rfl, rfl, rfl⟩

theorem performAll_keeps (c : Conversation) (effects : List Effect) :
    (effects.foldl perform c).trace = c.trace ++ effects.toArray ∧
      (effects.foldl perform c).dispatched = c.dispatched ∧
      (effects.foldl perform c).requests = c.requests := by
  induction effects generalizing c with
  | nil => simp
  | cons effect rest ih =>
      obtain ⟨-, htrace, hdispatched, -, hrequests⟩ := perform_keeps c effect
      obtain ⟨ihtrace, ihdispatched, ihrequests⟩ := ih (c.perform effect)
      rw [List.foldl_cons, ihtrace, ihdispatched, ihrequests, htrace, hdispatched, hrequests]
      simp

/-! ## Answering

A line that is too long is answered and otherwise passed over. -/

section
variable (handle : Handler) (client : SocketAddress) (world : Nat → Conditions)

theorem answerBy_overlong (c : Conversation) (kept : List UInt8) :
    let next := c.answerBy handle client world (.overlong kept)
    next.session = c.session ∧ next.trace = c.trace.push (.reply tooLong) ∧
      next.dispatched = c.dispatched ∧ next.afterwards = c.afterwards ∧
      next.requests = c.requests :=
  perform_keeps c (.reply tooLong)

/-- A line is dispatched once, in the session as it is. -/
theorem answerBy_line (c : Conversation) (bytes : List UInt8) :
    let outcome := handle (world c.dispatched) c.session (Request.parse (lineOf bytes))
    let next := c.answerBy handle client world (.line bytes)
    next.session = outcome.session ∧ next.trace = c.trace ++ outcome.effects.toArray ∧
      next.dispatched = c.dispatched + 1 ∧ next.afterwards = outcome.afterwards ∧
      next.requests = c.requests ++ [lineOf bytes] := by
  obtain ⟨htrace, hdispatched, hrequests⟩ :=
    performAll_keeps { c with log := c.log.push (.request client (lineOf bytes)) }
      (handle (world c.dispatched) c.session (Request.parse (lineOf bytes))).effects
  simp only [requests] at hrequests
  simp only [answerBy, requests, htrace, hdispatched, hrequests]
  simp [LogEntry.request?]

/-! ## Answering one after the other -/

theorem answerAllBy_cons_of_readOn {c : Conversation} {frame : Frame}
    (h : (c.answerBy handle client world frame).afterwards = .readOn) (rest : List Frame) :
    c.answerAllBy handle client world (frame :: rest) =
      (c.answerBy handle client world frame).answerAllBy handle client world rest := by
  rw [answerAllBy]
  simp only [h]

theorem answerAllBy_cons_of_over {c : Conversation} {frame : Frame}
    (h : (c.answerBy handle client world frame).afterwards ≠ .readOn) (rest : List Frame) :
    c.answerAllBy handle client world (frame :: rest) = c.answerBy handle client world frame := by
  rw [answerAllBy]
  cases hafter : (c.answerBy handle client world frame).afterwards with
  | readOn => exact absurd hafter h
  | close | breakOff => rfl

/-- An open conversation goes on where some lines have left it, unless they
have ended it. -/
theorem answerAllBy_append {c : Conversation} (hopen : c.afterwards = .readOn)
    (frames more : List Frame) :
    c.answerAllBy handle client world (frames ++ more) =
      if (c.answerAllBy handle client world frames).afterwards = .readOn then
        (c.answerAllBy handle client world frames).answerAllBy handle client world more
      else c.answerAllBy handle client world frames := by
  induction frames generalizing c with
  | nil => simp only [List.nil_append, answerAllBy, hopen, if_true]
  | cons frame rest ih =>
      rw [List.cons_append]
      by_cases hafter : (c.answerBy handle client world frame).afterwards = .readOn
      · rw [answerAllBy_cons_of_readOn handle client world hafter,
          answerAllBy_cons_of_readOn handle client world hafter, ih hafter]
      · rw [answerAllBy_cons_of_over handle client world hafter,
          answerAllBy_cons_of_over handle client world hafter]
        exact (if_neg hafter).symm

end

section
variable (settings : Settings) (client : SocketAddress) (world : Nat → Conditions)

theorem answer_overlong (c : Conversation) (kept : List UInt8) :
    let next := c.answer settings client world (.overlong kept)
    next.session = c.session ∧ next.trace = c.trace.push (.reply tooLong) ∧
      next.dispatched = c.dispatched ∧ next.afterwards = c.afterwards ∧
      next.requests = c.requests :=
  perform_keeps c (.reply tooLong)

theorem answer_line (c : Conversation) (bytes : List UInt8) :
    let outcome :=
      dispatch settings (world c.dispatched) c.session (Request.parse (lineOf bytes))
    let next := c.answer settings client world (.line bytes)
    next.session = outcome.session ∧ next.trace = c.trace ++ outcome.effects.toArray ∧
      next.dispatched = c.dispatched + 1 ∧ next.afterwards = outcome.afterwards ∧
      next.requests = c.requests ++ [lineOf bytes] :=
  answerBy_line (dispatch settings) client world c bytes

theorem answerAll_nil (c : Conversation) : c.answerAll settings client world [] = c := rfl

theorem answerAll_cons_of_readOn {c : Conversation} {frame : Frame}
    (h : (c.answer settings client world frame).afterwards = .readOn) (rest : List Frame) :
    c.answerAll settings client world (frame :: rest) =
      (c.answer settings client world frame).answerAll settings client world rest :=
  answerAllBy_cons_of_readOn (dispatch settings) client world h rest

theorem answerAll_cons_of_over {c : Conversation} {frame : Frame}
    (h : (c.answer settings client world frame).afterwards ≠ .readOn) (rest : List Frame) :
    c.answerAll settings client world (frame :: rest) = c.answer settings client world frame :=
  answerAllBy_cons_of_over (dispatch settings) client world h rest

theorem answerAll_singleton (c : Conversation) (frame : Frame) :
    c.answerAll settings client world [frame] = c.answer settings client world frame := by
  by_cases hafter : (c.answer settings client world frame).afterwards = .readOn
  · rw [answerAll_cons_of_readOn settings client world hafter, answerAll_nil]
  · rw [answerAll_cons_of_over settings client world hafter]

/-- What each line of a conversation keeps, the conversation keeps. -/
theorem answerAll_invariant {Inv : Conversation → Prop} {c : Conversation} {frames : List Frame}
    (hstart : Inv c)
    (hstep : ∀ (c : Conversation) (frame : Frame), Inv c →
      Inv (c.answer settings client world frame)) :
    Inv (c.answerAll settings client world frames) := by
  induction frames generalizing c with
  | nil => exact hstart
  | cons frame rest ih =>
      have hnext := hstep c frame hstart
      by_cases hafter : (c.answer settings client world frame).afterwards = .readOn
      · rw [answerAll_cons_of_readOn settings client world hafter]
        exact ih hnext
      · rw [answerAll_cons_of_over settings client world hafter]
        exact hnext

/-- What each line keeps between two conversations, the conversations keep, as long
as it tells that they are closed together. -/
theorem answerAll_related {Rel : Conversation → Conversation → Prop}
    {other : Nat → Conditions} {c d : Conversation} {frames : List Frame} (hstart : Rel c d)
    (hclose : ∀ {c d : Conversation}, Rel c d → c.afterwards = d.afterwards)
    (hstep : ∀ (c d : Conversation) (frame : Frame), Rel c d →
      Rel (c.answer settings client world frame) (d.answer settings client other frame)) :
    Rel (c.answerAll settings client world frames) (d.answerAll settings client other frames) := by
  induction frames generalizing c d with
  | nil => exact hstart
  | cons frame rest ih =>
      have hnext := hstep c d frame hstart
      have hagree := hclose hnext
      by_cases hafter : (c.answer settings client world frame).afterwards = .readOn
      · rw [answerAll_cons_of_readOn settings client world hafter,
          answerAll_cons_of_readOn settings client other (hagree ▸ hafter)]
        exact ih hnext
      · rw [answerAll_cons_of_over settings client world hafter,
          answerAll_cons_of_over settings client other (hagree ▸ hafter)]
        exact hnext

/-- The lines that are dispatched are the first ones that are short enough, and
all of them as long as the conversation is open. -/
theorem requests_answerAll {c : Conversation} (hopen : c.afterwards = .readOn)
    (frames : List Frame) :
    ∃ lines, (c.answerAll settings client world frames).requests = c.requests ++ lines ∧
      lines <+: frames.filterMap Frame.line? ∧
      ((c.answerAll settings client world frames).afterwards = .readOn →
        lines = frames.filterMap Frame.line?) := by
  induction frames generalizing c with
  | nil => exact ⟨[], (List.append_nil _).symm, List.nil_prefix, fun _ => rfl⟩
  | cons frame rest ih =>
      have hrequests : (c.answer settings client world frame).requests =
          c.requests ++ frame.line?.toList := by
        cases frame with
        | overlong kept =>
            rw [(answer_overlong settings client world c kept).2.2.2.2]
            exact (List.append_nil _).symm
        | line bytes => exact (answer_line settings client world c bytes).2.2.2.2
      have hfirst : (frame :: rest).filterMap Frame.line? =
          frame.line?.toList ++ rest.filterMap Frame.line? := by
        cases hline : frame.line? <;> simp [hline]
      rw [hfirst]
      by_cases hafter : (c.answer settings client world frame).afterwards = .readOn
      · rw [answerAll_cons_of_readOn settings client world hafter]
        obtain ⟨lines, hlines, hlater, hall⟩ := ih hafter
        refine ⟨frame.line?.toList ++ lines, ?_, ?_, fun h => ?_⟩
        · rw [hlines, hrequests, List.append_assoc]
        · exact (List.prefix_append_right_inj _).mpr hlater
        · rw [hall h]
      · rw [answerAll_cons_of_over settings client world hafter]
        exact ⟨frame.line?.toList, hrequests, List.prefix_append _ _,
          fun h => absurd h hafter⟩

end

/-! ## Following the pieces -/

section
variable {handle : Handler} {limit : Nat} {client : SocketAddress} {world : Nat → Conditions}
  {fails : Bool} {c : Conversation}

theorem follow_cons (piece : List UInt8) (more : List (List UInt8)) :
    c.follow handle limit client world fails (piece :: more) =
      (c.heed handle limit client world fails piece).follow handle limit client world fails more :=
  rfl

theorem follow_append (pieces more : List (List UInt8)) :
    c.follow handle limit client world fails (pieces ++ more) =
      (c.follow handle limit client world fails pieces).follow handle limit client world fails
        more :=
  List.foldl_append

theorem follow_of_over (h : c.afterwards ≠ .readOn) (pieces : List (List UInt8)) :
    c.follow handle limit client world fails pieces = c := by
  induction pieces with
  | nil => rfl
  | cons piece more ih => rw [follow_cons, heed, if_pos h, ih]

theorem heed_of_readOn (h : c.afterwards = .readOn) (piece : List UInt8) :
    c.heed handle limit client world fails piece =
      match ofPiece fails limit piece with
      | some frame => c.answerBy handle client world frame
      | none => c := by
  rw [heed, if_neg (by simp [h]), ofPiece]
  split
  · rfl
  · split
    · rfl
    · rfl

/-- Following pieces is answering the lines that become of them. -/
theorem follow_eq_answerAllBy (h : c.afterwards = .readOn) (pieces : List (List UInt8)) :
    c.follow handle limit client world fails pieces =
      c.answerAllBy handle client world (pieces.filterMap (ofPiece fails limit)) := by
  induction pieces generalizing c with
  | nil => rfl
  | cons piece more ih =>
      rw [follow_cons, heed_of_readOn h]
      cases hframe : ofPiece fails limit piece with
      | none => rw [List.filterMap_cons_none hframe, ih h]
      | some frame =>
          rw [List.filterMap_cons_some hframe]
          by_cases hafter : (c.answerBy handle client world frame).afterwards = .readOn
          · rw [answerAllBy_cons_of_readOn handle client world hafter, ih hafter]
          · rw [answerAllBy_cons_of_over handle client world hafter, follow_of_over hafter]

/-! ## Streams that fail

A failure reaches the last piece only, and only if it has no end. -/

theorem heed_of_isEnded {piece : List UInt8} (h : isEnded piece = true) :
    c.heed handle limit client world true piece =
      c.heed handle limit client world false piece := by
  simp only [heed, h]
  rfl

theorem heed_of_not_mem {body : List UInt8} (hbody : lineFeed ∉ body) :
    c.heed handle limit client world true body =
      if c.afterwards = .readOn ∧ limit < body.length then c.perform (.reply tooLong) else c := by
  rw [heed, isEnded_of_not_mem hbody]
  by_cases hopen : c.afterwards = .readOn
  · by_cases hlong : limit < body.length <;> simp [hopen, hlong]
  · simp [hopen]

theorem follow_of_finished {whole : List UInt8} (h : isUnfinished whole = false)
    (c : Conversation) :
    c.follow handle limit client world true (pieces whole) =
      c.follow handle limit client world false (pieces whole) := by
  induction whole using line_induction generalizing c with
  | nil => simp only [follow, pieces, List.foldl_nil]
  | unfinished body hbody hne =>
      rw [isUnfinished_of_not_mem hbody hne] at h
      cases h
  | line body rest hbody ih =>
      rw [isUnfinished_append] at h
      rw [pieces_append_lineFeed hbody, follow_cons, follow_cons, ih h,
        heed_of_isEnded (isEnded_append_lineFeed body)]

/-- A stream that fails in the middle of a line comes to what came before the
line. The line is lost, unless so much of it is there that it was turned
down. -/
theorem follow_of_failure {whole body : List UInt8} (hwhole : isUnfinished whole = false)
    (hbody : lineFeed ∉ body) (c : Conversation) :
    let told := c.follow handle limit client world false (pieces whole)
    c.follow handle limit client world true (pieces (whole ++ body)) =
      if told.afterwards = .readOn ∧ limit < body.length then told.perform (.reply tooLong)
      else told := by
  intro told
  have hsplit : c.follow handle limit client world true (pieces (whole ++ body)) =
      told.follow handle limit client world true (pieces body) := by
    rw [pieces_append hwhole, follow_append, follow_of_finished hwhole c]
  rw [hsplit]
  by_cases hne : body = []
  · rw [hne, if_neg (by simp)]
    rfl
  · rw [pieces_of_not_mem hbody hne]
    exact heed_of_not_mem hbody

end

/-! ## Whole conversations -/

theorem greet_keeps (session : Session) (writer : Sink) :
    (greet session writer).session = session ∧
      (greet session writer).trace = #[.reply (.plain .serviceReady)] ∧
      (greet session writer).afterwards = .readOn ∧ (greet session writer).requests = [] := by
  obtain ⟨hsession, htrace, -, hafter, hrequests⟩ :=
    perform_keeps { session, writer } (.reply (.plain .serviceReady))
  exact ⟨hsession, htrace, hafter, hrequests⟩

/-- With all buffers, a conversation follows the pieces of its stream. -/
theorem run_eq_follow (settings : Settings) (client : SocketAddress) (world : Nat → Conditions)
    (session : Session) (writer : Sink) {incoming : Incoming} (hreads : [] ∉ incoming.reads) :
    run settings client world session writer incoming =
      (greet session writer).follow (dispatch settings) settings.maxCommandLength client world
        incoming.failure.isSome (pieces incoming.reads.flatten) := by
  rw [run, frames_eq_pieces hreads, follow_eq_answerAllBy (greet_keeps session writer).2.2.1]
  rfl

end Conversation

end PassiveFtp
