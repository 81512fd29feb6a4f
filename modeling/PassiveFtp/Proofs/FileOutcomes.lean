import Mathlib
import PassiveFtp.Proofs.SinkAnswers
import PassiveFtp.Proofs.TruthfulReplies
import PassiveFtp.Proofs.WorkingDirectory

/-!
# How the sending of a file ends

A file goes out in chunks, a chunk in writes, and the count of what was sent moves
by whole chunks. None of that shows in the bytes. The other end gets the file as
far as the connection goes, and only the count knows how large the chunks were:
it stops at the last chunk that went out whole.

Of how it ends there are three ways, one after the other. A connection that does
not go to the end of the file refuses some chunk, and is not flushed. One that
does is flushed once, and the flush has the last word. The induction is on the
chunks (`sendChunks_whole`, `sendChunks_short`): a chunk that fits leaves the same
question for the rest of the file and the rest of the room.

All that is about a file for whose chunks there can be a buffer. There is no
outcome at all if there cannot.
-/

namespace PassiveFtp

namespace FileOutcome

/-- How a file of some length ends that has gone out whole. -/
def ofFlush (count : Nat) : Except IoError Unit → FileOutcome
  | .ok () => .completed count
  | .error e => .writeFailed e

/-- How a file ends that was refused after some bytes. -/
def ofRefusal (count : Nat) (e : IoError) : FileOutcome :=
  if e.kind = .writeZero then .shortWrite count else .writeFailed e

end FileOutcome

/-- A path leads to a file, to a directory, or nowhere. -/
theorem Tree.find_ne_link (tree : Tree) (p target : Path) : tree.find p ≠ .ok (.link target) := by
  intro hfind
  cases hlocate : tree.locate p with
  | error e => simp [Tree.find, hlocate, bind, Except.bind] at hfind
  | ok place =>
      have hcanonicalize : tree.canonicalize p = .ok place.path := by
        rw [Tree.canonicalize, hlocate]
        rfl
      obtain ⟨place', hlocate', hreached, -⟩ := Tree.locate_of_canonicalize hcanonicalize
      rw [hlocate] at hlocate'
      cases hlocate'
      obtain ⟨node, hnode, hlink⟩ := hreached.node
      simp only [Tree.find, hlocate, hnode, bind, Except.bind] at hfind
      cases hfind
      exact hlink target rfl

namespace Transfer

variable {sink : Sink}

/-! ## Chunk by chunk -/

/-- Where the sink goes to the end of what is left, the flush decides. -/
theorem sendChunks_whole (extra sent : Nat) (content : List UInt8)
    (hwhole : sink.reach content.length = content.length) :
    let told := sendChunks none extra content sent sink
    told.1 = .ofFlush (sent + content.length) sink.flushAnswer ∧
      told.2.flushes = sink.flushes + 1 := by
  fun_induction sendChunks none extra content sent sink with
  | case1 sent sink e hfailure => cases hfailure
  | case2 sent sink hfailure after hflush | case3 sent sink hfailure e after hflush =>
      rw [Sink.flush_eq, Prod.mk.injEq] at hflush
      obtain ⟨hanswer, rfl⟩ := hflush
      rw [hanswer]
      exact ⟨rfl, rfl⟩
  | case4 content sent sink hcontent chunk after hwrite ih =>
      obtain ⟨hspent, hreach⟩ :
          sink.Spent after chunk.length ∧ sink.reach content.length =
            chunk.length + after.reach (content.drop (extra + 1)).length :=
        Sink.reach_of_piece hwrite
      have hflushes := sink.flushes_writeAll chunk
      have hlength : content.length = chunk.length + (content.drop (extra + 1)).length := by
        rw [← List.length_append, List.take_append_drop]
      have hrest : after.reach (content.drop (extra + 1)).length =
          (content.drop (extra + 1)).length := by omega
      rw [hwrite] at hflushes
      rw [← hspent.flushAnswer, ← hflushes, hlength, ← Nat.add_assoc]
      exact ih hrest
  | case5 content sent sink hcontent chunk e after hwrite hzero
  | case6 content sent sink hcontent chunk e after hwrite hother =>
      -- a chunk that did not fit is one that the sink did not get to the end of
      obtain ⟨hshort, hreach⟩ := Sink.reach_of_short_piece hwrite
      have hle : (content.take (extra + 1)).length ≤ content.length := List.length_take_le' _ _
      omega

/-- A refused chunk is the one that the sink stops in. -/
theorem refused_chunk (hpieces : sink.perWrite ≠ some 0) {extra : Nat} {content : List UInt8}
    {e : IoError} {after : Sink}
    (hwrite : sink.writeAll (content.take (extra + 1)) = (.error e, after)) :
    e = sink.refusal ∧ sink.reach content.length / (extra + 1) = 0 ∧
      after.flushes = sink.flushes := by
  obtain ⟨hshort, hreach⟩ := Sink.reach_of_short_piece hwrite
  have hle : (content.take (extra + 1)).length ≤ extra + 1 := List.length_take_le _ _
  have hflushes := sink.flushes_writeAll (content.take (extra + 1))
  rw [hwrite] at hflushes
  exact ⟨Sink.refusal_of_writeAll_error hpieces hwrite, Nat.div_eq_of_lt (by omega), hflushes⟩

/-- Where the sink stops before, it refuses the chunk that it stops in, and the
chunks before that are the ones that count. -/
theorem sendChunks_short (hpieces : sink.perWrite ≠ some 0) (extra sent : Nat)
    (content : List UInt8) (hstops : sink.reach content.length < content.length) :
    let told := sendChunks none extra content sent sink
    told.1 = .ofRefusal (sent + (extra + 1) * (sink.reach content.length / (extra + 1)))
        sink.refusal ∧
      told.2.flushes = sink.flushes := by
  fun_induction sendChunks none extra content sent sink with
  | case1 sent sink e hfailure => cases hfailure
  | case2 sent sink hfailure after hflush | case3 sent sink hfailure e after hflush =>
      exact absurd hstops (Nat.not_lt_zero _)
  | case4 content sent sink hcontent chunk after hwrite ih =>
      obtain ⟨hspent, hreach⟩ :
          sink.Spent after chunk.length ∧ sink.reach content.length =
            chunk.length + after.reach (content.drop (extra + 1)).length :=
        Sink.reach_of_piece hwrite
      have hflushes := sink.flushes_writeAll chunk
      have hlength : content.length = chunk.length + (content.drop (extra + 1)).length := by
        rw [← List.length_append, List.take_append_drop]
      have hrest : after.reach (content.drop (extra + 1)).length <
          (content.drop (extra + 1)).length := by omega
      -- something is left, so the chunk that went out was a whole one
      have hchunk : chunk.length = extra + 1 := by
        rw [List.length_drop] at hrest
        exact List.length_take_of_le (by omega)
      have hcount : sent + (extra + 1) * (sink.reach content.length / (extra + 1)) =
          sent + chunk.length +
            (extra + 1) * (after.reach (content.drop (extra + 1)).length / (extra + 1)) := by
        rw [hreach, hchunk, Nat.add_div_left _ (by omega : 0 < extra + 1), Nat.mul_succ]
        omega
      rw [hwrite] at hflushes
      rw [hcount, ← hspent.refusal, ← hflushes]
      exact ih (hspent.perWrite ▸ hpieces) hrest
  | case5 content sent sink hcontent chunk e after hwrite hzero =>
      obtain ⟨rfl, hnone, hflushes⟩ := refused_chunk hpieces hwrite
      rw [hnone, FileOutcome.ofRefusal, if_pos hzero]
      exact ⟨rfl, hflushes⟩
  | case6 content sent sink hcontent chunk e after hwrite hother =>
      obtain ⟨rfl, hnone, hflushes⟩ := refused_chunk hpieces hwrite
      rw [hnone, FileOutcome.ofRefusal, if_neg hother]
      exact ⟨rfl, hflushes⟩

/-! ## A file from beginning to end -/

section
variable {tree : Tree} {p : Path} {content : List UInt8}

theorem sendFile_eq_of_file (h : tree.find p = .ok (.file content)) (bufferSize : Nat)
    (sink : Sink) :
    sendFile tree p bufferSize none sink = sendChunks none (bufferSize - 1) content 0 sink := by
  have hopen : openFile tree p none = .ok { readable := content } := by simp only [openFile, h]
  exact sendFile_of_open hopen bufferSize sink

theorem received_sendFile (h : tree.find p = .ok (.file content)) (bufferSize : Nat)
    (hpieces : sink.perWrite ≠ some 0) :
    (sendFile tree p bufferSize none sink).2.received =
      sink.received ++ content.take (sink.room.getD content.length) := by
  rw [(sendFile_of_file h bufferSize none sink).1, FileFault.readable, Sink.take_reach hpieces]

theorem sendFile_whole (h : tree.find p = .ok (.file content)) (bufferSize : Nat)
    (hpieces : sink.perWrite ≠ some 0) (hroom : content.length ≤ sink.room.getD content.length) :
    (sendFile tree p bufferSize none sink).1 = .ofFlush content.length sink.flushAnswer ∧
      (sendFile tree p bufferSize none sink).2.flushes = sink.flushes + 1 := by
  have hwhole : sink.reach content.length = content.length := by
    rw [Sink.reach_eq_min hpieces, Nat.min_eq_left hroom]
  rw [sendFile_eq_of_file h]
  simpa using sendChunks_whole (bufferSize - 1) 0 content hwhole

theorem sendFile_short (h : tree.find p = .ok (.file content)) (bufferSize : Nat)
    (hpieces : sink.perWrite ≠ some 0) (hroom : sink.room.getD content.length < content.length) :
    (sendFile tree p bufferSize none sink).1 =
        .ofRefusal (max bufferSize 1 * (sink.room.getD content.length / max bufferSize 1))
          sink.refusal ∧
      (sendFile tree p bufferSize none sink).2.flushes = sink.flushes := by
  have hstops : sink.reach content.length = sink.room.getD content.length := by
    rw [Sink.reach_eq_min hpieces, Nat.min_eq_right hroom.le]
  have hchunk : bufferSize - 1 + 1 = max bufferSize 1 := by omega
  have hshort := sendChunks_short hpieces (bufferSize - 1) 0 content (by omega)
  rw [sendFile_eq_of_file h]
  simpa only [hstops, hchunk, Nat.zero_add] using hshort

/-- How a file ends that is all there is to read, over a connection with a buffer
for its chunks. -/
theorem sendFile_ends (h : tree.find p = .ok (.file content)) (bufferSize : Nat)
    (hpieces : sink.perWrite ≠ some 0) :
    let told := sendFile tree p bufferSize none sink
    let chunk := max bufferSize 1
    let room := sink.room.getD content.length
    let gone := content.take room
    (content.length ≤ room → told.2.flushes = sink.flushes + 1 ∧
      (sink.flushFailure = none → told.1 = .completed content.length) ∧
      ∀ kind, sink.flushFailure = some kind → told.1 = .writeFailed (.bare kind)) ∧
    (room < content.length → told.2.flushes = sink.flushes ∧
      (sink.whenFull = none ∨ sink.whenFull = some .writeZero →
        told.1 = .shortWrite (chunk * (room / chunk))) ∧
      ∀ kind, sink.whenFull = some kind → kind ≠ .writeZero →
        told.1 = .writeFailed (.bare kind)) ∧
    ∀ bytes, told.1 = .shortWrite bytes → bytes ≤ gone.length ∧ gone.length < bytes + chunk := by
  intro told chunk room gone
  refine ⟨fun hroom => ?_, fun hroom => ?_, fun bytes hbytes => ?_⟩
  · obtain ⟨houtcome, hflushes⟩ := sendFile_whole h bufferSize hpieces hroom
    refine ⟨hflushes, fun hnone => ?_, fun kind hfails => ?_⟩
    · rw [houtcome, Sink.flushAnswer, hnone]
      rfl
    · rw [houtcome, Sink.flushAnswer, hfails]
      rfl
  · obtain ⟨houtcome, hflushes⟩ := sendFile_short h bufferSize hpieces hroom
    refine ⟨hflushes, fun hzero => ?_, fun kind hfails hkind => ?_⟩
    · have hrefusal : sink.refusal = .bare .writeZero := by
        rcases hzero with hnone | hzero
        · rw [Sink.refusal, hnone]
          rfl
        · rw [Sink.refusal, hzero]
          rfl
      rw [houtcome, hrefusal]
      rfl
    · rw [houtcome, Sink.refusal, hfails]
      exact if_neg hkind
  · -- a short write is told of a file that did not fit, and of whole chunks of what did
    have hchunk : 0 < chunk := by omega
    have hshort : room < content.length := by
      by_contra hroom
      rw [(sendFile_whole h bufferSize hpieces (by omega)).1] at hbytes
      cases hanswer : sink.flushAnswer <;> rw [hanswer] at hbytes <;> cases hbytes
    have hcount : bytes = chunk * (room / chunk) := by
      rw [(sendFile_short h bufferSize hpieces hshort).1, FileOutcome.ofRefusal] at hbytes
      split at hbytes
      · cases hbytes
        rfl
      · cases hbytes
    have hgone : gone.length = room := List.length_take_of_le hshort.le
    rw [hgone, hcount]
    exact ⟨Nat.mul_div_le room chunk, Nat.lt_mul_div_succ room hchunk⟩

/-! ## Buffers -/

theorem sendFile?_of_fits {bufferSize : Nat} (h : Buffer.Fits (max bufferSize 1))
    (fault : Option FileFault) (sink : Sink) :
    sendFile? tree p bufferSize fault sink = some (sendFile tree p bufferSize fault sink) := by
  simp only [sendFile?, if_pos h]
  split <;> rfl

theorem sendFile?_of_not_fits {bufferSize : Nat} (h : ¬ Buffer.Fits (max bufferSize 1))
    {node : Node} (hfind : tree.find p = .ok node) (sink : Sink) :
    sendFile? tree p bufferSize none sink = none := by
  refine sendFile?_eq_none_iff.mpr ⟨?_, h⟩
  cases node with
  | link target => exact absurd hfind (tree.find_ne_link p target)
  | file content => exact ⟨{ readable := content }, by simp only [openFile, hfind]⟩
  | dir entries =>
      exact ⟨{ readable := [], failure := some (.system .isADirectory) },
        by simp only [openFile, hfind]⟩

end

/-- Sending a file that can be read ends as the connection does, if there can be a
buffer for its chunks. All that fits goes out, in chunks and pieces of any size,
and nothing else. If that is the whole file the connection is flushed once, and the
flush decides. If not it is not flushed: a connection that takes nothing more makes
a short write, told by the chunks that went out whole, and one that fails does so
with its own failure. What is no file sends nothing, and a path never leads to a
link.

If there cannot be a buffer, what is there is opened and nothing comes of it. -/
theorem sendFile_outcome (tree : Tree) (p : Path) (bufferSize : Nat) (sink : Sink) :
    let told := sendFile? tree p bufferSize none sink
    let chunk := max bufferSize 1
    (∀ e, tree.find p = .error e → told = some (.openFailed e, sink)) ∧
    (∀ target, tree.find p ≠ .ok (.link target)) ∧
    (¬ Buffer.Fits chunk → ∀ node, tree.find p = .ok node → told = none) ∧
    (Buffer.Fits chunk → ∀ entries, tree.find p = .ok (.dir entries) →
      told = some (.readFailed (.system .isADirectory), sink)) ∧
    (Buffer.Fits chunk → ∀ content, tree.find p = .ok (.file content) → sink.perWrite ≠ some 0 →
      let room := sink.room.getD content.length
      let gone := content.take room
      ∃ outcome after, told = some (outcome, after) ∧ after.received = sink.received ++ gone ∧
      (content.length ≤ room → after.flushes = sink.flushes + 1 ∧
        (sink.flushFailure = none → outcome = .completed content.length) ∧
        ∀ kind, sink.flushFailure = some kind → outcome = .writeFailed (.bare kind)) ∧
      (room < content.length → after.flushes = sink.flushes ∧
        (sink.whenFull = none ∨ sink.whenFull = some .writeZero →
          outcome = .shortWrite (chunk * (room / chunk))) ∧
        ∀ kind, sink.whenFull = some kind → kind ≠ .writeZero →
          outcome = .writeFailed (.bare kind)) ∧
      (∀ bytes, outcome = .shortWrite bytes →
        bytes ≤ gone.length ∧ gone.length < bytes + chunk) ∧
      ∀ (otherSize : Nat) (other : Sink), Buffer.Fits (max otherSize 1) →
        other.room = sink.room → other.perWrite ≠ some 0 →
        ∃ last, (sendFile? tree p otherSize none other).map (·.2) = some last ∧
          last.received = other.received ++ gone) := by
  intro told chunk
  refine ⟨fun e hfind => ?_, tree.find_ne_link p, fun hfits node hfind => ?_,
    fun hfits entries hfind => ?_, fun hfits content hfind hpieces => ?_⟩
  · simp only [told, sendFile?, sendFile, openFile, hfind]
  · exact sendFile?_of_not_fits hfits hfind sink
  · have hopen : openFile tree p none =
        .ok { readable := [], failure := some (.system .isADirectory) } := by
      simp only [openFile, hfind]
    simp only [told, sendFile?_of_fits hfits, sendFile_of_open hopen]
    rw [sendChunks]
    rfl
  · intro room gone
    obtain ⟨hwhole, hshort, hcount⟩ := sendFile_ends hfind bufferSize hpieces
    refine ⟨_, _, sendFile?_of_fits hfits none sink, received_sendFile hfind bufferSize hpieces,
      hwhole, hshort, hcount, fun otherSize other hother hroom hpieces' => ?_⟩
    have hreceived := received_sendFile hfind otherSize hpieces'
    rw [hroom] at hreceived
    exact ⟨_, by rw [sendFile?_of_fits hother]; rfl, hreceived⟩

/-- A tree with a file of five bytes. -/
def fiveBytes : Tree :=
  ⟨[(.letter 'f', .file [1, 2, 3, 4, 5])]⟩

/-- Of five bytes in chunks of two, a connection takes three, one at a time. Three
have gone out, and two of them count. -/
theorem sendFile_outcome_of_five :
    let sink : Sink := { room := some 3, perWrite := some 1, flushFailure := some .brokenPipe }
    fiveBytes.find (.ofString "/f") = .ok (.file [1, 2, 3, 4, 5]) ∧ sink.perWrite ≠ some 0 ∧
      ∃ after, sendFile? fiveBytes (.ofString "/f") 2 none sink = some (.shortWrite 2, after) ∧
        after.received = [1, 2, 3] ∧ after.flushes = 0 := by
  intro sink
  have hfind : fiveBytes.find (.ofString "/f") = .ok (.file [1, 2, 3, 4, 5]) := by cbv
  have hpieces : sink.perWrite ≠ some 0 := by decide
  obtain ⟨-, -, -, -, hfile⟩ := sendFile_outcome fiveBytes (.ofString "/f") 2 sink
  obtain ⟨outcome, after, htold, hreceived, -, hshort, -, -⟩ :=
    hfile (by decide) [1, 2, 3, 4, 5] hfind hpieces
  obtain ⟨hflushes, hzero, -⟩ := hshort (by decide)
  have hcount : max 2 1 * (sink.room.getD 5 / max 2 1) = 2 := by decide
  have houtcome : outcome = .shortWrite 2 := (hzero (.inl rfl)).trans (congrArg _ hcount)
  exact ⟨hfind, hpieces, after, by rw [htold, houtcome], hreceived, hflushes⟩

/-- The file is there and the connection takes everything, but the transfer has
no outcome. -/
theorem sendFile_without_outcome :
    let sink : Sink := {}
    fiveBytes.find (.ofString "/f") = .ok (.file [1, 2, 3, 4, 5]) ∧ sink.room = none ∧
      sink.flushFailure = none ∧
      sendFile? fiveBytes (.ofString "/f") (2 ^ 63) none sink = none := by
  intro sink
  have hfind : fiveBytes.find (.ofString "/f") = .ok (.file [1, 2, 3, 4, 5]) := by cbv
  exact ⟨hfind, rfl, rfl, sendFile?_of_not_fits (by decide) hfind sink⟩

end Transfer

end PassiveFtp
