import PassiveFtp.Buffer
import PassiveFtp.Files.Resolve
import PassiveFtp.Reply
import PassiveFtp.Transfer.Sink

/-!
# Sending a file

A file goes out in chunks of a fixed size, the last one shorter, and the first
failure ends the transfer. Bytes are counted by whole chunks, so the count
never exceeds what the other end received.

A file that is there need not be one that can be opened or read to its end, and
what has been opened is sent only if there can be a buffer for its chunks.
-/

namespace PassiveFtp

/-- How the transfer of a file ended. -/
inductive FileOutcome where
  | completed (bytes : Nat)
  | openFailed (error : IoError)
  | readFailed (error : IoError)
  | writeFailed (error : IoError)
  | shortWrite (bytes : Nat)
deriving DecidableEq, Repr

namespace FileOutcome

/-- Whether the whole file was sent. -/
def isSuccess : FileOutcome → Bool
  | .completed _ => true
  | _ => false

/-- The reply that tells the client how its transfer ended. -/
def reply : FileOutcome → Reply
  | .completed _ => .plain .closingDataConnection
  | .openFailed _ => .coded .transferAborted "The file could not be opened."
  | .readFailed _ => .coded .transferAborted "The file could not be read."
  | .writeFailed _ => .plain .transferAborted
  | .shortWrite _ => .coded .transferAborted "A short write happened."

end FileOutcome

namespace Transfer

/-- What keeps a file that is there from being sent. -/
inductive FileFault where
  /-- it cannot be opened -/
  | unopened (error : IoError)
  /-- reading it fails after so many bytes -/
  | unread (after : Nat) (error : IoError)

/-- A file that has been opened: the bytes that can be read from it, and what
reading fails with after them if that is not its end. -/
structure OpenFile where
  readable : List UInt8
  failure : Option IoError := none

/-- Opens the file a path leads to. A directory can be opened but not read. -/
def openFile (tree : Tree) (p : Path) (fault : Option FileFault) : Except IoError OpenFile :=
  match tree.find p, fault with
  | .error e, _ => .error e
  | .ok (.link _), _ => .error (.system .tooManyLinks)
  | .ok _, some (.unopened e) => .error e
  | .ok (.dir _), _ => .ok { readable := [], failure := some (.system .isADirectory) }
  | .ok (.file content), some (.unread after e) =>
    .ok { readable := content.take after, failure := some e }
  | .ok (.file content), none => .ok { readable := content }

/-- Sends what is left of the readable bytes of a file in chunks of `extra + 1`
bytes; `sent` bytes have gone out before. -/
def sendChunks (failure : Option IoError) (extra : Nat) (left : List UInt8) (sent : Nat)
    (sink : Sink) : FileOutcome × Sink :=
  if _h : left = [] then
    match failure with
    | some e => (.readFailed e, sink)
    | none =>
      match sink.flush with
      | (.ok (), sink) => (.completed sent, sink)
      | (.error e, sink) => (.writeFailed e, sink)
  else
    let chunk := left.take (extra + 1)
    match sink.writeAll chunk with
    | (.ok (), sink) =>
      sendChunks failure extra (left.drop (extra + 1)) (sent + chunk.length) sink
    | (.error e, sink) =>
      if e.kind = .writeZero then (.shortWrite sent, sink) else (.writeFailed e, sink)
termination_by left.length
decreasing_by
  have := List.length_pos_iff.mpr _h
  simp only [List.length_drop]
  omega

/-- Sends the file a path leads to, `bufferSize` bytes at a time and at least
one, as far as it can be opened and read. -/
def sendFile (tree : Tree) (p : Path) (bufferSize : Nat) (fault : Option FileFault)
    (sink : Sink) : FileOutcome × Sink :=
  match openFile tree p fault with
  | .error e => (.openFailed e, sink)
  | .ok file => sendChunks file.failure (bufferSize - 1) file.readable 0 sink

/-- Sends the file a path leads to, or comes to nothing if it is open and there
cannot be a buffer for its chunks. -/
def sendFile? (tree : Tree) (p : Path) (bufferSize : Nat) (fault : Option FileFault)
    (sink : Sink) : Option (FileOutcome × Sink) :=
  match openFile tree p fault with
  | .error _ => some (sendFile tree p bufferSize fault sink)
  | .ok _ =>
    if Buffer.Fits (max bufferSize 1) then some (sendFile tree p bufferSize fault sink) else none

end Transfer

end PassiveFtp
