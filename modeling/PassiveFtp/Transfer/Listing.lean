import PassiveFtp.Files.Resolve
import PassiveFtp.Reply
import PassiveFtp.Transfer.Sink

/-!
# Listing a directory

A listing holds the names of a directory's entries and nothing else, one to a
line. Names are decoded before they are sorted, so two different names may
come out alike; both are listed. The order is that of the bytes, which no
setting of the host can change.
-/

namespace PassiveFtp

/-- How a listing ended: sent, not to be had on this side, or not taken by the
other. -/
inductive ListOutcome where
  | completed (entries : Nat)
  | localFailure (error : IoError)
  | remoteFailure (error : IoError)
deriving DecidableEq, Repr

/-- The reply that tells the client how its listing ended. -/
def ListOutcome.reply : ListOutcome → Reply
  | .completed _ => .plain .closingDataConnection
  | .localFailure _ => .plain .localProcessingError
  | .remoteFailure _ => .plain .fileBusy

/-- A way to list a directory into a sink. -/
abbrev Lister := Tree → Path → Sink → ListOutcome × Sink

namespace Listing

/-- A name as it is listed: decoded as text, ill-formed parts replaced. -/
def shown (name : Name) : List UInt8 :=
  Utf8.encode (Utf8.decodeLossy name.bytes)

/-- Names as they are listed, in ascending order of their bytes. -/
def sorted (names : List Name) : List (List UInt8) :=
  (names.map shown).mergeSort fun s t => s ≤ t

/-- A listed name with its line end. -/
def line (name : List UInt8) : List UInt8 :=
  name ++ [0x0D, 0x0A]

/-- The bytes of a listing. -/
def body (names : List Name) : List UInt8 :=
  (sorted names).flatMap line

/-- Lists the names in a directory. -/
def names : Lister := fun tree p sink =>
  match tree.entryNames p with
  | .error e => (.localFailure e, sink)
  | .ok found =>
    match sink.send (body found) with
    | (.ok (), sink) => (.completed found.length, sink)
    | (.error e, sink) => (.remoteFailure e, sink)

end Listing

end PassiveFtp
