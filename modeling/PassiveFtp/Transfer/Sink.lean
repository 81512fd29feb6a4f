import PassiveFtp.IoError

/-!
# Sinks: where bytes are written

A sink is the writing end of a connection together with its limits: how much it
takes in all, how much at once, and what it says when it takes no more. It
keeps a record of what it took, which is all the other end can see. Writing
everything means writing again until nothing is left; a write that takes
nothing is a failure of its own, or it would be repeated for ever.
-/

namespace PassiveFtp

/-- A connection's writing end and what has gone into it. -/
structure Sink where
  /-- how many bytes it still takes, no bound if none -/
  room : Option Nat := none
  /-- what a write fails with once there is no room; it takes nothing if none -/
  whenFull : Option FailureKind := none
  /-- how many bytes one write takes at most -/
  perWrite : Option Nat := none
  /-- what every flush fails with -/
  flushFailure : Option FailureKind := none
  /-- the bytes of each write that was taken, in order -/
  taken : Array (List UInt8) := #[]
  /-- how often it was flushed -/
  flushes : Nat := 0

namespace Sink

/-- All bytes taken so far. -/
def received (sink : Sink) : List UInt8 :=
  sink.taken.toList.flatten

/-- The number of bytes each write took. -/
def writes (sink : Sink) : List Nat :=
  sink.taken.toList.map List.length

/-- How many of `count` bytes the next write takes. -/
def fitting (sink : Sink) (count : Nat) : Nat :=
  min (min count (sink.room.getD count)) (sink.perWrite.getD count)

/-- One write: how many bytes were taken. -/
def write (sink : Sink) (bytes : List UInt8) : Except IoError Nat × Sink :=
  match sink.room, sink.whenFull with
  | some 0, some kind => (.error (.bare kind), sink)
  | _, _ =>
    let count := sink.fitting bytes.length
    (.ok count, { sink with
      room := sink.room.map (· - count)
      taken := sink.taken.push (bytes.take count) })

/-- Writes all of the bytes, as far as the sink lets it. -/
def writeAll (sink : Sink) (bytes : List UInt8) : Except IoError Unit × Sink :=
  if _h : bytes = [] then (.ok (), sink)
  else
    match sink.write bytes with
    | (.error e, sink) => (.error e, sink)
    | (.ok 0, sink) => (.error (.bare .writeZero), sink)
    | (.ok (count + 1), sink) => sink.writeAll (bytes.drop (count + 1))
termination_by bytes.length
decreasing_by
  have := List.length_pos_iff.mpr _h
  simp only [List.length_drop]
  omega

/-- Flushes the sink. -/
def flush (sink : Sink) : Except IoError Unit × Sink :=
  let flushed := { sink with flushes := sink.flushes + 1 }
  match sink.flushFailure with
  | some kind => (.error (.bare kind), flushed)
  | none => (.ok (), flushed)

/-- Writes all of the bytes and then flushes. -/
def send (sink : Sink) (bytes : List UInt8) : Except IoError Unit × Sink :=
  match sink.writeAll bytes with
  | (.ok (), sink) => sink.flush
  | failed => failed

end Sink

end PassiveFtp
