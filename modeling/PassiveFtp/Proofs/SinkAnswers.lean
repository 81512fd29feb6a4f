import PassiveFtp.Proofs.SinkReach

/-!
# What a sink answers

How far a sink goes is what the other end sees of it. What the sender sees is the
answer, and that is fixed by the sink's limits too. A sink that takes something
at every write stops only for want of room, so whatever has been written before,
the write that fails does so in the one way the sink has for it. A flush follows
exactly what has gone out whole, and it is answered always alike.

As in `SinkReach`, the reason is that a write changes none of this (`Spent`): the
sink that answers at the end refuses as the one did at the beginning.
-/

namespace PassiveFtp

namespace Sink

/-- What a write fails with once there is no room. Taking nothing is a failure of
its own to whoever wants everything written. -/
def refusal (sink : Sink) : IoError :=
  .bare (sink.whenFull.getD .writeZero)

/-- What every flush comes to. -/
def flushAnswer (sink : Sink) : Except IoError Unit :=
  match sink.flushFailure with
  | some kind => .error (.bare kind)
  | none => .ok ()

variable {sink after : Sink} {bytes : List UInt8} {count : Nat}

theorem Spent.refusal (h : sink.Spent after count) : after.refusal = sink.refusal := by
  rw [Sink.refusal, Sink.refusal, h.whenFull]

theorem Spent.flushAnswer (h : sink.Spent after count) : after.flushAnswer = sink.flushAnswer := by
  rw [Sink.flushAnswer, Sink.flushAnswer, h.flushFailure]

/-- A sink that takes something at every write goes as far as it has room. -/
theorem reach_eq_min (hpieces : sink.perWrite ≠ some 0) (count : Nat) :
    sink.reach count = min count (sink.room.getD count) := by
  rw [reach, if_neg hpieces]

theorem take_reach (hpieces : sink.perWrite ≠ some 0) (bytes : List UInt8) :
    bytes.take (sink.reach bytes.length) = bytes.take (sink.room.getD bytes.length) := by
  rw [reach_eq_min hpieces, ← List.take_take, List.take_of_length_le (List.length_take_le' _ _)]

/-! ## One write -/

theorem refusal_of_write_error {e : IoError} (h : sink.write bytes = (.error e, after)) :
    e = sink.refusal := by
  simp only [write] at h
  split at h
  · next kind _ hfull =>
      cases h
      rw [refusal, hfull]
      rfl
  · cases h

/-- A sink that takes nothing although it could has no failure of its own. -/
theorem refusal_of_write_zero (hpieces : sink.perWrite ≠ some 0) (hbytes : bytes ≠ [])
    (h : sink.write bytes = (.ok 0, after)) : .bare .writeZero = sink.refusal := by
  have hlength := List.length_pos_iff.mpr hbytes
  have hstop := fitting_eq_zero_iff.mp (write_eq_ok h).1.symm
  rw [reach_eq_min hpieces] at hstop
  have hroom : sink.room = some 0 := by
    cases hroom : sink.room with
    | none =>
        rw [hroom] at hstop
        simp only [Option.getD_none] at hstop
        omega
    | some room =>
        rw [hroom] at hstop
        simp only [Option.getD_some] at hstop
        rw [show room = 0 by omega]
  rw [refusal]
  cases hfull : sink.whenFull with
  | none => rfl
  | some kind =>
      simp only [write, hroom, hfull] at h
      cases h

theorem flushes_of_write {count : Nat} (h : sink.write bytes = (.ok count, after)) :
    after.flushes = sink.flushes := by
  simp only [write] at h
  split at h
  · cases h
  · cases h
    rfl

/-! ## Writing everything -/

theorem refusal_of_writeAll_error (hpieces : sink.perWrite ≠ some 0) {e : IoError}
    (h : sink.writeAll bytes = (.error e, after)) : e = sink.refusal := by
  fun_induction writeAll sink bytes with
  | case1 sink => cases h
  | case2 sink bytes hbytes failure next hwrite =>
      cases h
      exact refusal_of_write_error hwrite
  | case3 sink bytes hbytes next hwrite =>
      cases h
      exact refusal_of_write_zero hpieces hbytes hwrite
  | case4 sink bytes hbytes count next hwrite ih =>
      have hspent := (write_eq_ok hwrite).2
      rw [← hspent.refusal]
      exact ih (hspent.perWrite ▸ hpieces) h

theorem flushes_writeAll (sink : Sink) (bytes : List UInt8) :
    (sink.writeAll bytes).2.flushes = sink.flushes := by
  fun_induction writeAll sink bytes with
  | case1 sink => rfl
  | case2 sink bytes hbytes e after hwrite => rw [eq_of_write_error hwrite]
  | case3 sink bytes hbytes after hwrite => exact flushes_of_write hwrite
  | case4 sink bytes hbytes count after hwrite ih => rw [ih, flushes_of_write hwrite]

/-! ## Flushing and sending -/

theorem flush_eq (sink : Sink) :
    sink.flush = (sink.flushAnswer, { sink with flushes := sink.flushes + 1 }) := by
  rw [flush, flushAnswer]
  cases sink.flushFailure <;> rfl

theorem spent_flush (sink : Sink) : sink.Spent sink.flush.2 0 := by
  obtain ⟨hroom, -, -, -⟩ := Spent.refl sink
  rw [flush_eq]
  exact ⟨hroom, rfl, rfl, rfl⟩

/-- Where everything goes out, sending ends with the flush. -/
theorem send_of_whole (hwhole : sink.reach bytes.length = bytes.length) :
    sink.send bytes = (sink.writeAll bytes).2.flush := by
  have hok := (sink.writeAll_reaches bytes).2.2.mpr hwhole
  cases hwrite : sink.writeAll bytes with
  | mk answer after =>
      rw [hwrite] at hok
      obtain rfl : answer = .ok () := hok
      simp only [send, hwrite]

/-- Where something is left, sending ends with the write that fails. -/
theorem send_of_short (hshort : sink.reach bytes.length ≠ bytes.length) :
    sink.send bytes = sink.writeAll bytes ∧ ∃ e, (sink.writeAll bytes).1 = .error e := by
  have hfailed := mt (sink.writeAll_reaches bytes).2.2.mp hshort
  cases hwrite : sink.writeAll bytes with
  | mk answer after =>
      rw [hwrite] at hfailed
      cases answer with
      | ok => exact absurd rfl hfailed
      | error e => exact ⟨by simp only [send, hwrite], e, rfl⟩

theorem received_send (hpieces : sink.perWrite ≠ some 0) (bytes : List UInt8) :
    (sink.send bytes).2.received = sink.received ++ bytes.take (sink.room.getD bytes.length) := by
  rw [(sink.send_reaches bytes).1, take_reach hpieces]

/-- Sending leaves a sink that has less room, and that was flushed if all has gone
out. -/
theorem send_leaves (sink : Sink) (bytes : List UInt8) :
    sink.Spent (sink.send bytes).2 (sink.reach bytes.length) ∧
      (sink.send bytes).2.flushes =
        sink.flushes + if sink.reach bytes.length = bytes.length then 1 else 0 := by
  have hspent := (sink.writeAll_reaches bytes).1
  have hflushes := sink.flushes_writeAll bytes
  by_cases hwhole : sink.reach bytes.length = bytes.length
  · rw [send_of_whole hwhole]
    refine ⟨hspent.trans (spent_flush _), ?_⟩
    rw [flush_eq, if_pos hwhole, ← hflushes]
  · rw [(send_of_short hwhole).1, if_neg hwhole, Nat.add_zero]
    exact ⟨hspent, hflushes⟩

/-- Sending is answered by the flush, or refused as the sink refuses. -/
theorem send_answers (hpieces : sink.perWrite ≠ some 0) (bytes : List UInt8) :
    (sink.send bytes).1 =
      if sink.reach bytes.length = bytes.length then sink.flushAnswer
      else .error sink.refusal := by
  have hspent := (sink.writeAll_reaches bytes).1
  by_cases hwhole : sink.reach bytes.length = bytes.length
  · rw [send_of_whole hwhole, if_pos hwhole, flush_eq, hspent.flushAnswer]
  · obtain ⟨hsend, e, hfailed⟩ := send_of_short hwhole
    have hwrite : sink.writeAll bytes = (.error e, (sink.writeAll bytes).2) := by
      rw [← hfailed]
    rw [hsend, if_neg hwhole, hfailed, refusal_of_writeAll_error hpieces hwrite]

end Sink

end PassiveFtp
