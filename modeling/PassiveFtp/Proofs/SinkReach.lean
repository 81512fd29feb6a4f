import PassiveFtp.Proofs.Sending

/-!
# How far a sink goes

A sink that takes part of what it is given takes a definite part of it: as much
as it has room for, or nothing if one write takes nothing. Neither the pieces it
takes the bytes in nor the pieces they are given in make a difference, so a file
in chunks gets exactly as far as the same bytes in one go, and all of it has
gone out exactly if the sink reaches that far.

The reason is that a write leaves the sink what it was but for the room, and the
room is less by what was taken (`Spent`). So what is still to be taken after a
write, and what it took, add up to what was to be taken before.
-/

namespace PassiveFtp

namespace Sink

/-- How many of `count` bytes a sink takes in the end. -/
def reach (sink : Sink) (count : Nat) : Nat :=
  if sink.perWrite = some 0 then 0 else min count (sink.room.getD count)

/-- A sink with its limits as before, and room for `count` bytes less. -/
structure Spent (before after : Sink) (count : Nat) : Prop where
  room : after.room = before.room.map (· - count)
  perWrite : after.perWrite = before.perWrite
  whenFull : after.whenFull = before.whenFull
  flushFailure : after.flushFailure = before.flushFailure

variable {sink after : Sink} {bytes : List UInt8}

theorem reach_le (sink : Sink) (count : Nat) : sink.reach count ≤ count := by
  simp only [reach]
  split
  · exact Nat.zero_le count
  · exact Nat.min_le_left _ _

/-- A sink that gets somewhere gets to every point before it. -/
theorem reach_of_le {count whole : Nat} (h : count ≤ sink.reach whole) :
    sink.reach count = count := by
  simp only [reach] at h ⊢
  by_cases hnone : sink.perWrite = some 0
  · rw [if_pos hnone] at h ⊢
    omega
  · rw [if_neg hnone] at h ⊢
    cases hroom : sink.room with
    | none => simp
    | some room =>
        rw [hroom] at h
        simp only [Option.getD_some] at h ⊢
        omega

/-- A sink that stops gets no further with more. -/
theorem reach_of_lt {count : Nat} (h : sink.reach count < count) (more : Nat) :
    sink.reach (count + more) = sink.reach count := by
  simp only [reach] at h ⊢
  by_cases hnone : sink.perWrite = some 0
  · rw [if_pos hnone, if_pos hnone]
  · rw [if_neg hnone] at h
    rw [if_neg hnone, if_neg hnone]
    cases hroom : sink.room with
    | none =>
        rw [hroom] at h
        simp at h
    | some room =>
        rw [hroom] at h
        simp only [Option.getD_some] at h ⊢
        omega

theorem Spent.refl (sink : Sink) : sink.Spent sink 0 := by
  refine ⟨?_, rfl, rfl, rfl⟩
  cases sink.room <;> rfl

theorem Spent.trans {last : Sink} {first second : Nat} (h : sink.Spent after first)
    (h' : after.Spent last second) : sink.Spent last (first + second) := by
  refine ⟨?_, h'.perWrite.trans h.perWrite, h'.whenFull.trans h.whenFull,
    h'.flushFailure.trans h.flushFailure⟩
  rw [h'.room, h.room, Option.map_map]
  cases sink.room with
  | none => rfl
  | some room =>
      simp only [Option.map_some, Function.comp_apply, Option.some.injEq]
      omega

/-- What a sink has taken counts towards what it takes of more. -/
theorem Spent.reach_add {count : Nat} (h : sink.Spent after count)
    (hcount : sink.reach count = count) (more : Nat) :
    sink.reach (count + more) = count + after.reach more := by
  simp only [reach, h.perWrite, h.room] at hcount ⊢
  by_cases hnone : sink.perWrite = some 0
  · simp only [if_pos hnone] at hcount ⊢
    omega
  · simp only [if_neg hnone] at hcount ⊢
    cases hroom : sink.room with
    | none => simp
    | some room =>
        rw [hroom] at hcount
        simp only [Option.getD_some, Option.map_some] at hcount ⊢
        omega

/-! ## One write -/

theorem fitting_eq_zero_iff {count : Nat} :
    sink.fitting count = 0 ↔ sink.reach count = 0 := by
  simp only [fitting, reach]
  cases hper : sink.perWrite with
  | none => simp
  | some per => cases sink.room <;> by_cases hzero : per = 0 <;> simp [hzero]

theorem fitting_le_reach (sink : Sink) (count : Nat) : sink.fitting count ≤ sink.reach count := by
  simp only [fitting, reach]
  cases hper : sink.perWrite with
  | none => simp
  | some per =>
      split
      · next hzero =>
          obtain rfl : per = 0 := by simpa using hzero
          simp
      · simp only [Option.getD_some]
        omega

/-- A write that fails comes from a sink that takes nothing any more. -/
theorem reach_of_write_error {e : IoError} (h : sink.write bytes = (.error e, after)) :
    sink.reach bytes.length = 0 := by
  simp only [write] at h
  split at h
  · next hroom _ => simp [reach, hroom]
  · cases h

theorem write_eq_ok {count : Nat} (h : sink.write bytes = (.ok count, after)) :
    count = sink.fitting bytes.length ∧ sink.Spent after count := by
  simp only [write] at h
  split at h
  · cases h
  · cases h
    exact ⟨rfl, rfl, rfl, rfl, rfl⟩

/-! ## Writing everything -/

/-- Writing everything gets as far as the sink goes, and succeeds if that is to the
end. -/
theorem writeAll_reaches (sink : Sink) (bytes : List UInt8) :
    sink.Spent (sink.writeAll bytes).2 (sink.reach bytes.length) ∧
      (sink.writeAll bytes).2.received =
        sink.received ++ bytes.take (sink.reach bytes.length) ∧
      ((sink.writeAll bytes).1 = .ok () ↔ sink.reach bytes.length = bytes.length) := by
  fun_induction writeAll sink bytes with
  | case1 sink =>
      have hzero : sink.reach ([] : List UInt8).length = 0 := Nat.le_zero.mp (sink.reach_le 0)
      rw [hzero]
      exact ⟨.refl sink, by simp, by simp⟩
  | case2 sink bytes hbytes e after hwrite =>
      have hlength := List.length_pos_iff.mpr hbytes
      rw [reach_of_write_error hwrite, eq_of_write_error hwrite]
      exact ⟨.refl sink, by simp, by simp; omega⟩
  | case3 sink bytes hbytes after hwrite =>
      have hlength := List.length_pos_iff.mpr hbytes
      obtain ⟨hfitting, hspent⟩ := write_eq_ok hwrite
      have hzero := fitting_eq_zero_iff.mp hfitting.symm
      rw [hzero]
      exact ⟨hspent, received_of_write hwrite, by simp; omega⟩
  | case4 sink bytes hbytes count after hwrite ih =>
      obtain ⟨hfitting, hspent⟩ := write_eq_ok hwrite
      obtain ⟨ihspent, ihreceived, ihok⟩ := ih
      have hle : count + 1 ≤ sink.reach bytes.length :=
        Nat.le_trans (Nat.le_of_eq hfitting) (sink.fitting_le_reach _)
      have hbound := sink.reach_le bytes.length
      have hlength : bytes.length = count + 1 + (bytes.drop (count + 1)).length := by
        rw [List.length_drop]
        omega
      have hwhole : sink.reach bytes.length =
          count + 1 + after.reach (bytes.drop (count + 1)).length := by
        rw [hlength]
        exact hspent.reach_add (reach_of_le hle) _
      refine ⟨?_, ?_, ?_⟩
      · rw [hwhole]
        exact hspent.trans ihspent
      · rw [ihreceived, received_of_write hwrite, hwhole, List.take_add, List.append_assoc]
      · rw [ihok, hwhole]
        omega

/-- Where a piece fits, the rest is what is still to come. -/
theorem reach_of_piece {size : Nat} (h : sink.writeAll (bytes.take size) = (.ok (), after)) :
    sink.Spent after (bytes.take size).length ∧
      sink.reach bytes.length =
        (bytes.take size).length + after.reach (bytes.drop size).length := by
  obtain ⟨hspent, -, hok⟩ := sink.writeAll_reaches (bytes.take size)
  rw [h] at hspent hok
  have hfits := hok.mp rfl
  have hlength : bytes.length = (bytes.take size).length + (bytes.drop size).length := by
    rw [← List.length_append, List.take_append_drop]
  rw [hfits] at hspent
  refine ⟨hspent, ?_⟩
  rw [hlength]
  exact hspent.reach_add hfits _

/-- Where a piece does not fit the sink ends, and the rest would not fit either. -/
theorem reach_of_short_piece {size : Nat} {e : IoError}
    (h : sink.writeAll (bytes.take size) = (.error e, after)) :
    sink.reach (bytes.take size).length < (bytes.take size).length ∧
      sink.reach bytes.length = sink.reach (bytes.take size).length := by
  obtain ⟨-, -, hok⟩ := sink.writeAll_reaches (bytes.take size)
  rw [h] at hok
  have hshort : sink.reach (bytes.take size).length < (bytes.take size).length := by
    have hle := sink.reach_le (bytes.take size).length
    have hne : sink.reach (bytes.take size).length ≠ (bytes.take size).length := by
      intro hfits
      cases hok.mpr hfits
    omega
  have hlength : bytes.length = (bytes.take size).length + (bytes.drop size).length := by
    rw [← List.length_append, List.take_append_drop]
  refine ⟨hshort, ?_⟩
  rw [hlength]
  exact reach_of_lt hshort _

theorem flush_eq_ok_iff : sink.flush.1 = .ok () ↔ sink.flushFailure = none := by
  simp only [flush]
  split
  · next kind hfails => simp [hfails]
  · next hnone => simp [hnone]

/-- Sending succeeds if all has gone out and is flushed. -/
theorem send_reaches (sink : Sink) (bytes : List UInt8) :
    (sink.send bytes).2.received = sink.received ++ bytes.take (sink.reach bytes.length) ∧
      ((sink.send bytes).1 = .ok () ↔
        sink.reach bytes.length = bytes.length ∧ sink.flushFailure = none) := by
  obtain ⟨hspent, hreceived, hok⟩ := sink.writeAll_reaches bytes
  simp only [send]
  split
  · next after hwrite =>
      rw [hwrite] at hspent hreceived hok
      refine ⟨by rw [received_flush, hreceived], ?_⟩
      rw [flush_eq_ok_iff, hspent.flushFailure, and_iff_right (hok.mp rfl)]
  · next hfailed =>
      refine ⟨hreceived, iff_of_false ?_ fun h => ?_⟩
      · intro hsent
        exact hfailed _ (Prod.ext hsent rfl)
      · exact hfailed _ (Prod.ext (hok.mpr h.1) rfl)

end Sink

/-! ## Files -/

namespace Transfer

/-- A file in chunks gets as far as its readable bytes in one go. -/
theorem sendChunks_reaches (failure : Option IoError) (extra sent : Nat) (left : List UInt8)
    (sink : Sink) :
    (sendChunks failure extra left sent sink).2.received =
        sink.received ++ left.take (sink.reach left.length) ∧
      ((sendChunks failure extra left sent sink).1.isSuccess = true ↔
        failure = none ∧ sink.reach left.length = left.length ∧ sink.flushFailure = none) := by
  fun_induction sendChunks failure extra left sent sink with
  | case1 sent sink e hfailure =>
      refine ⟨by rw [List.take_nil, List.append_nil], iff_of_false Bool.false_ne_true fun h => ?_⟩
      rw [hfailure] at h
      cases h.1
  | case2 sent sink hfailure after hflush =>
      have hflushed : sink.flush.1 = .ok () := by rw [hflush]
      have hzero : sink.reach ([] : List UInt8).length = 0 := Nat.le_zero.mp (sink.reach_le 0)
      refine ⟨?_, iff_of_true rfl ⟨hfailure, hzero, Sink.flush_eq_ok_iff.mp hflushed⟩⟩
      rw [List.take_nil, List.append_nil, ← sink.received_flush, hflush]
  | case3 sent sink hfailure e after hflush =>
      refine ⟨?_, iff_of_false Bool.false_ne_true fun h => ?_⟩
      · rw [List.take_nil, List.append_nil, ← sink.received_flush, hflush]
      · have hflushed := Sink.flush_eq_ok_iff.mpr h.2.2
        rw [hflush] at hflushed
        cases hflushed
  | case4 left sent sink hleft chunk after hwrite ih =>
      obtain ⟨-, hreceived, hok⟩ := sink.writeAll_reaches chunk
      obtain ⟨hspent, hwhole⟩ := Sink.reach_of_piece hwrite
      rw [hwrite] at hreceived hok
      obtain ⟨ihreceived, ihsuccess⟩ := ih
      have hlength : left.length = chunk.length + (left.drop (extra + 1)).length := by
        rw [← List.length_append, List.take_append_drop]
      refine ⟨?_, ?_⟩
      · have htaken : left.take (sink.reach left.length) =
            chunk ++ (left.drop (extra + 1)).take
              (after.reach (left.drop (extra + 1)).length) := by
          rw [hwhole, ← List.take_length_add_append, List.take_append_drop]
        rw [ihreceived, hreceived, hok.mp rfl, List.take_length, htaken, List.append_assoc]
      · have hfailure : after.flushFailure = sink.flushFailure := hspent.flushFailure
        rw [ihsuccess, hfailure, hwhole, hlength, Nat.add_left_cancel_iff]
  | case5 left sent sink hleft chunk e after hwrite hzero
  | case6 left sent sink hleft chunk e after hwrite hother =>
      obtain ⟨-, hreceived, -⟩ := sink.writeAll_reaches chunk
      obtain ⟨hshort, hwhole⟩ := Sink.reach_of_short_piece hwrite
      rw [hwrite] at hreceived
      have hle : (left.take (extra + 1)).length ≤ left.length := List.length_take_le' _ _
      have htaken : chunk.take (sink.reach chunk.length) =
          left.take (sink.reach chunk.length) := by
        rw [List.take_take, Nat.min_eq_left]
        exact Nat.le_trans (sink.reach_le _) (List.length_take_le _ _)
      refine ⟨by rw [hreceived, hwhole, htaken], iff_of_false Bool.false_ne_true fun h => ?_⟩
      omega

end Transfer

end PassiveFtp
