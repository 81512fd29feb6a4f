import PassiveFtp.Transfer.File
import PassiveFtp.Transfer.Listing

/-!
# What a sink receives is a beginning of what it is sent

A sink may take less than it is given, in pieces of its own choosing, and stop
for good at any point. Nothing it does can add a byte, leave one out or change
their order, so whatever is sent, what has come out at the other end is what was
there before and then a beginning of it. The same is true of a file sent in
chunks and of a listing, because both are written one piece after the other and
stop at the first failure.
-/

namespace PassiveFtp

/-- A sink that has taken, after what it had, a beginning of some bytes. -/
def Sink.TookFrom (before after : Sink) (bytes : List UInt8) : Prop :=
  ∃ gone, gone <+: bytes ∧ after.received = before.received ++ gone

namespace Sink

variable {sink : Sink} {bytes : List UInt8}

theorem received_push (sink : Sink) (room : Option Nat) (taken : List UInt8) :
    ({ sink with room, taken := sink.taken.push taken } : Sink).received =
      sink.received ++ taken := by
  simp [received]

theorem received_flush (sink : Sink) : sink.flush.2.received = sink.received := by
  simp only [flush]
  split <;> rfl

/-- A write takes the number of bytes it tells, from the front. -/
theorem received_of_write {count : Nat} {after : Sink} (h : sink.write bytes = (.ok count, after)) :
    after.received = sink.received ++ bytes.take count := by
  simp only [write] at h
  split at h
  · cases h
  · cases h
    exact received_push _ _ _

theorem eq_of_write_error {e : IoError} {after : Sink}
    (h : sink.write bytes = (.error e, after)) : after = sink := by
  simp only [write] at h
  split at h <;> cases h
  rfl

/-- Writing everything succeeds only when all of it has gone out. -/
theorem received_writeAll (sink : Sink) (bytes : List UInt8) :
    ∃ gone, gone <+: bytes ∧ (sink.writeAll bytes).2.received = sink.received ++ gone ∧
      ((sink.writeAll bytes).1 = .ok () → gone = bytes) := by
  fun_induction writeAll sink bytes with
  | case1 sink => exact ⟨[], List.nil_prefix, (List.append_nil _).symm, fun _ => rfl⟩
  | case2 sink bytes hbytes e after hwrite =>
      rw [eq_of_write_error hwrite]
      exact ⟨[], List.nil_prefix, (List.append_nil _).symm, nofun⟩
  | case3 sink bytes hbytes after hwrite =>
      exact ⟨[], List.nil_prefix, received_of_write hwrite, nofun⟩
  | case4 sink bytes hbytes count after hwrite ih =>
      obtain ⟨gone, ⟨left, hgone⟩, hreceived, hall⟩ := ih
      refine ⟨bytes.take (count + 1) ++ gone, ⟨left, ?_⟩, ?_, fun hok => ?_⟩
      · rw [List.append_assoc, hgone, List.take_append_drop]
      · rw [hreceived, received_of_write hwrite, List.append_assoc]
      · rw [hall hok, List.take_append_drop]

theorem tookFrom_writeAll (sink : Sink) (bytes : List UInt8) :
    sink.TookFrom (sink.writeAll bytes).2 bytes := by
  obtain ⟨gone, hgone, hreceived, -⟩ := received_writeAll sink bytes
  exact ⟨gone, hgone, hreceived⟩

theorem tookFrom_send (sink : Sink) (bytes : List UInt8) :
    sink.TookFrom (sink.send bytes).2 bytes := by
  have htook := tookFrom_writeAll sink bytes
  simp only [send]
  split
  · next after h =>
      rw [h] at htook
      obtain ⟨gone, hgone, hreceived⟩ := htook
      exact ⟨gone, hgone, by rw [received_flush, hreceived]⟩
  · exact htook

end Sink

/-! ## Files and listings -/

namespace Transfer

/-- What is opened is a directory, of which nothing can be read, or a file, of
which a beginning can. -/
theorem openFile_cases {tree : Tree} {p : Path} {fault : Option FileFault} {file : OpenFile}
    (h : openFile tree p fault = .ok file) :
    (∃ e, file = { readable := [], failure := some e }) ∨
      ∃ content, tree.find p = .ok (.file content) ∧ file.readable <+: content := by
  simp only [openFile] at h
  split at h
  · cases h
  · cases h
  · cases h
  · cases h
    exact .inl ⟨_, rfl⟩
  · next content after e hfind =>
      cases h
      exact .inr ⟨content, hfind, List.take_prefix _ _⟩
  · next content hfind =>
      cases h
      exact .inr ⟨content, hfind, List.prefix_refl _⟩

theorem tookFrom_sendChunks (failure : Option IoError) (extra sent : Nat) (left : List UInt8)
    (sink : Sink) : sink.TookFrom (sendChunks failure extra left sent sink).2 left := by
  fun_induction sendChunks failure extra left sent sink with
  | case1 sent sink e hfailure => exact ⟨[], List.nil_prefix, (List.append_nil _).symm⟩
  | case2 sent sink hfailure after hflush | case3 sent sink hfailure e after hflush =>
      refine ⟨[], List.nil_prefix, ?_⟩
      rw [List.append_nil, ← sink.received_flush, hflush]
  | case4 left sent sink hleft chunk after hwrite ih =>
      obtain ⟨gone, ⟨more, hgone⟩, hreceived⟩ := ih
      obtain ⟨first, -, hfirst, hall⟩ := sink.received_writeAll chunk
      rw [hwrite] at hfirst hall
      refine ⟨chunk ++ gone, ⟨more, ?_⟩, ?_⟩
      · rw [List.append_assoc, hgone, List.take_append_drop]
      · rw [hreceived, hfirst, hall rfl, List.append_assoc]
  | case5 left sent sink hleft chunk e after hwrite hzero
  | case6 left sent sink hleft chunk e after hwrite hother =>
      obtain ⟨gone, hgone, hreceived⟩ := sink.tookFrom_writeAll chunk
      rw [hwrite] at hreceived
      exact ⟨gone, hgone.trans (List.take_prefix _ _), hreceived⟩

/-- Only a file has bytes to send. -/
theorem sendFile_cases (tree : Tree) (p : Path) (bufferSize : Nat) (fault : Option FileFault)
    (sink : Sink) :
    (sendFile tree p bufferSize fault sink).2 = sink ∨
      ∃ content, tree.find p = .ok (.file content) ∧
        sink.TookFrom (sendFile tree p bufferSize fault sink).2 content := by
  simp only [sendFile]
  split
  · exact .inl rfl
  · next file hfile =>
      obtain ⟨e, rfl⟩ | ⟨content, hfind, hreadable⟩ := openFile_cases hfile
      · rw [sendChunks]
        exact .inl rfl
      · obtain ⟨gone, hgone, hreceived⟩ :=
          tookFrom_sendChunks file.failure (bufferSize - 1) 0 file.readable sink
        exact .inr ⟨content, hfind, gone, hgone.trans hreadable, hreceived⟩

end Transfer

namespace Listing

/-- Only a directory has names to list. -/
theorem names_cases (tree : Tree) (p : Path) (sink : Sink) :
    (names tree p sink).2 = sink ∨
      ∃ found, tree.entryNames p = .ok found ∧
        sink.TookFrom (names tree p sink).2 (body found) := by
  simp only [names]
  split
  · exact .inl rfl
  · next found hfound =>
      have htook := sink.tookFrom_send (body found)
      refine .inr ⟨found, hfound, ?_⟩
      split <;> next h => rw [h] at htook; exact htook

end Listing

end PassiveFtp
