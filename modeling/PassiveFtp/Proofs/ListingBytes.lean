import Mathlib
import PassiveFtp.Proofs.AsciiBytes
import PassiveFtp.Proofs.SinkAnswers
import PassiveFtp.Proofs.TruthfulReplies

/-!
# A listing byte by byte

A listing has a line for every entry, also where two names look alike once they
are decoded, and the lines are in the order of their bytes. Sorting makes one list
of all the orders that a directory may tell its entries in, so that order cannot
be seen.

A client cuts the bytes at the line ends. It gets the names back as long as none
of them has the beginning of a line end in it, and decoding does not bring one in:
bytes below `0x80` come through it as they are. What the connection takes of the
listing, and what it answers, are those of any other bytes.
-/

namespace PassiveFtp

/-- How a listing of some entries ends that has been sent. -/
def ListOutcome.ofAnswer (entries : Nat) : Except IoError Unit → ListOutcome
  | .ok () => .completed entries
  | .error e => .remoteFailure e

/-- A listing that has gone out whole ends well if the flush does. -/
theorem ListOutcome.ofAnswer_flushAnswer (entries : Nat) (sink : Sink) :
    ofAnswer entries sink.flushAnswer = .completed entries ∧ sink.flushFailure = none ∨
      (∃ e, ofAnswer entries sink.flushAnswer = .remoteFailure e) ∧
        sink.flushFailure.isSome := by
  rw [Sink.flushAnswer]
  cases sink.flushFailure with
  | none => exact .inl ⟨rfl, rfl⟩
  | some kind => exact .inr ⟨⟨_, rfl⟩, rfl⟩

namespace Listing

/-- The lines of a text, which a carriage return and a line feed end. What follows
the last of them is a line if there is anything. -/
def cut : List UInt8 → List (List UInt8)
  | [] => []
  | [b] => [[b]]
  | b :: c :: rest =>
    if b = 0x0D ∧ c = 0x0A then [] :: cut rest else (cut (c :: rest)).modifyHead (b :: ·)

variable {tree : Tree} {p : Path} {found : List Name} {sink : Sink}

/-! ## Cutting at the line ends -/

theorem cut_line_append {name : List UInt8} (h : 0x0D ∉ name) (rest : List UInt8) :
    cut (line name ++ rest) = name :: cut rest := by
  induction name with
  | nil => exact if_pos ⟨rfl, rfl⟩
  | cons b more ih =>
      have hb : b ≠ 0x0D := fun hb => h (by simp [hb])
      have hmore : 0x0D ∉ more := fun hmem => h (List.mem_cons_of_mem b hmem)
      cases hnext : line more ++ rest with
      | nil => simp [line] at hnext
      | cons c tail =>
          have hcons : line (b :: more) ++ rest = b :: c :: tail := by
            rw [← hnext]
            rfl
          rw [hcons, cut, if_neg fun hend => hb hend.1, ← hnext, ih hmore, List.modifyHead_cons]

theorem cut_flatMap_line {lines : List (List UInt8)} (h : ∀ name ∈ lines, 0x0D ∉ name) :
    cut (lines.flatMap line) = lines := by
  induction lines with
  | nil => rfl
  | cons name rest ih =>
      rw [List.flatMap_cons, cut_line_append (h name List.mem_cons_self),
        ih fun other hother => h other (List.mem_cons_of_mem name hother)]

/-- A carriage return alone ends nothing. -/
example : cut [0x61, 0x0D, 0x0A, 0x0D, 0x62] = [[0x61], [0x0D, 0x62]] := by decide

/-- A carriage return is shown if the name has one. -/
theorem return_mem_shown_iff (name : Name) : 0x0D ∈ shown name ↔ 0x0D ∈ name.bytes := by
  rw [shown, Utf8.mem_encode_iff (by decide), Utf8.mem_decodeLossy_iff (by decide)]

/-! ## Sending a listing -/

theorem names_eq_of_ok (h : tree.entryNames p = .ok found) (sink : Sink) :
    names tree p sink =
      (.ofAnswer found.length (sink.send (body found)).1, (sink.send (body found)).2) := by
  simp only [names, h]
  cases sink.send (body found) with
  | mk answer after => cases answer <;> rfl

/-- The order in which a directory tells its names makes no difference. -/
theorem names_perm {peer : Tree} {q : Path} {others : List Name}
    (h : tree.entryNames p = .ok found) (h' : peer.entryNames q = .ok others)
    (hperm : others.Perm found) (sink : Sink) : names peer q sink = names tree p sink := by
  rw [names_eq_of_ok h, names_eq_of_ok h', body_perm hperm, hperm.length_eq]

/-- What the connection takes of a listing, and how that ends. -/
theorem names_of_sink (h : tree.entryNames p = .ok found) (hpieces : sink.perWrite ≠ some 0) :
    let told := names tree p sink
    let room := sink.room.getD (body found).length
    told.2.received = sink.received ++ (body found).take room ∧
      ((body found).length ≤ room → told.1 = .ofAnswer found.length sink.flushAnswer ∧
        told.2.flushes = sink.flushes + 1) ∧
      (room < (body found).length → told.1 = .remoteFailure sink.refusal ∧
        told.2.flushes = sink.flushes) := by
  intro told room
  have hreach : sink.reach (body found).length = min (body found).length room :=
    Sink.reach_eq_min hpieces _
  have hreceived := Sink.received_send hpieces (body found)
  have hflushes := (sink.send_leaves (body found)).2
  have hanswer := Sink.send_answers hpieces (body found)
  rw [hreach] at hflushes hanswer
  simp only [told, names_eq_of_ok h]
  refine ⟨hreceived, fun hall => ?_, fun hshort => ?_⟩
  · rw [if_pos (Nat.min_eq_left hall)] at hflushes hanswer
    rw [hanswer]
    exact ⟨rfl, hflushes⟩
  · have hne : ¬ min (body found).length room = (body found).length := by omega
    rw [if_neg hne] at hflushes hanswer
    rw [hanswer]
    exact ⟨rfl, hflushes⟩

/-- A listing that is had is sent, or the other side fails. -/
theorem names_ends (h : tree.entryNames p = .ok found) (hpieces : sink.perWrite ≠ some 0) :
    let told := names tree p sink
    (told.1 = .completed found.length ∨ ∃ e, told.1 = .remoteFailure e) ∧
      ((∃ e, told.1 = .remoteFailure e) ↔
        sink.room.getD (body found).length < (body found).length ∨
          sink.flushFailure.isSome) := by
  intro told
  obtain ⟨-, hwhole, hshort⟩ := names_of_sink h hpieces
  rcases Nat.lt_or_ge (sink.room.getD (body found).length) (body found).length with hroom | hroom
  · have hfails : ∃ e, told.1 = .remoteFailure e := ⟨_, (hshort hroom).1⟩
    exact ⟨.inr hfails, iff_of_true hfails (.inl hroom)⟩
  · have htold : told.1 = .ofAnswer found.length sink.flushAnswer := (hwhole hroom).1
    rw [htold, or_iff_right (Nat.not_lt.mpr hroom)]
    rcases ListOutcome.ofAnswer_flushAnswer found.length sink with ⟨hdone, hnone⟩ | hfails
    · rw [hdone, hnone]
      exact ⟨.inl rfl, iff_of_false (by simp) Bool.false_ne_true⟩
    · exact ⟨.inr hfails.1, iff_of_true hfails.1 hfails.2⟩

/-- A listing is the names of the entries, decoded, each as often as there are
entries that come out so, in the order of their bytes and each on a line. What the
connection takes of it goes out, it is flushed if that is all, and the other side
fails exactly if it is not all or the flush fails. Without a carriage return in the
names the lines can be told apart again, and the order in which the directory tells
its entries is not to be seen. A directory that cannot be read sends nothing. -/
theorem names_outcome (tree : Tree) (p : Path) (sink : Sink) :
    let told := names tree p sink
    (∀ e, tree.entryNames p = .error e → told = (.localFailure e, sink)) ∧
    ∀ found, tree.entryNames p = .ok found → sink.perWrite ≠ some 0 →
      ∃ lines : List (List UInt8), lines.Perm (found.map shown) ∧ lines.Pairwise (· ≤ ·) ∧
        ((∀ name ∈ found, 0x0D ∉ name.bytes) → cut (lines.flatMap line) = lines) ∧
        let listing := lines.flatMap line
        let room := sink.room.getD listing.length
        told.2.received = sink.received ++ listing.take room ∧
        told.2.flushes = (if room < listing.length then sink.flushes else sink.flushes + 1) ∧
        (told.1 = .completed found.length ∨ ∃ e, told.1 = .remoteFailure e) ∧
        ((∃ e, told.1 = .remoteFailure e) ↔
          room < listing.length ∨ sink.flushFailure.isSome) ∧
        ∀ (peer : Tree) (q : Path) (others : List Name), peer.entryNames q = .ok others →
          others.Perm found → names peer q sink = told := by
  intro told
  refine ⟨fun e hfailed => ?_, fun found hfound hpieces => ?_⟩
  · simp only [told, names, hfailed]
  have hperm : (sorted found).Perm (found.map shown) := List.mergeSort_perm _ _
  have hbody : body found = (sorted found).flatMap line := rfl
  obtain ⟨hreceived, hwhole, hshort⟩ := names_of_sink hfound hpieces
  obtain ⟨hends, hfails⟩ := names_ends hfound hpieces
  rw [hbody] at hreceived hwhole hshort hfails
  refine ⟨sorted found, hperm, pairwise_sorted found, fun hreturns => ?_, hreceived, ?_, hends,
    hfails, fun peer q others hothers hsame => names_perm hfound hothers hsame sink⟩
  · refine cut_flatMap_line fun shownName hmem hreturn => ?_
    obtain ⟨name, hname, rfl⟩ := List.mem_map.mp (hperm.mem_iff.mp hmem)
    exact hreturns name hname ((return_mem_shown_iff name).mp hreturn)
  · split
    · next hroom => exact (hshort hroom).2
    · next hroom => exact (hwhole (Nat.le_of_not_lt hroom)).2

/-- A directory in which two names are no text, each in its own way. -/
def lookalikes : List Name :=
  [⟨[0xFF], by decide⟩, .letter 'b', ⟨[0xFE], by decide⟩]

/-- Both names come out as a replacement character and both are listed, in whatever
order they are told. The connection takes the first line, and the second without the
end of its line end. -/
theorem names_outcome_of_lookalikes :
    let tree : Tree := ⟨lookalikes.map (·, .file [])⟩
    let peer : Tree := ⟨lookalikes.reverse.map (·, .file [])⟩
    let sink : Sink := { room := some 7, perWrite := some 2 }
    let lines : List (List UInt8) := [[0x62], [0xEF, 0xBF, 0xBD], [0xEF, 0xBF, 0xBD]]
    let told := names tree (.ofString "/") sink
    tree.entryNames (.ofString "/") = .ok lookalikes ∧
      peer.entryNames (.ofString "/") = .ok lookalikes.reverse ∧
      cut (lines.flatMap line) = lines ∧
      told.2.received = [0x62, 0x0D, 0x0A, 0xEF, 0xBF, 0xBD, 0x0D] ∧ told.2.flushes = 0 ∧
      (∃ e, told.1 = .remoteFailure e) ∧ names peer (.ofString "/") sink = told := by
  intro tree peer sink lines told
  have hfound : tree.entryNames (.ofString "/") = .ok lookalikes := by cbv
  have hpeer : peer.entryNames (.ofString "/") = .ok lookalikes.reverse := by cbv
  obtain ⟨-, hlisted⟩ := names_outcome tree (.ofString "/") sink
  obtain ⟨listed, hperm, hpairwise, hcut, hreceived, hflushes, -, hfails, hsame⟩ :=
    hlisted lookalikes hfound (by decide)
  -- there is one way to put the three lines in order
  have hlines : listed = lines := by
    have hshown : lookalikes.map shown =
        [[0xEF, 0xBF, 0xBD], [0x62], [0xEF, 0xBF, 0xBD]] := by cbv
    rw [hshown] at hperm
    exact (hperm.trans (.swap _ _ _)).eq_of_pairwise
      (fun _ _ _ _ hab hba => List.le_antisymm hab hba) hpairwise (by decide)
  subst hlines
  exact ⟨hfound, hpeer, hcut (by decide), hreceived, hflushes, hfails.mpr (.inl (by decide)),
    hsame peer _ _ hpeer (List.reverse_perm lookalikes)⟩

end Listing

end PassiveFtp
