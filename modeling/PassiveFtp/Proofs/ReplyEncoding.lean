import Mathlib
import PassiveFtp.Proofs.AddressTuples

/-!
# A reply can be read off its line

A reply with a code is written with or without a detail, in two formats that
share a beginning: after the fixed text and its full stop there is the line end
at once, or a space and the detail. No detail is needed to tell the two apart,
since a line end is not a space, and that is why nothing a detail holds can pass
for another reply: not a space in front, not a line end after it, not what a
fixed text has in it. All codes have three digits, so the code is cut off first,
and a fixed text never has to be compared with another.

A line taken as it stands is asked for its code by its first three bytes, which
need not end between characters. Those three bytes say no more than the first
three characters do (`status?_raw_eq_some_iff`).
-/

namespace PassiveFtp

/-! ## Codes and their numbers -/

namespace ReplyCode

theorem number_bounds (code : ReplyCode) : 100 ≤ code.number ∧ code.number < 1000 := by
  cases code <;> decide

theorem ofNumber?_eq_some_iff {n : Nat} {code : ReplyCode} :
    ofNumber? n = some code ↔ code.number = n := by
  constructor
  · intro h
    have hsame := List.find?_some (p := fun found : ReplyCode => found.number == n) h
    exact beq_iff_eq.mp hsame
  · intro h
    rw [← h, ofNumber?_number]

theorem ofNumber?_eq_none {n : Nat} (h : ∀ code : ReplyCode, code.number ≠ n) :
    ofNumber? n = none := by
  cases hfound : ofNumber? n with
  | none => rfl
  | some code => exact absurd (ofNumber?_eq_some_iff.mp hfound) (h code)

end ReplyCode

/-! ## The first three bytes of a line -/

namespace Text

theorem splitAtByte?_eq_some {text front back : List Char} {n : Nat}
    (h : splitAtByte? text n = some (front, back)) :
    text = front ++ back ∧ byteSize front = n := by
  induction text generalizing n front with
  | nil =>
      cases n with
      | zero => cases h; exact ⟨rfl, rfl⟩
      | succ n => cases h
  | cons c rest ih =>
      cases n with
      | zero => cases h; exact ⟨rfl, rfl⟩
      | succ n =>
          rw [splitAtByte?] at h
          split at h
          · next hle =>
              obtain ⟨⟨front', back'⟩, hrest, hsame⟩ := Option.map_eq_some_iff.mp h
              cases hsame
              obtain ⟨htext, hsize⟩ := ih hrest
              refine ⟨by rw [htext, List.cons_append], ?_⟩
              rw [byteSize, List.map_cons, List.sum_cons, ← byteSize, hsize]
              omega
          · cases h

/-- A text of which every character takes one byte. -/
theorem byteSize_of_ascii {text : List Char} (h : ∀ c ∈ text, c.toNat < 0x80) :
    byteSize text = text.length := by
  induction text with
  | nil => rfl
  | cons c rest ih =>
      obtain ⟨hc, hrest⟩ := List.forall_mem_cons.mp h
      have hone : c.utf8Size = 1 := Char.utf8Size_eq_one_iff.mpr (Nat.le_of_lt_succ hc)
      rw [byteSize, List.map_cons, List.sum_cons, ← byteSize, ih hrest, hone, List.length_cons]
      omega

end Text

namespace Decimal

theorem ascii_of_read? {bound n : Nat} {text : List Char} (h : read? bound text = some n) :
    ∀ c ∈ text, c.toNat < 0x80 := by
  obtain ⟨run, htext, hrun⟩ := read?_eq_some_iff.mp h
  have hdigits : ∀ c ∈ run, c.toNat < 0x80 := by
    intro c hc
    have hbounds := isDigit_iff.mp ((readDigits?_eq_some_iff.mp hrun).2.1 c hc)
    omega
  rcases htext with rfl | rfl
  · exact hdigits
  · exact List.forall_mem_cons.mpr ⟨by decide, hdigits⟩

theorem read?_digits {bound n : Nat} (h : n ≤ bound) : read? bound (digits n) = some n := by
  refine read?_eq_some_iff.mpr ⟨_, .inl rfl, readDigits?_eq_some_iff.mpr
    ⟨digits_ne_nil n, ?_, value_digits n, h⟩⟩
  intro c hc
  exact isDigit_of_mem_digits hc

end Decimal

namespace Reply

variable {code code' : ReplyCode} {detail detail' : String}

/-- A line begins with a number exactly if it can be cut after three bytes and they
spell it: what reads as a number is in ASCII, a character a byte. -/
theorem status?_raw_eq_some_iff {line : String} {n : Nat} :
    (raw line).status? = some n ↔
      ∃ front back, Text.splitAtByte? line.toList 3 = some (front, back) ∧
        Decimal.read? 65535 front = some n := by
  simp only [status?]
  constructor
  · intro h
    split at h
    · cases h
    · next hlength =>
        have hle := List.length_take_le 3 line.toList
        have hsize := Text.byteSize_of_ascii (Decimal.ascii_of_read? h)
        rw [show (line.toList.take 3).length = 3 by omega] at hsize
        have hsplit := Text.splitAtByte?_append (line.toList.take 3) (line.toList.drop 3)
        rw [hsize, List.take_append_drop] at hsplit
        exact ⟨_, _, hsplit, h⟩
  · intro h
    obtain ⟨front, back, hsplit, hread⟩ := h
    obtain ⟨hline, hsize⟩ := Text.splitAtByte?_eq_some hsplit
    rw [Text.byteSize_of_ascii (Decimal.ascii_of_read? hread)] at hsize
    have htake : line.toList.take 3 = front := by rw [hline, ← hsize, List.take_left]
    rw [htake, if_neg (by omega), hread]

/-! ## Lines -/

/-- What is written of a detail: nothing at all, or a space and the detail. -/
def shown (detail : String) : List Char :=
  if detail.isEmpty then [] else ' ' :: detail.toList

theorem shown_inj : shown detail = shown detail' ↔ detail = detail' := by
  constructor
  · intro h
    simp only [shown] at h
    split at h
    · next hempty =>
        split at h
        · next hempty' =>
            rw [String.isEmpty_iff.mp hempty, String.isEmpty_iff.mp hempty']
        · cases h
    · split at h
      · cases h
      · exact String.toList_inj.mp (List.cons.inj h).2
  · exact congrArg shown

theorem toList_encode_coded (code : ReplyCode) (detail : String) :
    (coded code detail).encode.toList = Decimal.digits code.number ++
      ' ' :: (code.text.toList ++ '.' :: shown detail) ++ ['\r', '\n'] := by
  simp only [encode, shown]
  split
  · simp [Decimal.print, String.toList_append]
  · simp [Decimal.print, String.toList_append]

theorem length_digits_number (code : ReplyCode) : (Decimal.digits code.number).length = 3 :=
  Decimal.length_digits code.number_bounds.1 code.number_bounds.2

/-- Two lines are the same only for the same code, since the codes are equally long,
and then only for the same detail. -/
theorem encode_coded_inj :
    (coded code detail).encode = (coded code' detail').encode ↔
      code = code' ∧ detail = detail' := by
  constructor
  · intro h
    rw [← String.toList_inj, toList_encode_coded, toList_encode_coded,
      List.append_cancel_right_eq] at h
    obtain ⟨hdigits, hrest⟩ := List.append_inj h
      ((length_digits_number code).trans (length_digits_number code').symm)
    have hnumber : code.number = code'.number := by
      rw [← Decimal.value_digits code.number, hdigits, Decimal.value_digits]
    obtain rfl : code = code' := by
      have hfound := ReplyCode.ofNumber?_number code
      rw [ReplyCode.ofNumber?_eq_some_iff.mpr hnumber.symm] at hfound
      exact (Option.some.inj hfound).symm
    obtain ⟨-, hdetail⟩ := List.cons.inj hrest
    rw [List.append_cancel_left_eq] at hdetail
    exact ⟨rfl, shown_inj.mp (List.cons.inj hdetail).2⟩
  · intro h
    rw [h.1, h.2]

theorem status?_raw_encode (code : ReplyCode) (detail : String) :
    (raw (coded code detail).encode).status? = some code.number := by
  have hread : Decimal.read? 65535 (Decimal.digits code.number) = some code.number :=
    Decimal.read?_digits (by have := code.number_bounds; omega)
  have hsize := Text.byteSize_of_ascii (Decimal.ascii_of_read? hread)
  rw [length_digits_number] at hsize
  have hsplit := Text.splitAtByte?_append (Decimal.digits code.number)
    (' ' :: (code.text.toList ++ '.' :: shown detail) ++ ['\r', '\n'])
  rw [hsize, ← List.append_assoc, ← toList_encode_coded] at hsplit
  exact status?_raw_eq_some_iff.mpr ⟨_, _, hsplit, hread⟩

/-- The line of a reply with a code belongs to no other code and no other detail, and
taken as it stands it still begins with the number of its code. A number is that of a
code or lets the detail through as it is. -/
theorem encode_loses_nothing :
    (∀ (code code' : ReplyCode) (detail detail' : String),
      (coded code detail).encode = (coded code' detail').encode ↔
        code = code' ∧ detail = detail') ∧
    (∀ (code : ReplyCode) (detail : String),
      (raw (coded code detail).encode).status? = some code.number) ∧
    (∀ (n : Nat) (code : ReplyCode), ReplyCode.ofNumber? n = some code ↔ code.number = n) ∧
    (∀ (code : ReplyCode) (detail : String),
      encodeNumber code.number detail = (coded code detail).encode) ∧
    ∀ (n : Nat) (detail : String),
      (∀ code : ReplyCode, code.number ≠ n) → encodeNumber n detail = detail := by
  refine ⟨fun _ _ _ _ => encode_coded_inj, status?_raw_encode,
    fun _ _ => ReplyCode.ofNumber?_eq_some_iff, ?_, ?_⟩
  · intro code detail
    rw [encodeNumber, ReplyCode.ofNumber?_number]
  · intro n detail h
    rw [encodeNumber, ReplyCode.ofNumber?_eq_none h]

end Reply

end PassiveFtp
