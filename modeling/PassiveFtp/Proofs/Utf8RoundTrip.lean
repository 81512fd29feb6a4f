import PassiveFtp.Proofs.AsciiBytes

/-!
# Text that was encoded is decoded to itself

Replacing what is ill formed must not touch what is not. An encoded character is
a byte below `0x80`, or a lead byte and exactly as many continuation bytes as it
announces, the first of them in the range it announces (`exists_lead`). So decoding
takes the bytes of one character and leaves those of the next ones alone, whatever
they are.

The ranges are where the work is: a character of three or four bytes must not
be one that a shorter form could spell, nor a surrogate, nor past the last code
point, or the second byte would be out of range.
-/

namespace PassiveFtp.Utf8

variable {b second : UInt8} {lead : Lead} {more : List UInt8}

/-- A second byte and further ones that are all a lead byte announces. -/
structure Lead.Announces (lead : Lead) (second : UInt8) (more : List UInt8) : Prop where
  low : lead.low ≤ second
  high : second ≤ lead.high
  length : more.length = lead.more
  continuation : ∀ next ∈ more, isContinuation next = true

/-- The number that the bits of a lead byte and of the bytes after it spell. -/
def Lead.value (lead : Lead) (tail : List UInt8) : Nat :=
  tail.foldl (fun n b => n * 64 + b.toNat % 64) lead.bits

/-! ## From the bytes to the number -/

theorem not_lt_of_lead? (h : lead? b = some lead) : ¬ b < 0x80 := by
  intro hb
  have hsmall : b < 0xC2 := UInt8.lt_trans hb (by decide)
  rw [lead?, if_pos hsmall] at h
  cases h

theorem Lead.Announces.tail_eq (h : lead.Announces second more) (rest : List UInt8) :
    lead.tail (second :: (more ++ rest)) = second :: more := by
  rw [Lead.tail, if_pos (by simp [h.low, h.high]), ← h.length, List.take_left,
    List.takeWhile_eq_self_iff.mpr h.continuation]

theorem Lead.Announces.char_eq (h : lead.Announces second more) :
    lead.char (second :: more) = Char.ofNat (lead.value (second :: more)) := by
  rw [Lead.char, if_pos (by rw [List.length_cons, h.length])]
  rfl

/-- A lead byte is decoded with the bytes it announces, if they are there. -/
theorem decodeLossy_lead (hlead : lead? b = some lead) (h : lead.Announces second more)
    (rest : List UInt8) :
    decodeLossy (b :: second :: (more ++ rest)) =
      Char.ofNat (lead.value (second :: more)) :: decodeLossy rest := by
  rw [decodeLossy, if_neg (not_lt_of_lead? hlead), hlead]
  simp only [h.tail_eq, h.char_eq, List.length_cons, List.drop_succ_cons, List.drop_left]

/-! ## From the number to the bytes -/

/-- What a byte given as a number announces. -/
theorem lead?_ofNat {n : Nat} (h : n < 256) :
    lead? (UInt8.ofNat n) =
      if n < 0xC2 then none
      else if n < 0xE0 then some ⟨n - 0xC0, 0x80, 0xBF, 0⟩
      else if n = 0xE0 then some ⟨n - 0xE0, 0xA0, 0xBF, 1⟩
      else if n = 0xED then some ⟨n - 0xE0, 0x80, 0x9F, 1⟩
      else if n < 0xF0 then some ⟨n - 0xE0, 0x80, 0xBF, 1⟩
      else if n = 0xF0 then some ⟨n - 0xF0, 0x90, 0xBF, 2⟩
      else if n < 0xF4 then some ⟨n - 0xF0, 0x80, 0xBF, 2⟩
      else if n = 0xF4 then some ⟨n - 0xF0, 0x80, 0x8F, 2⟩
      else none := by
  simp only [lead?, UInt8.lt_iff_toNat_lt, ← UInt8.toNat_inj, UInt8.toNat_ofNat_of_lt' h,
    UInt8.reduceToNat]

theorem toNat_continuation (n : Nat) : (UInt8.ofNat (n % 64 + 0x80)).toNat = n % 64 + 0x80 :=
  UInt8.toNat_ofNat_of_lt' (by show _ < 256; omega)

theorem isContinuation_ofNat (n : Nat) : isContinuation (UInt8.ofNat (n % 64 + 0x80)) = true := by
  rw [isContinuation_iff, toNat_continuation]
  omega

/-- A number that is spelled in two bytes. -/
theorem exists_lead_two {n : Nat} (hlow : 0x80 ≤ n) (hhigh : n < 0x800) :
    ∃ lead, lead? (UInt8.ofNat (n / 64 % 32 + 0xC0)) = some lead ∧
      lead.Announces (UInt8.ofNat (n % 64 + 0x80)) [] ∧
      lead.value [UInt8.ofNat (n % 64 + 0x80)] = n := by
  refine ⟨⟨n / 64, 0x80, 0xBF, 0⟩, ?_, ⟨?_, ?_, rfl, by simp⟩, ?_⟩
  · rw [lead?_ofNat (by omega), if_neg (by omega), if_pos (by omega)]
    simp only [Option.some.injEq, Lead.mk.injEq, and_true]
    omega
  · rw [UInt8.le_iff_toNat_le, toNat_continuation]
    simp
  · rw [UInt8.le_iff_toNat_le, toNat_continuation]
    simp
    omega
  · simp only [Lead.value, List.foldl_cons, List.foldl_nil, toNat_continuation]
    omega

/-- A number that is spelled in three bytes and no surrogate. -/
theorem exists_lead_three {n : Nat} (hlow : 0x800 ≤ n) (hhigh : n < 0x10000)
    (hgap : n < 0xD800 ∨ 0xDFFF < n) :
    ∃ lead, lead? (UInt8.ofNat (n / 4096 % 16 + 0xE0)) = some lead ∧
      lead.Announces (UInt8.ofNat (n / 64 % 64 + 0x80)) [UInt8.ofNat (n % 64 + 0x80)] ∧
      lead.value [UInt8.ofNat (n / 64 % 64 + 0x80), UInt8.ofNat (n % 64 + 0x80)] = n := by
  obtain ⟨low, high, hlead, hfirst, hlast⟩ : ∃ low high : UInt8,
      lead? (UInt8.ofNat (n / 4096 % 16 + 0xE0)) = some ⟨n / 4096, low, high, 1⟩ ∧
        low.toNat ≤ n / 64 % 64 + 0x80 ∧ n / 64 % 64 + 0x80 ≤ high.toNat := by
    have hbits : n / 4096 % 16 + 0xE0 - 0xE0 = n / 4096 := by omega
    rw [lead?_ofNat (by omega), if_neg (by omega), if_neg (by omega), hbits]
    split
    · exact ⟨0xA0, 0xBF, rfl, by simp; omega, by simp; omega⟩
    · split
      · exact ⟨0x80, 0x9F, rfl, by simp, by simp; omega⟩
      · rw [if_pos (by omega)]
        exact ⟨0x80, 0xBF, rfl, by simp, by simp; omega⟩
  refine ⟨_, hlead, ⟨?_, ?_, rfl, List.forall_mem_singleton.mpr (isContinuation_ofNat _)⟩, ?_⟩
  · rwa [UInt8.le_iff_toNat_le, toNat_continuation]
  · rwa [UInt8.le_iff_toNat_le, toNat_continuation]
  · simp only [Lead.value, List.foldl_cons, List.foldl_nil, toNat_continuation]
    omega

/-- A number that is spelled in four bytes and not past the last code point. -/
theorem exists_lead_four {n : Nat} (hlow : 0x10000 ≤ n) (hhigh : n < 0x110000) :
    ∃ lead, lead? (UInt8.ofNat (n / 262144 % 8 + 0xF0)) = some lead ∧
      lead.Announces (UInt8.ofNat (n / 4096 % 64 + 0x80))
        [UInt8.ofNat (n / 64 % 64 + 0x80), UInt8.ofNat (n % 64 + 0x80)] ∧
      lead.value [UInt8.ofNat (n / 4096 % 64 + 0x80), UInt8.ofNat (n / 64 % 64 + 0x80),
        UInt8.ofNat (n % 64 + 0x80)] = n := by
  obtain ⟨low, high, hlead, hfirst, hlast⟩ : ∃ low high : UInt8,
      lead? (UInt8.ofNat (n / 262144 % 8 + 0xF0)) = some ⟨n / 262144, low, high, 2⟩ ∧
        low.toNat ≤ n / 4096 % 64 + 0x80 ∧ n / 4096 % 64 + 0x80 ≤ high.toNat := by
    have hbits : n / 262144 % 8 + 0xF0 - 0xF0 = n / 262144 := by omega
    rw [lead?_ofNat (by omega), if_neg (by omega), if_neg (by omega), if_neg (by omega),
      if_neg (by omega), if_neg (by omega), hbits]
    split
    · exact ⟨0x90, 0xBF, rfl, by simp; omega, by simp; omega⟩
    · split
      · exact ⟨0x80, 0xBF, rfl, by simp, by simp; omega⟩
      · rw [if_pos (by omega)]
        exact ⟨0x80, 0x8F, rfl, by simp, by simp; omega⟩
  refine ⟨_, hlead, ⟨?_, ?_, rfl, List.forall_mem_cons.mpr
    ⟨isContinuation_ofNat _, List.forall_mem_singleton.mpr (isContinuation_ofNat _)⟩⟩, ?_⟩
  · rwa [UInt8.le_iff_toNat_le, toNat_continuation]
  · rwa [UInt8.le_iff_toNat_le, toNat_continuation]
  · simp only [Lead.value, List.foldl_cons, List.foldl_nil, toNat_continuation]
    omega

/-! ## Characters and texts -/

theorem utf8EncodeChar_ascii {c : Char} (h : c.toNat < 0x80) :
    String.utf8EncodeChar c = [UInt8.ofNat c.toNat] := by
  have hsmall : c.val.toNat ≤ 127 := Nat.le_of_lt_succ h
  simp only [String.utf8EncodeChar, hsmall, if_true]
  rfl

theorem utf8EncodeChar_ofNat_byte (hb : b < 0x80) :
    String.utf8EncodeChar (Char.ofNat b.toNat) = [b] := by
  have hlt : b.toNat < 0x80 := UInt8.lt_iff_toNat_lt.mp hb
  rw [utf8EncodeChar_ascii (by rwa [toNat_ofNat_byte]), toNat_ofNat_byte, UInt8.ofNat_toNat]

/-- A character past `0x7F` is a lead byte and what that announces. -/
theorem exists_lead {c : Char} (h : ¬ c.toNat < 0x80) :
    ∃ b lead second more, String.utf8EncodeChar c = b :: second :: more ∧
      lead? b = some lead ∧ lead.Announces second more ∧
      lead.value (second :: more) = c.toNat := by
  have hvalid : c.val.toNat < 0xD800 ∨ 0xDFFF < c.val.toNat ∧ c.val.toNat < 0x110000 := c.valid
  have hlarge : ¬ c.val.toNat ≤ 127 := fun hle => h (Nat.lt_succ_of_le hle)
  simp only [String.utf8EncodeChar, hlarge, if_false]
  split
  · obtain ⟨lead, hspelled⟩ := exists_lead_two (n := c.val.toNat) (by omega) (by omega)
    exact ⟨_, lead, _, _, rfl, hspelled⟩
  · split
    · obtain ⟨lead, hspelled⟩ := exists_lead_three (n := c.val.toNat) (by omega) (by omega)
        (by omega)
      exact ⟨_, lead, _, _, rfl, hspelled⟩
    · obtain ⟨lead, hspelled⟩ := exists_lead_four (n := c.val.toNat) (by omega) (by omega)
      exact ⟨_, lead, _, _, rfl, hspelled⟩

theorem decodeLossy_utf8EncodeChar (c : Char) (rest : List UInt8) :
    decodeLossy (String.utf8EncodeChar c ++ rest) = c :: decodeLossy rest := by
  by_cases hc : c.toNat < 0x80
  · rw [utf8EncodeChar_ascii hc, List.singleton_append,
      decodeLossy_ascii rest ((ofNat_lt_iff (by omega)).mpr hc),
      UInt8.toNat_ofNat_of_lt' (Nat.lt_trans hc (by decide)), Char.ofNat_toNat]
  · obtain ⟨b, lead, second, more, hbytes, hlead, hannounced, hvalue⟩ := exists_lead hc
    rw [hbytes, List.cons_append, List.cons_append, decodeLossy_lead hlead hannounced, hvalue,
      Char.ofNat_toNat]

/-- Decoding reads an encoded text back, and what comes after it as if it stood
alone. -/
theorem decodeLossy_encode_append (text : List Char) (rest : List UInt8) :
    decodeLossy (encode text ++ rest) = text ++ decodeLossy rest := by
  induction text with
  | nil => rfl
  | cons c more ih =>
      rw [encode, List.flatMap_cons, List.append_assoc, decodeLossy_utf8EncodeChar, ← encode, ih,
        List.cons_append]

theorem decodeLossy_encode (text : List Char) : decodeLossy (encode text) = text := by
  simpa [decodeLossy] using decodeLossy_encode_append text []

end PassiveFtp.Utf8
