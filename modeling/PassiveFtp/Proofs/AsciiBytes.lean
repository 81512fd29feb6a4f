import Mathlib.Data.List.Basic
import Mathlib.Data.List.TakeWhile
import PassiveFtp.Text.Utf8

/-!
# ASCII goes through decoding and encoding untouched

The characters below `0x80` of a decoded text are the bytes below `0x80` it was
decoded from, in order and as often, and the other way round for an encoded
one. So a line end, a space or a slash is in a text exactly if its byte is in
the bytes, well formed or not.

For encoding that is plain from the four shapes of an encoded character. For
decoding the point is that what a lead byte and its tail come to is never below
`0x80`: the ranges of the second byte shut that out, and they shut out
surrogates too, which matters because a number that is no character would be
read as a zero.
-/

namespace PassiveFtp.Utf8

/-- Whether a character is below `0x80`. -/
def isAscii (c : Char) : Bool :=
  decide (c.toNat < 0x80)

theorem toNat_ofNat_of_valid {n : Nat} (h : n.isValidChar) : (Char.ofNat n).toNat = n := by
  rw [Char.ofNat, dif_pos h]
  rfl

/-! ## Bytes as characters -/

theorem toNat_ofNat_byte (b : UInt8) : (Char.ofNat b.toNat).toNat = b.toNat :=
  toNat_ofNat_of_valid (.inl (Nat.lt_trans b.toNat_lt (by decide)))

theorem ofNat_byte_injective : Function.Injective fun b : UInt8 => Char.ofNat b.toNat := by
  intro b b' h
  have hnumber := congrArg Char.toNat h
  rw [toNat_ofNat_byte, toNat_ofNat_byte] at hnumber
  exact UInt8.toNat_inj.mp hnumber

theorem isAscii_ofNat_byte {b : UInt8} (hb : b < 0x80) : isAscii (Char.ofNat b.toNat) = true := by
  rw [isAscii, toNat_ofNat_byte]
  exact decide_eq_true (UInt8.lt_iff_toNat_lt.mp hb)

/-! ## Encoding -/

theorem ofNat_lt_iff {n : Nat} (h : n < 256) : UInt8.ofNat n < 0x80 ↔ n < 0x80 := by
  rw [UInt8.lt_iff_toNat_lt, UInt8.toNat_ofNat_of_lt' h]
  rfl

/-- A character below `0x80` is one byte, and all bytes of any other are not
below it. -/
theorem filter_utf8EncodeChar (c : Char) :
    (String.utf8EncodeChar c).filter (· < 0x80) =
      if isAscii c then [UInt8.ofNat c.toNat] else [] := by
  have hval : c.val.toNat = c.toNat := rfl
  simp only [String.utf8EncodeChar, isAscii, decide_eq_true_eq]
  rw [hval]
  by_cases hc : c.toNat < 0x80
  · rw [if_pos hc, if_pos (by omega), List.filter_cons_of_pos, List.filter_nil]
    rw [decide_eq_true_eq, ofNat_lt_iff (by omega)]
    exact hc
  · rw [if_neg hc, if_neg (by omega), List.filter_eq_nil_iff]
    intro b hb
    rw [decide_eq_true_eq]
    split at hb
    · simp only [List.mem_cons, List.not_mem_nil, or_false] at hb
      rcases hb with rfl | rfl <;> rw [ofNat_lt_iff (by omega)] <;> omega
    · split at hb
      · simp only [List.mem_cons, List.not_mem_nil, or_false] at hb
        rcases hb with rfl | rfl | rfl <;> rw [ofNat_lt_iff (by omega)] <;> omega
      · simp only [List.mem_cons, List.not_mem_nil, or_false] at hb
        rcases hb with rfl | rfl | rfl | rfl <;> rw [ofNat_lt_iff (by omega)] <;> omega

theorem filter_encode (text : List Char) :
    (encode text).filter (· < 0x80) =
      (text.filter isAscii).map fun c => UInt8.ofNat c.toNat := by
  induction text with
  | nil => rfl
  | cons c rest ih =>
      rw [encode, List.flatMap_cons, List.filter_append, ← encode, ih, filter_utf8EncodeChar]
      cases hc : isAscii c <;> simp [hc]

/-! ## Decoding -/

/-- What a lead byte carries and what the second byte adds to it. -/
theorem lead?_bounds {b second : UInt8} {lead : Lead} (h : lead? b = some lead)
    (hlow : lead.low ≤ second) (hhigh : second ≤ lead.high) :
    let n := lead.bits * 64 + second.toNat % 64
    0x80 ≤ second.toNat ∧
      ((lead.more = 0 ∧ 0x80 ≤ n ∧ n < 0x800) ∨
        (lead.more = 1 ∧ 0x20 ≤ n ∧ n < 0x400 ∧ (n < 0x360 ∨ 0x380 ≤ n)) ∨
        (lead.more = 2 ∧ 0x10 ≤ n ∧ n < 0x110)) := by
  have hb := b.toNat_lt
  simp only [lead?, UInt8.lt_iff_toNat_lt, ← UInt8.toNat_inj, UInt8.reduceToNat] at h
  rw [UInt8.le_iff_toNat_le] at hlow hhigh
  split at h
  · cases h
  · repeat' split at h
    all_goals simp only [Option.some.injEq, reduceCtorEq] at h
    all_goals subst h
    all_goals simp only [UInt8.reduceToNat] at hlow hhigh
    all_goals dsimp only
    all_goals omega

theorem isContinuation_iff {b : UInt8} :
    isContinuation b = true ↔ 0x80 ≤ b.toNat ∧ b.toNat ≤ 0xBF := by
  simp [isContinuation, UInt8.le_iff_toNat_le]

theorem Lead.tail_prefix (lead : Lead) (rest : List UInt8) : lead.tail rest <+: rest := by
  cases rest with
  | nil => exact List.prefix_refl _
  | cons second more =>
      simp only [Lead.tail]
      split
      · rw [List.cons_prefix_cons]
        exact ⟨rfl, (List.takeWhile_prefix _).trans (List.take_prefix _ _)⟩
      · exact List.nil_prefix

/-- A tail that is not empty is a second byte in the lead's range, and
continuation bytes after it. -/
theorem Lead.tail_eq_cons {lead : Lead} {rest more : List UInt8} {second : UInt8}
    (h : lead.tail rest = second :: more) :
    lead.low ≤ second ∧ second ≤ lead.high ∧ ∀ b ∈ more, isContinuation b = true := by
  cases rest with
  | nil => cases h
  | cons first others =>
      simp only [Lead.tail] at h
      split at h
      · next hrange =>
          cases h
          rw [Bool.and_eq_true, decide_eq_true_eq, decide_eq_true_eq] at hrange
          exact ⟨hrange.1, hrange.2, fun b hb => List.mem_takeWhile_imp hb⟩
      · cases h

theorem Lead.tail_not_ascii {b : UInt8} {lead : Lead} {rest : List UInt8}
    (h : lead? b = some lead) : (lead.tail rest).filter (· < 0x80) = [] := by
  rw [List.filter_eq_nil_iff]
  intro c hc
  rw [decide_eq_true_eq, UInt8.lt_iff_toNat_lt, Nat.not_lt]
  cases htail : lead.tail rest with
  | nil => rw [htail] at hc; cases hc
  | cons second more =>
      obtain ⟨hlow, hhigh, hmore⟩ := Lead.tail_eq_cons htail
      rw [htail] at hc
      rcases List.mem_cons.mp hc with rfl | hc
      · exact (lead?_bounds h hlow hhigh).1
      · exact (isContinuation_iff.mp (hmore c hc)).1

/-- What a lead byte and its tail come to is no ASCII character. -/
theorem Lead.char_not_ascii {b : UInt8} {lead : Lead} (h : lead? b = some lead)
    (rest : List UInt8) : isAscii (lead.char (lead.tail rest)) = false := by
  simp only [Lead.char]
  split
  · next hlength =>
      cases htail : lead.tail rest with
      | nil => rw [htail] at hlength; cases hlength
      | cons second more =>
          obtain ⟨hlow, hhigh, hmore⟩ := Lead.tail_eq_cons htail
          obtain ⟨-, hcases⟩ := lead?_bounds h hlow hhigh
          rw [htail, List.length_cons, Nat.add_right_cancel_iff] at hlength
          rw [List.foldl_cons]
          generalize lead.bits * 64 + second.toNat % 64 = n at hcases ⊢
          obtain ⟨hzero, hn, hle⟩ | ⟨hone, hn, hle, hgap⟩ | ⟨htwo, hn, hle⟩ := hcases
          · obtain rfl := List.length_eq_zero_iff.mp (hlength.trans hzero)
            rw [List.foldl_nil, isAscii, toNat_ofNat_of_valid (.inl (by omega))]
            exact decide_eq_false (by omega)
          · obtain ⟨third, rfl⟩ := List.length_eq_one_iff.mp (hlength.trans hone)
            have hthird : third.toNat % 64 < 64 := Nat.mod_lt _ (by omega)
            rw [List.foldl_cons, List.foldl_nil, isAscii, toNat_ofNat_of_valid (by
              rcases hgap with hgap | hgap
              · exact .inl (by omega)
              · exact .inr ⟨by omega, by omega⟩)]
            exact decide_eq_false (by omega)
          · obtain ⟨third, fourth, rfl⟩ := List.length_eq_two.mp (hlength.trans htwo)
            have hthird : third.toNat % 64 < 64 := Nat.mod_lt _ (by omega)
            have hfourth : fourth.toNat % 64 < 64 := Nat.mod_lt _ (by omega)
            rw [List.foldl_cons, List.foldl_cons, List.foldl_nil, isAscii,
              toNat_ofNat_of_valid (.inr ⟨by omega, by omega⟩)]
            exact decide_eq_false (by omega)
  · rfl

theorem filter_decodeLossy (bytes : List UInt8) :
    (decodeLossy bytes).filter isAscii =
      (bytes.filter (· < 0x80)).map fun b => Char.ofNat b.toNat := by
  fun_induction decodeLossy bytes with
  | case1 => rfl
  | case2 b rest hb ih =>
      rw [List.filter_cons_of_pos (isAscii_ofNat_byte hb),
        List.filter_cons_of_pos (by simpa using hb), List.map_cons, ih]
  | case3 b rest hb hlead ih =>
      rw [List.filter_cons_of_neg (by decide), List.filter_cons_of_neg (by simpa using hb), ih]
  | case4 b rest hb lead hlead tail ih =>
      obtain ⟨after, hafter⟩ := lead.tail_prefix rest
      have hdrop : rest.drop tail.length = after := by
        rw [← hafter]
        exact List.drop_left
      rw [List.filter_cons_of_neg (by simp [tail, Lead.char_not_ascii hlead rest]),
        List.filter_cons_of_neg (by simpa using hb), ih, hdrop, ← hafter, List.filter_append,
        Lead.tail_not_ascii hlead, List.nil_append]

/-! ## Single characters -/

theorem mem_encode_iff {b : UInt8} (hb : b < 0x80) {text : List Char} :
    b ∈ encode text ↔ Char.ofNat b.toNat ∈ text := by
  have hfilter : b ∈ encode text ↔ b ∈ (encode text).filter (· < 0x80) := by
    rw [List.mem_filter]
    exact ⟨fun h => ⟨h, decide_eq_true hb⟩, fun h => h.1⟩
  rw [hfilter, filter_encode, List.mem_map]
  constructor
  · rintro ⟨c, hc, rfl⟩
    obtain ⟨hmem, hascii⟩ := List.mem_filter.mp hc
    have hsmall : c.toNat < 0x80 := of_decide_eq_true hascii
    rwa [UInt8.toNat_ofNat_of_lt' (Nat.lt_trans hsmall (by decide)), Char.ofNat_toNat]
  · intro h
    refine ⟨Char.ofNat b.toNat, List.mem_filter.mpr ⟨h, isAscii_ofNat_byte hb⟩, ?_⟩
    rw [toNat_ofNat_byte, UInt8.ofNat_toNat]

theorem mem_decodeLossy_iff {b : UInt8} (hb : b < 0x80) {bytes : List UInt8} :
    Char.ofNat b.toNat ∈ decodeLossy bytes ↔ b ∈ bytes := by
  have hfilter : Char.ofNat b.toNat ∈ decodeLossy bytes ↔
      Char.ofNat b.toNat ∈ (decodeLossy bytes).filter isAscii := by
    rw [List.mem_filter]
    exact ⟨fun h => ⟨h, isAscii_ofNat_byte hb⟩, fun h => h.1⟩
  rw [hfilter, filter_decodeLossy, List.mem_map_of_injective ofNat_byte_injective, List.mem_filter]
  exact ⟨fun h => h.1, fun h => ⟨h, decide_eq_true hb⟩⟩

end PassiveFtp.Utf8
