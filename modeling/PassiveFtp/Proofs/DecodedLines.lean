import Mathlib
import PassiveFtp.Control.Conversation
import PassiveFtp.Files.Name
import PassiveFtp.Proofs.IllFormedParts
import PassiveFtp.Proofs.Separators

/-!
# A line can be cut before it is decoded, or after

A line is decoded first and taken apart afterwards, so a client could hope to
spell a space, a slash or a dot in bytes that are none, or to hide one behind a
byte that swallows it. Neither works, and for one reason: a byte below `0x80` ends
whatever came before it and is a character by itself, so that decoding what stands
on its left and what stands on its right is decoding the whole
(`decodeLossy_append_ascii`).

Everything a line is cut at is such a byte. So the line, its words and the
segments of a target can be cut out of the bytes, and decoding the pieces gives
the pieces of the text, one for one. What a piece is compared with is free of the
replacement character, and then there is only one way to spell it.
-/

namespace PassiveFtp

namespace Utf8

variable {b : UInt8} {bytes : List UInt8} {text : List Char}

/-! ## Bytes below `0x80` stand alone -/

/-- What is taken from the front of a list ends before an item that is not taken. -/
theorem takeWhile_take_append {α : Type} {p : α → Bool} {x : α} (hx : p x = false)
    (front rest : List α) (n : Nat) :
    ((front ++ x :: rest).take n).takeWhile p = (front.take n).takeWhile p := by
  have hstop : ((x :: rest).take (n - front.length)).takeWhile p = [] := by
    cases n - front.length with
    | zero => rfl
    | succ left => rw [List.take_succ_cons, List.takeWhile_cons_of_neg (by simp [hx])]
  rw [List.take_append, List.takeWhile_append, hstop, List.append_nil]
  split
  · next hall =>
      exact ((List.takeWhile_prefix p).eq_of_length hall).symm
  · rfl

/-- The tail of a lead byte ends before a byte below `0x80`, wherever that is. -/
theorem Lead.tail_append_ascii {lead : Lead} {first : UInt8} (hlead : lead? first = some lead)
    (hb : b < 0x80) (front rest : List UInt8) :
    lead.tail (front ++ b :: rest) = lead.tail front := by
  have hlt : b.toNat < 0x80 := UInt8.lt_iff_toNat_lt.mp hb
  cases front with
  | nil =>
      have hrange : ¬ (decide (lead.low ≤ b) && decide (b ≤ lead.high)) = true := by
        intro h
        rw [Bool.and_eq_true, decide_eq_true_eq, decide_eq_true_eq] at h
        have hlow := (lead?_bounds hlead h.1 h.2).1
        omega
      rw [List.nil_append]
      exact if_neg hrange
  | cons second more =>
      have hstop : isContinuation b = false := by
        rw [Bool.eq_false_iff, ne_eq, isContinuation_iff]
        omega
      rw [List.cons_append, Lead.tail, Lead.tail, takeWhile_take_append hstop]

/-- A byte below `0x80` parts what is decoded on its left from what is decoded on its
right. -/
theorem decodeLossy_append_ascii (hb : b < 0x80) (front rest : List UInt8) :
    decodeLossy (front ++ b :: rest) =
      decodeLossy front ++ Char.ofNat b.toNat :: decodeLossy rest := by
  fun_induction decodeLossy front with
  | case1 => rw [List.nil_append, decodeLossy_ascii rest hb, List.nil_append]
  | case2 first more hfirst ih =>
      rw [List.cons_append, decodeLossy_ascii _ hfirst, ih, List.cons_append]
  | case3 first more hfirst hlead ih =>
      rw [List.cons_append, decodeLossy, if_neg hfirst, hlead, List.cons_append, ← ih]
  | case4 first more hfirst lead hlead tail ih =>
      have htail : lead.tail (more ++ b :: rest) = tail := lead.tail_append_ascii hlead hb more rest
      have hle : tail.length ≤ more.length := (lead.tail_prefix more).length_le
      rw [← List.drop_append_of_le_length hle] at ih
      rw [List.cons_append, decodeLossy, if_neg hfirst, hlead, List.cons_append, ← ih]
      simp only [htail]

theorem count_decodeLossy (hb : b < 0x80) (bytes : List UInt8) :
    (decodeLossy bytes).count (Char.ofNat b.toNat) = bytes.count b := by
  rw [← List.count_filter (isAscii_ofNat_byte hb), filter_decodeLossy,
    List.count_map_of_injective _ _ ofNat_byte_injective, List.count_filter (by simpa using hb)]

theorem decodeLossy_keepsCuts (hb : b < 0x80) :
    KeepsCuts decodeLossy b (Char.ofNat b.toNat) where
  nil := by rw [decodeLossy]
  append := decodeLossy_append_ascii hb
  apart part h := by rwa [mem_decodeLossy_iff hb]

/-- Cutting comes to the same before decoding and after it. -/
theorem splitOn_decodeLossy (hb : b < 0x80) (bytes : List UInt8) :
    (decodeLossy bytes).splitOn (Char.ofNat b.toNat) = (bytes.splitOn b).map decodeLossy :=
  (decodeLossy_keepsCuts hb).splitOn bytes

/-! ## What only one spelling is decoded to -/

theorem decodeLossy_eq_nil_iff : decodeLossy bytes = [] ↔ bytes = [] := by
  constructor
  · intro h
    cases replaced_iff.mpr h.symm
    rfl
  · rintro rfl
    rw [decodeLossy]

theorem Replaced.of_cons {c : Char} (h : Replaced bytes (c :: text)) (hc : c ≠ replacement) :
    ∃ rest, bytes = String.utf8EncodeChar c ++ rest ∧ Replaced rest text := by
  cases h with
  | character c hrest => exact ⟨_, rfl, hrest⟩
  | illFormed _ _ => exact absurd rfl hc

/-- A text in which nothing was replaced was decoded from its encoding. -/
theorem Replaced.eq_encode (h : Replaced bytes text) (htext : replacement ∉ text) :
    bytes = encode text := by
  induction text generalizing bytes with
  | nil =>
      cases h
      rfl
  | cons c more ih =>
      rw [List.mem_cons, not_or] at htext
      obtain ⟨rest, rfl, hrest⟩ := h.of_cons (Ne.symm htext.1)
      rw [ih hrest htext.2]
      rfl

theorem decodeLossy_eq_iff (htext : replacement ∉ text) :
    decodeLossy bytes = text ↔ bytes = encode text := by
  constructor
  · intro h
    exact (replaced_iff.mpr h.symm).eq_encode htext
  · rintro rfl
    exact decodeLossy_encode text

theorem head?_decodeLossy (hb : b < 0x80) :
    (decodeLossy bytes).head? = some (Char.ofNat b.toNat) ↔ bytes.head? = some b := by
  constructor
  · intro h
    obtain ⟨text, htext⟩ := List.head?_eq_some_iff.mp h
    have hkept : Char.ofNat b.toNat ≠ replacement := by
      intro hsame
      have hascii := isAscii_ofNat_byte hb
      rw [hsame] at hascii
      cases hascii
    obtain ⟨rest, rfl, -⟩ := (replaced_iff.mpr htext.symm).of_cons hkept
    rw [utf8EncodeChar_ofNat_byte hb, List.singleton_append, List.head?_cons]
  · intro h
    obtain ⟨rest, rfl⟩ := List.head?_eq_some_iff.mp h
    rw [decodeLossy_ascii rest hb, List.head?_cons]

theorem encode_decodeLossy_iff :
    encode (decodeLossy bytes) = bytes ↔ bytes.toByteArray.IsValidUTF8 := by
  constructor
  · intro h
    exact ⟨decodeLossy bytes, congrArg List.toByteArray h.symm⟩
  · rintro ⟨text, htext⟩
    obtain rfl : bytes = encode text := List.toByteArray_inj.mp htext
    rw [decodeLossy_encode]

end Utf8

namespace Request

/-- Whether a byte ends a line. -/
def endsRaw (b : UInt8) : Bool :=
  b == 0x0D || b == 0x0A

/-- The bytes of a line before the first that ends it. -/
def rawLine (bytes : List UInt8) : List UInt8 :=
  bytes.takeWhile (!endsRaw ·)

/-- The words of a line, as bytes: the non-empty pieces between its spaces. -/
def rawWords (bytes : List UInt8) : List (List UInt8) :=
  ((rawLine bytes).splitOn 0x20).filter (!·.isEmpty)

theorem endsLine_ofNat_byte (b : UInt8) : endsLine (Char.ofNat b.toNat) = endsRaw b := by
  have hreturn := Utf8.ofNat_byte_injective.eq_iff (a := b) (b := 0x0D)
  have hfeed := Utf8.ofNat_byte_injective.eq_iff (a := b) (b := 0x0A)
  rw [endsLine, endsRaw, Bool.eq_iff_iff, Bool.or_eq_true, Bool.or_eq_true, beq_iff_eq, beq_iff_eq,
    beq_iff_eq, beq_iff_eq]
  exact or_congr hreturn hfeed

theorem lt_of_endsRaw {b : UInt8} (h : endsRaw b = true) : b < 0x80 := by
  rw [endsRaw, Bool.or_eq_true, beq_iff_eq, beq_iff_eq] at h
  rcases h with rfl | rfl
  · decide
  · decide

theorem exists_byte_of_endsLine {c : Char} (h : endsLine c = true) :
    ∃ b : UInt8, endsRaw b = true ∧ c = Char.ofNat b.toNat := by
  rw [endsLine, Bool.or_eq_true, beq_iff_eq, beq_iff_eq] at h
  rcases h with rfl | rfl
  · exact ⟨0x0D, rfl, rfl⟩
  · exact ⟨0x0A, rfl, rfl⟩

theorem not_endsLine_of_mem {bytes : List UInt8} {c : Char}
    (hc : c ∈ Utf8.decodeLossy (rawLine bytes)) : (!endsLine c) = true := by
  rw [Bool.not_eq_true', Bool.eq_false_iff]
  intro hends
  obtain ⟨b, hb, rfl⟩ := exists_byte_of_endsLine hends
  rw [Utf8.mem_decodeLossy_iff (lt_of_endsRaw hb)] at hc
  have hkept := List.mem_takeWhile_imp hc
  rw [hb] at hkept
  cases hkept

/-- What comes after a raw line begins with a byte that ends it. -/
theorem rawLine_eq_or (bytes : List UInt8) :
    rawLine bytes = bytes ∨
      ∃ b rest, endsRaw b = true ∧ bytes = rawLine bytes ++ b :: rest := by
  have hjoined := List.takeWhile_append_dropWhile (p := (!endsRaw ·)) (l := bytes)
  have hfirst := List.head?_dropWhile_not (!endsRaw ·) bytes
  cases hafter : bytes.dropWhile (!endsRaw ·) with
  | nil =>
      rw [hafter, List.append_nil] at hjoined
      exact .inl hjoined
  | cons b rest =>
      rw [hafter] at hjoined hfirst
      exact .inr ⟨b, rest, by simpa using hfirst, hjoined.symm⟩

/-- The line that is taken apart is the text of the raw line. -/
theorem toList_lineOf (bytes : List UInt8) :
    (Conversation.lineOf bytes).toList = Utf8.decodeLossy (rawLine bytes) := by
  rw [Conversation.lineOf, stripEnd, String.toList_ofList, Utf8.toStringLossy,
    String.toList_ofList]
  obtain hwhole | ⟨b, rest, hb, hbytes⟩ := rawLine_eq_or bytes
  · have hpass : ∀ c ∈ Utf8.decodeLossy (rawLine bytes), (!endsLine c) = true :=
      fun c => not_endsLine_of_mem
    rw [hwhole] at hpass ⊢
    exact List.takeWhile_eq_self_iff.mpr hpass
  · conv_lhs => rw [hbytes, Utf8.decodeLossy_append_ascii (lt_of_endsRaw hb)]
    rw [List.takeWhile_append_of_pos fun c => not_endsLine_of_mem,
      List.takeWhile_cons_of_neg (by simp [endsLine_ofNat_byte, hb]), List.append_nil]

theorem words_decodeLossy (bytes : List UInt8) :
    words (Utf8.decodeLossy (rawLine bytes)) = (rawWords bytes).map Utf8.decodeLossy := by
  have hempty : ((!·.isEmpty) ∘ Utf8.decodeLossy) = (!·.isEmpty : List UInt8 → Bool) := by
    funext part
    rw [Function.comp_apply, Bool.not_inj_iff]
    rw [Bool.eq_iff_iff, List.isEmpty_iff, List.isEmpty_iff, Utf8.decodeLossy_eq_nil_iff]
  have hsplit := Utf8.splitOn_decodeLossy (b := 0x20) (by decide) (rawLine bytes)
  rw [words, rawWords, ← hempty, ← List.filter_map, ← hsplit]
  rfl

end Request

/-- The shape of a name a client gives, told from its bytes. -/
def TargetShape.ofBytes (raw : List UInt8) : TargetShape :=
  if raw.head? == some 0x2E then .dotLeading
  else if (raw.splitOn slash).any (· == dotDot) then .parentSegment
  else if raw.head? == some slash then .absolute
  else .relative

/-- A target is cut where its bytes are, and has the shape they have. -/
structure ReadsAs (raw : List UInt8) (target : String) : Prop where
  text : target.toList = Utf8.decodeLossy raw
  cuts : ∀ b : UInt8, b < 0x80 →
    target.toList.splitOn (Char.ofNat b.toNat) = (raw.splitOn b).map Utf8.decodeLossy
  parents : ∀ i : Nat, (target.toList.splitOn '/')[i]? = some ['.', '.'] ↔
    (raw.splitOn slash)[i]? = some dotDot
  firstDot : target.toList.head? = some '.' ↔ raw.head? = some 0x2E
  firstSlash : target.toList.head? = some '/' ↔ raw.head? = some slash
  shape : TargetShape.ofTarget target = TargetShape.ofBytes raw

theorem getElem?_splitOn_decodeLossy (raw : List UInt8) (i : Nat) :
    ((Utf8.decodeLossy raw).splitOn '/')[i]? = some ['.', '.'] ↔
      (raw.splitOn slash)[i]? = some dotDot := by
  have hcut := Utf8.splitOn_decodeLossy (b := slash) (by decide) raw
  have hparent : ∀ segment, Utf8.decodeLossy segment = ['.', '.'] ↔ segment = dotDot :=
    fun segment => Utf8.decodeLossy_eq_iff (by decide)
  rw [show '/' = Char.ofNat slash.toNat from rfl, hcut, List.getElem?_map, Option.map_eq_some_iff]
  simp only [hparent, exists_eq_right]

theorem any_splitOn_decodeLossy (raw : List UInt8) :
    ((Utf8.decodeLossy raw).splitOn '/').any (· == ['.', '.']) =
      (raw.splitOn slash).any (· == dotDot) := by
  rw [Bool.eq_iff_iff, List.any_beq', List.any_beq', List.contains_iff_mem, List.contains_iff_mem,
    List.mem_iff_getElem?, List.mem_iff_getElem?]
  exact exists_congr (getElem?_splitOn_decodeLossy raw)

theorem readsAs_toStringLossy (raw : List UInt8) : ReadsAs raw (Utf8.toStringLossy raw) := by
  have htext : (Utf8.toStringLossy raw).toList = Utf8.decodeLossy raw := String.toList_ofList
  have hdot : (Utf8.decodeLossy raw).head? = some '.' ↔ raw.head? = some 0x2E :=
    Utf8.head?_decodeLossy (b := 0x2E) (by decide)
  have hslash : (Utf8.decodeLossy raw).head? = some '/' ↔ raw.head? = some slash :=
    Utf8.head?_decodeLossy (b := slash) (by decide)
  refine ⟨htext, fun b hb => ?_, fun i => ?_, ?_, ?_, ?_⟩
  · rw [htext, Utf8.splitOn_decodeLossy hb]
  · rw [htext, getElem?_splitOn_decodeLossy]
  · rw [htext, hdot]
  · rw [htext, hslash]
  · simp only [TargetShape.ofTarget, TargetShape.ofBytes, TargetShape.hasParentSegment, htext,
      any_splitOn_decodeLossy, beq_iff_eq, hdot, hslash]

-- A slash in two bytes where one is enough is no slash, so what follows is no segment.
example : TargetShape.ofTarget (Utf8.toStringLossy [0x61, 0xC0, 0xAF, 0x2E, 0x2E]) = .relative := by
  decide +kernel

namespace Request

/-- Decoding reads what is well formed and replaces the rest part by part, and no byte
sequence makes a byte below `0x80` appear or disappear. So the spaces, the words and
the shape of the argument are those of the received bytes. -/
theorem decoding_keeps_cuts (bytes : List UInt8) :
    (∀ text, Utf8.Replaced bytes text ↔ text = Utf8.decodeLossy bytes) ∧
      (Utf8.encode (Utf8.decodeLossy bytes) = bytes ↔ bytes.toByteArray.IsValidUTF8) ∧
      ((Utf8.decodeLossy bytes).filter Utf8.isAscii =
        (bytes.filter (· < 0x80)).map fun b => Char.ofNat b.toNat) ∧
      (parse (Conversation.lineOf bytes)).spaces = (rawLine bytes).count 0x20 ∧
      (parse (Conversation.lineOf bytes)).verb =
        Verb.ofWord (Utf8.toStringLossy ((rawWords bytes).head?.getD [])) ∧
      Option.Rel ReadsAs (rawWords bytes)[1]? (parse (Conversation.lineOf bytes)).argument := by
  have hwords : words (Conversation.lineOf bytes).toList =
      (rawWords bytes).map Utf8.decodeLossy := by
    rw [toList_lineOf, words_decodeLossy]
  refine ⟨fun text => Utf8.replaced_iff, Utf8.encode_decodeLossy_iff,
    Utf8.filter_decodeLossy bytes, ?_, ?_, ?_⟩
  · simp only [parse, toList_lineOf]
    exact Utf8.count_decodeLossy (b := 0x20) (by decide) (rawLine bytes)
  · simp only [parse, hwords, List.head?_map]
    cases (rawWords bytes).head? with
    | none => rw [Option.map_none, Option.getD_none, Option.getD_none, Utf8.toStringLossy,
        Utf8.decodeLossy]
    | some word => rfl
  · simp only [parse, hwords, List.getElem?_map]
    cases (rawWords bytes)[1]? with
    | none => exact .none
    | some raw => exact .some (readsAs_toStringLossy raw)

end Request

end PassiveFtp
