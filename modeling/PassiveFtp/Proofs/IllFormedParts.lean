import Mathlib
import PassiveFtp.Proofs.Utf8RoundTrip

/-!
# What decoding replaces, and how much of it at a time

Bytes that are no text are read as far as they are one. Where no character
stands, some bytes have to go, and which ones is not a matter of taste: the
longest beginning that could have become a character, or a single byte if not
even that could. `IllFormed` says so with encoded characters only, and
`Replaced` is the text that comes of it.

A decoder does not try characters. It looks a lead byte up and takes what that
announces. Two things tie the one to the other: bytes announced in full are the
encoding of a character, and bytes announced in part can be completed to one.
-/

namespace PassiveFtp.Utf8

/-- Bytes that the encoding of some character begins with. -/
def BeginsChar (bytes : List UInt8) : Prop :=
  ∃ c : Char, bytes <+: String.utf8EncodeChar c

/-- The part at the front that is replaced: no character stands there, and no longer
beginning than this could have become one. -/
structure IllFormed (part rest : List UInt8) : Prop where
  ne_nil : part ≠ []
  unread : ∀ c : Char, ¬ String.utf8EncodeChar c <+: part ++ rest
  begins : part.length = 1 ∨ BeginsChar part
  longest : ∀ longer, longer <+: part ++ rest → BeginsChar longer → longer.length ≤ part.length

/-- The text of bytes when ill-formed parts are replaced. -/
inductive Replaced : List UInt8 → List Char → Prop
  | nil : Replaced [] []
  | character (c : Char) {rest : List UInt8} {text : List Char} :
      Replaced rest text → Replaced (String.utf8EncodeChar c ++ rest) (c :: text)
  | illFormed {part rest : List UInt8} {text : List Char} :
      IllFormed part rest → Replaced rest text → Replaced (part ++ rest) (replacement :: text)

variable {b second : UInt8} {lead : Lead} {more rest part : List UInt8}

/-! ## Lead bytes and encoded characters -/

/-- What a lead byte leaves of itself, and that its range is one of continuation bytes. -/
theorem lead?_layout (h : lead? b = some lead) :
    lead.low ≤ lead.high ∧ lead.high.toNat ≤ 0xBF ∧
      ((lead.more = 0 ∧ b.toNat = lead.bits + 0xC0) ∨
        (lead.more = 1 ∧ b.toNat = lead.bits + 0xE0) ∨
        (lead.more = 2 ∧ b.toNat = lead.bits + 0xF0)) := by
  simp only [lead?, UInt8.lt_iff_toNat_lt, ← UInt8.toNat_inj, UInt8.reduceToNat] at h
  split at h
  · cases h
  · repeat' split at h
    all_goals simp only [Option.some.injEq, reduceCtorEq] at h
    all_goals subst h
    all_goals dsimp only
    all_goals refine ⟨by decide, by decide, ?_⟩
    all_goals omega

theorem ofNat_eq_of_toNat {n : Nat} (h : n = b.toNat) : UInt8.ofNat n = b := by
  rw [h, UInt8.ofNat_toNat]

/-- Bytes announced in full are the encoding of the character they spell. -/
theorem Lead.Announces.utf8EncodeChar_eq (h : lead.Announces second more)
    (hlead : lead? b = some lead) :
    String.utf8EncodeChar (Char.ofNat (lead.value (second :: more))) = b :: second :: more := by
  obtain ⟨hsecond, hcases⟩ := lead?_bounds hlead h.low h.high
  obtain ⟨-, hrange, hbyte⟩ := lead?_layout hlead
  have hhigh := UInt8.le_iff_toNat_le.mp h.high
  have hlength := h.length
  have hmore : ∀ next ∈ more, 0x80 ≤ next.toNat ∧ next.toNat ≤ 0xBF := fun next hnext =>
    isContinuation_iff.mp (h.continuation next hnext)
  rw [Lead.value, List.foldl_cons]
  generalize hn : lead.bits * 64 + second.toNat % 64 = n at hcases ⊢
  obtain ⟨hzero, hlow, hlt⟩ | ⟨hone, hlow, hlt, hgap⟩ | ⟨htwo, hlow, hlt⟩ := hcases
  · obtain rfl := List.length_eq_zero_iff.mp (hlength.trans hzero)
    have hval : (Char.ofNat n).val.toNat = n := toNat_ofNat_of_valid (.inl (by omega))
    simp only [List.foldl_nil, String.utf8EncodeChar, hval]
    rw [if_neg (by omega), if_pos (by omega), ofNat_eq_of_toNat (b := b) (by omega),
      ofNat_eq_of_toNat (b := second) (by omega)]
  · obtain ⟨third, rfl⟩ := List.length_eq_one_iff.mp (hlength.trans hone)
    have hthird := hmore third List.mem_cons_self
    have hval : (Char.ofNat (n * 64 + third.toNat % 64)).val.toNat = n * 64 + third.toNat % 64 :=
      toNat_ofNat_of_valid (by
        rcases hgap with hgap | hgap
        · exact .inl (by omega)
        · exact .inr ⟨by omega, by omega⟩)
    simp only [List.foldl_cons, List.foldl_nil, String.utf8EncodeChar, hval]
    rw [if_neg (by omega), if_neg (by omega), if_pos (by omega),
      ofNat_eq_of_toNat (b := b) (by omega), ofNat_eq_of_toNat (b := second) (by omega),
      ofNat_eq_of_toNat (b := third) (by omega)]
  · obtain ⟨third, fourth, rfl⟩ := List.length_eq_two.mp (hlength.trans htwo)
    have hthird := hmore third List.mem_cons_self
    have hfourth := hmore fourth (List.mem_cons_of_mem _ List.mem_cons_self)
    have hval : (Char.ofNat ((n * 64 + third.toNat % 64) * 64 + fourth.toNat % 64)).val.toNat =
        (n * 64 + third.toNat % 64) * 64 + fourth.toNat % 64 :=
      toNat_ofNat_of_valid (.inr ⟨by omega, by omega⟩)
    simp only [List.foldl_cons, List.foldl_nil, String.utf8EncodeChar, hval]
    rw [if_neg (by omega), if_neg (by omega), if_neg (by omega),
      ofNat_eq_of_toNat (b := b) (by omega), ofNat_eq_of_toNat (b := second) (by omega),
      ofNat_eq_of_toNat (b := third) (by omega), ofNat_eq_of_toNat (b := fourth) (by omega)]

/-- A byte past `0x7F` that an encoding begins with is a lead byte. -/
theorem exists_lead_of_prefix {c : Char} {front : List UInt8} (hb : ¬ b < 0x80)
    (h : b :: front <+: String.utf8EncodeChar c) :
    ∃ lead second more, String.utf8EncodeChar c = b :: second :: more ∧
      lead? b = some lead ∧ lead.Announces second more := by
  by_cases hc : c.toNat < 0x80
  · rw [utf8EncodeChar_ascii hc, List.cons_prefix_cons] at h
    rw [h.1, ofNat_lt_iff (Nat.lt_trans hc (by decide))] at hb
    exact absurd hc hb
  · obtain ⟨b', lead, second, more, hbytes, hlead, hannounced, -⟩ := exists_lead hc
    rw [hbytes, List.cons_prefix_cons] at h
    rw [← h.1] at hbytes hlead
    exact ⟨lead, second, more, hbytes, hlead, hannounced⟩

/-! ## The tail of a lead byte -/

theorem Lead.length_tail_le (lead : Lead) (rest : List UInt8) :
    (lead.tail rest).length ≤ lead.more + 1 := by
  cases rest with
  | nil => exact Nat.zero_le _
  | cons first others =>
      simp only [Lead.tail]
      split
      · have htake := (List.takeWhile_sublist isContinuation (l := others.take lead.more)).length_le
        have hle := List.length_take_le lead.more others
        simp only [List.length_cons]
        omega
      · exact Nat.zero_le _

/-- A tail is all that is announced if it is long enough. -/
theorem Lead.announces_of_tail
    (h : lead.tail rest = second :: more) (hlength : more.length = lead.more) :
    lead.Announces second more := by
  obtain ⟨hlow, hhigh, hmore⟩ := Lead.tail_eq_cons h
  exact ⟨hlow, hhigh, hlength, hmore⟩

/-- A tail can be completed to all that is announced. -/
theorem exists_announces (hlead : lead? b = some lead) (rest : List UInt8) :
    ∃ second more, lead.Announces second more ∧ lead.tail rest <+: second :: more := by
  have hfill : ∀ count : Nat, ∀ next ∈ List.replicate count (0x80 : UInt8),
      isContinuation next = true := by
    intro count next hnext
    rw [List.eq_of_mem_replicate hnext]
    decide
  cases htail : lead.tail rest with
  | nil =>
      exact ⟨lead.low, List.replicate lead.more 0x80, ⟨UInt8.le_refl _, (lead?_layout hlead).1,
        List.length_replicate, hfill _⟩, List.nil_prefix⟩
  | cons second front =>
      obtain ⟨hlow, hhigh, hfront⟩ := Lead.tail_eq_cons htail
      have hle := lead.length_tail_le rest
      rw [htail, List.length_cons] at hle
      refine ⟨second, front ++ List.replicate (lead.more - front.length) 0x80,
        ⟨hlow, hhigh, ?_, ?_⟩, ?_⟩
      · rw [List.length_append, List.length_replicate]
        omega
      · exact List.forall_mem_append.mpr ⟨hfront, hfill _⟩
      · exact List.cons_prefix_cons.mpr ⟨rfl, List.prefix_append _ _⟩

theorem beginsChar_tail (hlead : lead? b = some lead) (rest : List UInt8) :
    BeginsChar (b :: lead.tail rest) := by
  obtain ⟨second, more, hannounced, hstart⟩ := exists_announces hlead rest
  refine ⟨Char.ofNat (lead.value (second :: more)), ?_⟩
  rw [hannounced.utf8EncodeChar_eq hlead]
  exact List.cons_prefix_cons.mpr ⟨rfl, hstart⟩

/-- What comes after a lead byte is in its tail as far as it is announced. -/
theorem Lead.Announces.prefix_tail {front : List UInt8} (h : lead.Announces second more)
    (hmore : front <+: second :: more) (hrest : front <+: rest) : front <+: lead.tail rest := by
  cases front with
  | nil => exact List.nil_prefix
  | cons first front =>
      obtain ⟨after, rfl⟩ := hrest
      obtain ⟨hfirst, hfront⟩ := List.cons_prefix_cons.mp hmore
      have hle : front.length ≤ lead.more := h.length ▸ hfront.length_le
      have hcontinuation : ∀ next ∈ front, isContinuation next = true := fun next hnext =>
        h.continuation next (hfront.subset hnext)
      rw [hfirst, List.cons_append, Lead.tail, if_pos (by simp [h.low, h.high]),
        List.cons_prefix_cons, List.take_append, List.take_of_length_le hle,
        List.takeWhile_append_of_pos hcontinuation]
      exact ⟨rfl, List.prefix_append _ _⟩

/-- No beginning of an encoding goes further than the tail of its lead byte. -/
theorem length_le_of_beginsChar (hlead : lead? b = some lead) {longer : List UInt8}
    (hstart : longer <+: b :: rest) (h : BeginsChar longer) :
    longer.length ≤ (lead.tail rest).length + 1 := by
  cases longer with
  | nil => exact Nat.zero_le _
  | cons first front =>
      obtain ⟨rfl, hrest⟩ := List.cons_prefix_cons.mp hstart
      obtain ⟨c, hc⟩ := h
      obtain ⟨lead', second, more, hbytes, hlead', hannounced⟩ :=
        exists_lead_of_prefix (not_lt_of_lead? hlead) hc
      obtain rfl : lead' = lead := Option.some.inj (hlead'.symm.trans hlead)
      rw [hbytes] at hc
      exact Nat.succ_le_succ
        (hannounced.prefix_tail (List.cons_prefix_cons.mp hc).2 hrest).length_le

/-! ## What is replaced -/

/-- A byte that no encoding begins with. -/
theorem illFormed_of_lead?_none (hb : ¬ b < 0x80) (hlead : lead? b = none) (rest : List UInt8) :
    IllFormed [b] rest := by
  have hnone : ∀ (c : Char) (front : List UInt8), ¬ b :: front <+: String.utf8EncodeChar c := by
    intro c front h
    obtain ⟨lead, -, -, -, hsome, -⟩ := exists_lead_of_prefix hb h
    rw [hlead] at hsome
    cases hsome
  refine ⟨List.cons_ne_nil _ _, fun c h => ?_, .inl rfl, fun longer hstart hbegins => ?_⟩
  · obtain ⟨first, front, hbytes⟩ := List.exists_cons_of_ne_nil
      (String.utf8EncodeChar_ne_nil (c := c))
    rw [hbytes, List.singleton_append, List.cons_prefix_cons] at h
    exact hnone c front (by rw [hbytes, h.1])
  · cases longer with
    | nil => exact Nat.zero_le _
    | cons first front =>
        obtain ⟨c, hc⟩ := hbegins
        rw [(List.cons_prefix_cons.mp hstart).1] at hc
        exact absurd hc (hnone c front)

/-- A lead byte and its tail, if the tail falls short of what is announced. -/
theorem illFormed_of_short (hlead : lead? b = some lead)
    (hshort : (lead.tail rest).length ≠ lead.more + 1) :
    IllFormed (b :: lead.tail rest) (rest.drop (lead.tail rest).length) := by
  have hrest : lead.tail rest ++ rest.drop (lead.tail rest).length = rest :=
    List.prefix_iff_eq_append.mp (lead.tail_prefix rest)
  have hbound := lead.length_tail_le rest
  refine ⟨List.cons_ne_nil _ _, fun c h => ?_, .inr (beginsChar_tail hlead rest),
    fun longer hstart hbegins => ?_⟩
  · rw [List.cons_append, hrest] at h
    have hle := length_le_of_beginsChar hlead h ⟨c, List.prefix_refl _⟩
    obtain ⟨first, front, hbytes⟩ := List.exists_cons_of_ne_nil
      (String.utf8EncodeChar_ne_nil (c := c))
    obtain rfl : first = b := by
      rw [hbytes] at h
      exact (List.cons_prefix_cons.mp h).1
    have hself : first :: front <+: String.utf8EncodeChar c := by rw [hbytes]
    obtain ⟨lead', second, more, hfull, hlead', hannounced⟩ :=
      exists_lead_of_prefix (not_lt_of_lead? hlead) hself
    obtain rfl : lead' = lead := Option.some.inj (hlead'.symm.trans hlead)
    rw [hfull, List.length_cons, List.length_cons, hannounced.length] at hle
    omega
  · rw [List.cons_append, hrest] at hstart
    exact length_le_of_beginsChar hlead hstart hbegins

/-- There is only one part that can be replaced. -/
theorem IllFormed.unique {part' rest' : List UInt8} (h : IllFormed part rest)
    (h' : IllFormed part' rest') (hsame : part ++ rest = part' ++ rest') :
    part = part' ∧ rest = rest' := by
  have hle : ∀ {p r q s : List UInt8}, IllFormed p r → IllFormed q s → p ++ r = q ++ s →
      p.length ≤ q.length := by
    intro p r q s hp hq heq
    rcases hp.begins with hone | hbegins
    · rw [hone]
      exact List.length_pos_iff.mpr hq.ne_nil
    · exact hq.longest p (heq ▸ List.prefix_append p r) hbegins
  exact List.append_inj hsame (Nat.le_antisymm (hle h h' hsame) (hle h' h hsame.symm))

/-- What decoding takes off the front is a character or the part to replace. -/
theorem decodeLossy_front (b : UInt8) (rest : List UInt8) :
    (∃ c left, b :: rest = String.utf8EncodeChar c ++ left ∧
      decodeLossy (b :: rest) = c :: decodeLossy left) ∨
    ∃ part left, b :: rest = part ++ left ∧ IllFormed part left ∧
      decodeLossy (b :: rest) = replacement :: decodeLossy left := by
  by_cases hb : b < 0x80
  · refine .inl ⟨Char.ofNat b.toNat, rest, ?_, decodeLossy_ascii rest hb⟩
    rw [utf8EncodeChar_ofNat_byte hb, List.singleton_append]
  · cases hlead : lead? b with
    | none =>
        refine .inr ⟨[b], rest, rfl, illFormed_of_lead?_none hb hlead rest, ?_⟩
        rw [decodeLossy, if_neg hb, hlead]
    | some lead =>
        have hrest : rest = lead.tail rest ++ rest.drop (lead.tail rest).length :=
          (List.prefix_iff_eq_append.mp (lead.tail_prefix rest)).symm
        have hdecode : decodeLossy (b :: rest) =
            lead.char (lead.tail rest) :: decodeLossy (rest.drop (lead.tail rest).length) := by
          rw [decodeLossy, if_neg hb, hlead]
        by_cases hlength : (lead.tail rest).length = lead.more + 1
        · obtain ⟨second, more, htail⟩ := List.exists_cons_of_length_eq_add_one hlength
          have hannounced := Lead.announces_of_tail htail
            (by rw [htail, List.length_cons] at hlength; omega)
          refine .inl ⟨lead.char (lead.tail rest), _, ?_, hdecode⟩
          rw [htail, hannounced.char_eq, hannounced.utf8EncodeChar_eq hlead, List.cons_append,
            ← htail, ← hrest]
        · refine .inr ⟨_, _, ?_, illFormed_of_short hlead hlength, ?_⟩
          · rw [List.cons_append, ← hrest]
          · rw [hdecode, Lead.char, if_neg hlength]

theorem replaced_decodeLossy (bytes : List UInt8) : Replaced bytes (decodeLossy bytes) := by
  -- What is taken off the front has a length of its own, so the induction is on that.
  induction hn : bytes.length using Nat.strong_induction_on generalizing bytes with
  | _ n ih =>
      cases bytes with
      | nil =>
          rw [decodeLossy]
          exact .nil
      | cons b rest =>
          obtain ⟨c, left, hbytes, hdecode⟩ | ⟨part, left, hbytes, hpart, hdecode⟩ :=
            decodeLossy_front b rest
          · have hpos := List.length_pos_iff.mpr (String.utf8EncodeChar_ne_nil (c := c))
            have hlength := congrArg List.length hbytes
            rw [List.length_append] at hlength
            rw [hdecode, hbytes]
            exact .character c (ih left.length (by omega) left rfl)
          · have hpos := List.length_pos_iff.mpr hpart.ne_nil
            have hlength := congrArg List.length hbytes
            rw [List.length_append] at hlength
            rw [hdecode, hbytes]
            exact .illFormed hpart (ih left.length (by omega) left rfl)

/-- Decoding reads characters where they stand and replaces ill-formed parts, each as
a whole. -/
theorem replaced_iff {bytes : List UInt8} {text : List Char} :
    Replaced bytes text ↔ text = decodeLossy bytes := by
  constructor
  · intro h
    induction h with
    | nil => rw [decodeLossy]
    | character c _ ih => rw [decodeLossy_utf8EncodeChar, ih]
    | @illFormed part rest text hpart _ ih =>
        obtain ⟨first, front, hbytes⟩ := List.exists_cons_of_ne_nil
          (List.append_ne_nil_of_left_ne_nil hpart.ne_nil rest)
        obtain ⟨c, left, hchar, -⟩ | ⟨part', left, hbytes', hpart', hdecode⟩ :=
          decodeLossy_front first front
        · exact absurd ⟨left, hchar.symm.trans hbytes.symm⟩ (hpart.unread c)
        · obtain ⟨-, rfl⟩ := hpart.unique hpart' (hbytes.trans hbytes')
          rw [hbytes, hdecode, ih]
  · intro h
    rw [h]
    exact replaced_decodeLossy bytes

end PassiveFtp.Utf8
