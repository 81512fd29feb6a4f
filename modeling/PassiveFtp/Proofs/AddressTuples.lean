import Mathlib
import PassiveFtp.Proofs.Decimals
import PassiveFtp.Proofs.Separators
import PassiveFtp.Transfer.Passive

/-!
# The address in a passive reply

A reply is read in three steps: what the first parentheses enclose is cut out,
that is cut at its commas, and each part is read as a number. Each step is an
equivalence here, and put together they say which lines carry an address and
which address that is. The line the server sends is one of them, and so is any
other text around the same six numbers, as long as its first parenthesis is
theirs.

A reader that works on the bytes of a line finds the parentheses by their
offsets. An offset that is past the end or inside a character would be a fault,
so `cutOut?` is that reader with its faults; it has none and cuts out the same
text (`cutOut?_eq`).
-/

namespace PassiveFtp

/-! ## Offsets in bytes -/

namespace Text

/-- The number of bytes of a text in UTF-8. -/
def byteSize (text : List Char) : Nat :=
  (text.map Char.utf8Size).sum

/-- The offset in bytes at which a character first stands. -/
def offset? (c : Char) : List Char → Option Nat
  | [] => none
  | d :: rest => if d = c then some 0 else (offset? c rest).map (d.utf8Size + ·)

/-- The text up to an offset in bytes and the text from there on, if the offset is
in the text and not inside a character. -/
def splitAtByte? : List Char → Nat → Option (List Char × List Char)
  | text, 0 => some ([], text)
  | [], _ + 1 => none
  | c :: rest, n + 1 =>
    if c.utf8Size ≤ n + 1 then
      (splitAtByte? rest (n + 1 - c.utf8Size)).map fun (front, back) => (c :: front, back)
    else none

/-- The text between two offsets in bytes, if there is one. -/
def slice? (text : List Char) (first last : Nat) : Option (List Char) :=
  if first ≤ last then do
    let (front, _) ← splitAtByte? text last
    let (_, slice) ← splitAtByte? front first
    return slice
  else none

theorem byteSize_append (s t : List Char) : byteSize (s ++ t) = byteSize s + byteSize t := by
  simp [byteSize]

theorem splitAtByte?_append (front back : List Char) :
    splitAtByte? (front ++ back) (byteSize front) = some (front, back) := by
  induction front with
  | nil => cases back <;> rfl
  | cons c rest ih =>
      have hpos := c.utf8Size_pos
      obtain ⟨n, hn⟩ : ∃ n, byteSize (c :: rest) = n + 1 :=
        ⟨byteSize (c :: rest) - 1, by simp [byteSize]; omega⟩
      have hrest : n + 1 - c.utf8Size = byteSize rest := by
        rw [← hn, byteSize, List.map_cons, List.sum_cons]
        exact Nat.add_sub_cancel_left _ _
      have hle : c.utf8Size ≤ n + 1 := by
        rw [← hn, byteSize, List.map_cons, List.sum_cons]
        omega
      rw [hn, List.cons_append, splitAtByte?, if_pos hle, hrest, ih]
      rfl

theorem slice?_append (before slice after : List Char) :
    slice? (before ++ (slice ++ after)) (byteSize before) (byteSize before + byteSize slice) =
      some slice := by
  rw [slice?, if_pos (Nat.le_add_right _ _), ← List.append_assoc, ← byteSize_append,
    splitAtByte?_append]
  simp only [Option.bind_eq_bind, Option.bind_some, splitAtByte?_append]
  rfl

theorem offset?_append_cons {c : Char} {before : List Char} (h : c ∉ before)
    (after : List Char) : offset? c (before ++ c :: after) = some (byteSize before) := by
  induction before with
  | nil => exact if_pos rfl
  | cons d rest ih =>
      rw [List.mem_cons, not_or] at h
      rw [List.cons_append, offset?, if_neg fun hd => h.1 hd.symm, ih h.2]
      rfl

theorem offset?_of_not_mem {c : Char} {text : List Char} (h : c ∉ text) :
    offset? c text = none := by
  induction text with
  | nil => rfl
  | cons d rest ih =>
      rw [List.mem_cons, not_or] at h
      rw [offset?, if_neg fun hd => h.1 hd.symm, ih h.2]
      rfl

end Text

namespace DataAddress

/-- A line encloses a text, if that is what stands between its first opening
parenthesis and the first closing one after it. -/
def Encloses (line body : List Char) : Prop :=
  ∃ before after, line = before ++ '(' :: (body ++ ')' :: after) ∧ '(' ∉ before ∧ ')' ∉ body

/-- What the first parentheses of a line enclose, found by offsets in bytes. The
outer none is a fault: an offset at which the line cannot be cut. -/
def cutOut? (line : List Char) : Option (Option (List Char)) :=
  match Text.offset? '(' line with
  | none => some none
  | some start => do
    let (_, rest) ← Text.splitAtByte? line start
    match Text.offset? ')' rest with
    | none => return none
    | some length =>
      let body ← Text.slice? line (start + 1) (length + start)
      return some body

/-! ## The first parentheses -/

theorem parenthesized?_of_not_mem {line : List Char} (h : '(' ∉ line) :
    parenthesized? line = none := by
  have hdrop : line.dropWhile (· != '(') = [] :=
    List.dropWhile_eq_nil_iff.mpr fun c hc => by
      rw [bne_iff_ne]
      rintro rfl
      exact h hc
  rw [parenthesized?, hdrop]

theorem dropWhile_append_paren {before : List Char} (h : '(' ∉ before) (rest : List Char) :
    (before ++ '(' :: rest).dropWhile (· != '(') = '(' :: rest := by
  rw [List.dropWhile_append_of_pos fun c hc => by
    rw [bne_iff_ne]
    rintro rfl
    exact h hc]
  rfl

theorem parenthesized?_of_open {before rest : List Char} (hbefore : '(' ∉ before)
    (hrest : ')' ∉ rest) : parenthesized? (before ++ '(' :: rest) = none := by
  rw [parenthesized?, dropWhile_append_paren hbefore]
  exact if_neg (by simpa using hrest)

theorem parenthesized?_of_encloses {line body : List Char} (h : Encloses line body) :
    parenthesized? line = some body := by
  obtain ⟨before, after, rfl, hbefore, hbody⟩ := h
  have htake : (body ++ ')' :: after).takeWhile (· != ')') = body := by
    rw [List.takeWhile_append_of_pos fun c hc => by
      rw [bne_iff_ne]
      rintro rfl
      exact hbody hc]
    exact List.append_nil body
  rw [parenthesized?, dropWhile_append_paren hbefore]
  simp only [htake]
  exact if_pos (by simp)

/-- A line has no opening parenthesis, or no closing one after the first of them,
or encloses something. -/
theorem encloses_cases (line : List Char) :
    '(' ∉ line ∨ (∃ before rest, line = before ++ '(' :: rest ∧ '(' ∉ before ∧ ')' ∉ rest) ∨
      ∃ body, Encloses line body := by
  by_cases hopen : '(' ∈ line
  · obtain ⟨before, rest, rfl, hbefore⟩ := List.eq_append_cons_of_mem hopen
    by_cases hclose : ')' ∈ rest
    · obtain ⟨body, after, rfl, hbody⟩ := List.eq_append_cons_of_mem hclose
      exact .inr (.inr ⟨body, before, after, rfl, hbefore, hbody⟩)
    · exact .inr (.inl ⟨before, rest, rfl, hbefore, hclose⟩)
  · exact .inl hopen

theorem parenthesized?_eq_some_iff {line body : List Char} :
    parenthesized? line = some body ↔ Encloses line body := by
  constructor
  · intro h
    rcases encloses_cases line with hnone | ⟨before, rest, rfl, hbefore, hrest⟩ | ⟨body', henc⟩
    · rw [parenthesized?_of_not_mem hnone] at h
      cases h
    · rw [parenthesized?_of_open hbefore hrest] at h
      cases h
    · rw [parenthesized?_of_encloses henc] at h
      cases h
      exact henc
  · exact parenthesized?_of_encloses

/-- Offsets in bytes never miss, and cut out what is in the parentheses. -/
theorem cutOut?_eq (line : List Char) : cutOut? line = some (parenthesized? line) := by
  rcases encloses_cases line with hnone | ⟨before, rest, rfl, hbefore, hrest⟩ | ⟨body, henc⟩
  · rw [cutOut?, Text.offset?_of_not_mem hnone, parenthesized?_of_not_mem hnone]
  · have hclose : ')' ∉ '(' :: rest := by simpa using hrest
    rw [cutOut?, Text.offset?_append_cons hbefore, parenthesized?_of_open hbefore hrest]
    simp only [Text.splitAtByte?_append, Option.bind_eq_bind, Option.bind_some,
      Text.offset?_of_not_mem hclose]
    rfl
  · rw [parenthesized?_of_encloses henc]
    obtain ⟨before, after, rfl, hbefore, hbody⟩ := henc
    have hopen : ')' ∉ '(' :: body := by simpa using hbody
    have hsize : Text.byteSize ('(' :: body) + Text.byteSize before =
        Text.byteSize (before ++ ['(']) + Text.byteSize body := by
      simp only [Text.byteSize, List.map_append, List.map_cons, List.sum_append, List.sum_cons,
        List.map_nil, List.sum_nil]
      omega
    have hstart : Text.byteSize before + 1 = Text.byteSize (before ++ ['(']) :=
      (Text.byteSize_append before ['(']).symm
    have hslice := Text.slice?_append (before ++ ['(']) body (')' :: after)
    rw [List.append_assoc, List.singleton_append] at hslice
    rw [cutOut?, Text.offset?_append_cons hbefore]
    simp only [Text.splitAtByte?_append, Option.bind_eq_bind, Option.bind_some]
    rw [← List.cons_append, Text.offset?_append_cons hopen]
    simp only [hsize, hstart, List.cons_append, hslice]
    rfl

/-! ## The numbers -/

theorem numbers_le (address : DataAddress) : ∀ n ∈ address.numbers, n ≤ 255 := by
  have hport : address.port.toNat < 65536 := address.port.toNat_lt
  have hoctet : ∀ octet : UInt8, octet.toNat ≤ 255 := fun octet => Nat.le_of_lt_succ octet.toNat_lt
  simp only [numbers, Ipv4.octets, List.map_cons, List.map_nil, List.cons_append, List.nil_append,
    List.forall_mem_cons, List.not_mem_nil, IsEmpty.forall_iff, implies_true, and_true]
  exact ⟨hoctet _, hoctet _, hoctet _, hoctet _, by omega, by omega⟩

theorem ofNumbers?_numbers (address : DataAddress) : ofNumbers? address.numbers = some address := by
  obtain ⟨⟨a, b, c, d⟩, port⟩ := address
  simp only [numbers, Ipv4.octets, List.map_cons, List.map_nil, List.cons_append, List.nil_append,
    ofNumbers?, UInt8.ofNat_toNat, Nat.div_add_mod', UInt16.ofNat_toNat]

/-- Numbers that are octets make an address with these numbers: the port holds both
of its octets. -/
theorem numbers_of_ofNumbers? {found : List Nat} {address : DataAddress}
    (hfound : ∀ n ∈ found, n ≤ 255) (h : ofNumbers? found = some address) :
    address.numbers = found := by
  simp only [ofNumbers?] at h
  split at h
  · next a b c d high low =>
      cases h
      simp only [List.forall_mem_cons, List.not_mem_nil, IsEmpty.forall_iff, implies_true,
        and_true] at hfound
      obtain ⟨ha, hb, hc, hd, hhigh, hlow⟩ := hfound
      have hoctet : ∀ {n : Nat}, n ≤ 255 → (UInt8.ofNat n).toNat = n := fun hn =>
        UInt8.toNat_ofNat_of_lt' (Nat.lt_succ_of_le hn)
      have hport : (UInt16.ofNat (high * 256 + low)).toNat = high * 256 + low :=
        UInt16.toNat_ofNat_of_lt' (by show _ < 65536; omega)
      simp only [numbers, Ipv4.octets, List.map_cons, List.map_nil, List.cons_append,
        List.nil_append, hoctet ha, hoctet hb, hoctet hc, hoctet hd, hport, List.cons.injEq,
        true_and, and_true]
      omega
  · cases h

theorem readNumbers?_eq_some_iff {body : List Char} {found : List Nat} :
    readNumbers? body = some found ↔
      List.Forall₂ Decimal.Spells (body.splitOn ',') found ∧ ∀ n ∈ found, n ≤ 255 := by
  rw [readNumbers?]
  generalize body.splitOn ',' = parts
  induction parts generalizing found with
  | nil =>
      rw [List.mapM_nil, Option.pure_def, Option.some.injEq, List.forall₂_nil_left_iff]
      constructor
      · rintro rfl
        exact ⟨rfl, fun _ hn => absurd hn List.not_mem_nil⟩
      · exact fun h => h.1.symm
  | cons part rest ih =>
      simp only [List.mapM_cons, Option.bind_eq_bind, Option.bind_eq_some_iff, Option.pure_def,
        Option.some.injEq, ih, Decimal.read?_trim_eq_some_iff, List.forall₂_cons_left_iff]
      constructor
      · rintro ⟨n, ⟨hpart, hn⟩, more, ⟨hrest, hmore⟩, rfl⟩
        exact ⟨⟨n, more, hpart, hrest, rfl⟩, List.forall_mem_cons.mpr ⟨hn, hmore⟩⟩
      · rintro ⟨⟨n, more, hpart, hrest, rfl⟩, hall⟩
        obtain ⟨hn, hmore⟩ := List.forall_mem_cons.mp hall
        exact ⟨n, ⟨hpart, hn⟩, more, ⟨hrest, hmore⟩, rfl⟩

/-- A line carries an address if its first parentheses enclose the numbers of that
address. -/
theorem ofReply?_eq_some_iff {line : String} {address : DataAddress} :
    ofReply? line = some address ↔ ∃ body, Encloses line.toList body ∧
      List.Forall₂ Decimal.Spells (body.splitOn ',') address.numbers := by
  simp only [ofReply?, Option.bind_eq_bind, Option.bind_eq_some_iff, parenthesized?_eq_some_iff,
    readNumbers?_eq_some_iff]
  constructor
  · rintro ⟨body, henc, found, ⟨hfound, hle⟩, haddress⟩
    rw [numbers_of_ofNumbers? hle haddress]
    exact ⟨body, henc, hfound⟩
  · rintro ⟨body, henc, hfound⟩
    exact ⟨body, henc, address.numbers, ⟨hfound, numbers_le address⟩, ofNumbers?_numbers address⟩

/-- Six numbers that are octets are those of an address, and none of them is lost in
it. -/
theorem ofReply?_of_spelled {line : String} {body : List Char} {a b c d high low : Nat}
    (henc : Encloses line.toList body)
    (hparts : List.Forall₂ Decimal.Spells (body.splitOn ',') [a, b, c, d, high, low])
    (hle : ∀ n ∈ [a, b, c, d, high, low], n ≤ 255) :
    ∃ address, ofReply? line = some address ∧
      address.ip.octets.map UInt8.toNat = [a, b, c, d] ∧
      address.port.toNat = 256 * high + low := by
  obtain ⟨address, haddress⟩ : ∃ address, ofNumbers? [a, b, c, d, high, low] = some address :=
    ⟨_, rfl⟩
  have hnumbers := numbers_of_ofNumbers? hle haddress
  refine ⟨address, ofReply?_eq_some_iff.mpr ⟨body, henc, by rwa [hnumbers]⟩, ?_⟩
  have hsame : address.ip.octets.map UInt8.toNat ++
      [address.port.toNat / 256, address.port.toNat % 256] = [a, b, c, d] ++ [high, low] := hnumbers
  obtain ⟨hoctets, hport⟩ := List.append_inj hsame rfl
  simp only [List.cons.injEq, and_true] at hport
  exact ⟨hoctets, by omega⟩

theorem exists_spelled_iff {parts : List (List Char)} :
    (∃ found, List.Forall₂ Decimal.Spells parts found ∧ ∀ n ∈ found, n ≤ 255) ↔
      ∀ part ∈ parts, ∃ n ≤ 255, Decimal.Spells part n := by
  induction parts with
  | nil => simp
  | cons part rest ih =>
      rw [List.forall_mem_cons, ← ih]
      constructor
      · rintro ⟨_, ⟨⟩ | ⟨hpart, hrest⟩, hall⟩
        obtain ⟨hn, hmore⟩ := List.forall_mem_cons.mp hall
        exact ⟨⟨_, hn, hpart⟩, _, hrest, hmore⟩
      · rintro ⟨⟨n, hn, hpart⟩, more, hrest, hmore⟩
        exact ⟨n :: more, .cons hpart hrest, List.forall_mem_cons.mpr ⟨hn, hmore⟩⟩

theorem isSome_ofReply?_iff {line : String} :
    (ofReply? line).isSome = true ↔ ∃ body, Encloses line.toList body ∧
      (body.splitOn ',').length = 6 ∧
      ∀ part ∈ body.splitOn ',', ∃ n ≤ 255, Decimal.Spells part n := by
  constructor
  · intro h
    obtain ⟨address, haddress⟩ := Option.isSome_iff_exists.mp h
    obtain ⟨body, henc, hparts⟩ := ofReply?_eq_some_iff.mp haddress
    exact ⟨body, henc, hparts.length_eq, exists_spelled_iff.mp ⟨_, hparts, numbers_le address⟩⟩
  · rintro ⟨body, henc, hlength, hall⟩
    obtain ⟨found, hparts, hle⟩ := exists_spelled_iff.mpr hall
    rw [hparts.length_eq] at hlength
    match found, hlength with
    | [a, b, c, d, high, low], _ =>
      obtain ⟨address, haddress, -⟩ := ofReply?_of_spelled henc hparts hle
      rw [haddress]
      rfl

/-! ## What is written -/

/-- A tuple is commas and digits. -/
theorem isDigit_of_mem_tuple {address : DataAddress} {c : Char} (h : c ∈ address.tuple.toList)
    (hcomma : c ≠ ',') : c.isDigit = true := by
  rw [tuple, String.toList_ofList, mem_intercalate_iff hcomma] at h
  obtain ⟨part, hpart, hc⟩ := h
  obtain ⟨n, -, rfl⟩ := List.mem_map.mp hpart
  exact Decimal.isDigit_of_mem_digits hc

theorem splitOn_tuple (address : DataAddress) :
    address.tuple.toList.splitOn ',' = address.numbers.map Decimal.digits := by
  rw [tuple, String.toList_ofList]
  refine List.splitOn_intercalate ',' ?_ (by simp [numbers])
  intro part hpart
  obtain ⟨n, -, rfl⟩ := List.mem_map.mp hpart
  exact Decimal.not_mem_digits (by decide) n

/-- An address is read out of any text around its numbers that has no parenthesis
before them. -/
theorem ofReply?_around {before : List Char} (h : '(' ∉ before) (address : DataAddress)
    {line : String} {after : List Char}
    (hline : line.toList = before ++ '(' :: (address.tuple.toList ++ ')' :: after)) :
    ofReply? line = some address := by
  refine ofReply?_eq_some_iff.mpr ⟨address.tuple.toList,
    ⟨before, after, hline, h, fun hclose => ?_⟩, ?_⟩
  · exact absurd (isDigit_of_mem_tuple hclose (by decide)) (by decide)
  · rw [splitOn_tuple, List.forall₂_map_left_iff, List.forall₂_same]
    exact fun n _ => Decimal.spells_digits n

theorem ofReply?_reply (channel : PassiveChannel) :
    ofReply? channel.reply.encode = some channel.address := by
  have hline : channel.reply.encode.toList = "227 Entering Passive Mode ".toList ++
      '(' :: (channel.address.tuple.toList ++ ')' :: ['\r', '\n']) := by
    rw [PassiveChannel.reply, Reply.encode, String.toList_append, String.toList_append]
    rfl
  exact ofReply?_around (by decide) channel.address hline

/-- A client reads back the address of a passive reply, also out of another text
around it. It finds an address in exactly those lines whose first parentheses hold
six numbers up to 255, and then it is the one these numbers are the octets of.
Writing what was found and reading that changes nothing, and no line, whatever its
characters, is cut where it cannot be. -/
theorem ofReply?_reads_tuples :
    (∀ channel : PassiveChannel, ofReply? channel.reply.encode = some channel.address) ∧
    (∀ (address : DataAddress) (before after : String), '(' ∉ before.toList →
      ofReply? (before ++ "(" ++ address.tuple ++ ")" ++ after) = some address) ∧
    (∀ line : String, (ofReply? line).isSome = true ↔
      ∃ body, Encloses line.toList body ∧ (body.splitOn ',').length = 6 ∧
        ∀ part ∈ body.splitOn ',', ∃ n ≤ 255, Decimal.Spells part n) ∧
    (∀ (line : String) (body : List Char) (a b c d high low : Nat),
      Encloses line.toList body →
      List.Forall₂ Decimal.Spells (body.splitOn ',') [a, b, c, d, high, low] →
      (∀ n ∈ [a, b, c, d, high, low], n ≤ 255) →
      ∃ address, ofReply? line = some address ∧
        address.ip.octets.map UInt8.toNat = [a, b, c, d] ∧
        address.port.toNat = 256 * high + low) ∧
    (∀ line : String, ((ofReply? line).bind fun address =>
      ofReply? ("(" ++ address.tuple ++ ")")) = ofReply? line) ∧
    ∀ line : String, cutOut? line.toList = some (parenthesized? line.toList) := by
  have haround : ∀ (address : DataAddress) (before after : String), '(' ∉ before.toList →
      ofReply? (before ++ "(" ++ address.tuple ++ ")" ++ after) = some address := by
    intro address before after hbefore
    have hline : (before ++ "(" ++ address.tuple ++ ")" ++ after).toList =
        before.toList ++ '(' :: (address.tuple.toList ++ ')' :: after.toList) := by
      simp only [String.toList_append, List.append_assoc]
      rfl
    exact ofReply?_around hbefore address hline
  refine ⟨ofReply?_reply, haround, fun _ => isSome_ofReply?_iff,
    fun _ _ _ _ _ _ _ _ henc hparts hle => ofReply?_of_spelled henc hparts hle, fun line => ?_,
    fun line => cutOut?_eq line.toList⟩
  cases hfound : ofReply? line with
  | none => rfl
  | some address =>
      have hself := haround address "" "" (by simp)
      rw [String.empty_append, String.append_empty] at hself
      rw [Option.bind_some]
      exact hself

/-- A tuple after another closing parenthesis and a letter of two bytes, and one that
is padded, signed and written with zeros in front. -/
theorem ofReply?_reads_tuples_untidy :
    '(' ∉ "227 é)".toList ∧
    ofReply? ("227 é)" ++ "(" ++ tuple ⟨⟨192, 168, 1, 20⟩, 50000⟩ ++ ")" ++ "(") =
      some ⟨⟨192, 168, 1, 20⟩, 50000⟩ ∧
    Encloses ")é(+1, 002,3,4,195,80 ))".toList "+1, 002,3,4,195,80 ".toList ∧
    List.Forall₂ Decimal.Spells ("+1, 002,3,4,195,80 ".toList.splitOn ',') [1, 2, 3, 4, 195, 80] ∧
    (∀ n ∈ [1, 2, 3, 4, 195, 80], n ≤ 255) ∧
    ∃ address, ofReply? ")é(+1, 002,3,4,195,80 ))" = some address ∧
      address.ip.octets.map UInt8.toNat = [1, 2, 3, 4] ∧
      address.port.toNat = 256 * 195 + 80 := by
  obtain ⟨-, haround, -, hspelled, -⟩ := ofReply?_reads_tuples
  have henc : Encloses ")é(+1, 002,3,4,195,80 ))".toList "+1, 002,3,4,195,80 ".toList :=
    ⟨")é".toList, ")".toList, by decide, by decide, by decide⟩
  have hsplit : "+1, 002,3,4,195,80 ".toList.splitOn ',' = [['+', '1'],
      [' ', '0', '0', '2'], ['3'], ['4'], ['1', '9', '5'], ['8', '0', ' ']] := by decide
  have hparts : List.Forall₂ Decimal.Spells ("+1, 002,3,4,195,80 ".toList.splitOn ',')
      [1, 2, 3, 4, 195, 80] := by
    rw [hsplit]
    refine .cons ⟨['1'], .inr (by decide), by decide, by simp, by decide⟩
      (.cons ⟨['0', '0', '2'], .inl (by decide), by decide, by simp, by decide⟩
      (.cons ⟨['3'], .inl (by decide), by decide, by simp, by decide⟩
      (.cons ⟨['4'], .inl (by decide), by decide, by simp, by decide⟩
      (.cons ⟨['1', '9', '5'], .inl (by decide), by decide, by simp, by decide⟩
      (.cons ⟨['8', '0'], .inl (by decide), by decide, by simp, by decide⟩ .nil)))))
  have hle : ∀ n ∈ [1, 2, 3, 4, 195, 80], n ≤ 255 := by decide
  have hopen : '(' ∉ "227 é)".toList := by decide
  exact ⟨hopen, haround ⟨⟨192, 168, 1, 20⟩, 50000⟩ _ _ hopen, henc, hparts, hle,
    hspelled _ _ _ _ _ _ _ _ henc hparts hle⟩

end DataAddress

end PassiveFtp
