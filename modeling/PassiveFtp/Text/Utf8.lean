/-!
# UTF-8: encoding a text, and decoding bytes that need not be one

Control lines arrive as bytes and file names are bytes, so a text has to be
recovered from input nobody vouches for. Decoding is total: every maximal run
of bytes that starts a character and cannot finish it becomes one replacement
character, and a byte that starts nothing becomes one by itself. Bytes below
`0x80` are never part of such a run, which is what lets the rest of the server
look for spaces, slashes and line ends after decoding.
-/

namespace PassiveFtp.Utf8

/-- The bytes of a text. -/
def encode (text : List Char) : List UInt8 :=
  text.flatMap String.utf8EncodeChar

/-- The character that stands for an ill-formed run of bytes. -/
def replacement : Char := '\uFFFD'

/-- What a lead byte announces: the bits it carries, the range the second byte
has to lie in, and how many continuation bytes follow that one. -/
structure Lead where
  bits : Nat
  low : UInt8
  high : UInt8
  more : Nat

/-- The announcement of a byte from `0x80` on, or none if no character starts
with it. The ranges shut out overlong forms, surrogates and everything past
the last code point. -/
def lead? (b : UInt8) : Option Lead :=
  let n := b.toNat
  if b < 0xC2 then none
  else if b < 0xE0 then some ⟨n - 0xC0, 0x80, 0xBF, 0⟩
  else if b = 0xE0 then some ⟨n - 0xE0, 0xA0, 0xBF, 1⟩
  else if b = 0xED then some ⟨n - 0xE0, 0x80, 0x9F, 1⟩
  else if b < 0xF0 then some ⟨n - 0xE0, 0x80, 0xBF, 1⟩
  else if b = 0xF0 then some ⟨n - 0xF0, 0x90, 0xBF, 2⟩
  else if b < 0xF4 then some ⟨n - 0xF0, 0x80, 0xBF, 2⟩
  else if b = 0xF4 then some ⟨n - 0xF0, 0x80, 0x8F, 2⟩
  else none

/-- Whether a byte can continue a character. -/
def isContinuation (b : UInt8) : Bool :=
  0x80 ≤ b && b ≤ 0xBF

/-- The bytes of `rest` that belong to the character begun by `lead`, as far as
they are there. -/
def Lead.tail (lead : Lead) : List UInt8 → List UInt8
  | [] => []
  | b :: rest =>
    if lead.low ≤ b && b ≤ lead.high then b :: (rest.take lead.more).takeWhile isContinuation
    else []

/-- The character of a lead byte and its tail, the replacement character when
the tail is cut short. -/
def Lead.char (lead : Lead) (tail : List UInt8) : Char :=
  if tail.length = lead.more + 1 then
    Char.ofNat (tail.foldl (fun n b => n * 64 + b.toNat % 64) lead.bits)
  else replacement

/-- The text of a byte string, each maximal ill-formed part replaced. -/
def decodeLossy : List UInt8 → List Char
  | [] => []
  | b :: rest =>
    if b < 0x80 then Char.ofNat b.toNat :: decodeLossy rest
    else
      match lead? b with
      | none => replacement :: decodeLossy rest
      | some lead =>
        let tail := lead.tail rest
        lead.char tail :: decodeLossy (rest.drop tail.length)
termination_by bytes => bytes.length
decreasing_by
  all_goals simp only [List.length_cons, List.length_drop]
  all_goals omega

/-- The bytes of a string. -/
def ofString (text : String) : List UInt8 :=
  encode text.toList

/-- A byte string as text, ill-formed parts replaced. -/
def toStringLossy (bytes : List UInt8) : String :=
  String.ofList (decodeLossy bytes)

/-- Whether a byte string is the encoding of some text. -/
def IsText (bytes : List UInt8) : Prop :=
  encode (decodeLossy bytes) = bytes

instance (bytes : List UInt8) : Decidable (IsText bytes) :=
  inferInstanceAs (Decidable (_ = _))

theorem encode_append (s t : List Char) : encode (s ++ t) = encode s ++ encode t := by
  simp [encode]

theorem decodeLossy_ascii {b : UInt8} (rest : List UInt8) (h : b < 0x80) :
    decodeLossy (b :: rest) = Char.ofNat b.toNat :: decodeLossy rest := by
  rw [decodeLossy, if_pos h]

end PassiveFtp.Utf8
