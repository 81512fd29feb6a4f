/-!
# Hexadecimal digits

Letters of either case are digits, and an escape that names a character by its
number has a fixed count of them.
-/

namespace PassiveFtp.Hex

/-- The lower-case hexadecimal digits of a number, without leading zeros. -/
def digits (n : Nat) : List Char :=
  Nat.toDigits 16 n

/-- The value of a digit. -/
def value? (c : Char) : Option Nat :=
  if c.isDigit then some (c.toNat - '0'.toNat)
  else if 'a' ≤ c && c ≤ 'f' then some (c.toNat - 'a'.toNat + 10)
  else if 'A' ≤ c && c ≤ 'F' then some (c.toNat - 'A'.toNat + 10)
  else none

/-- The number that the first `count` characters spell after the digits of `n`,
and the characters that follow. -/
def readFrom? (n : Nat) : Nat → List Char → Option (Nat × List Char)
  | 0, rest => some (n, rest)
  | count + 1, c :: rest =>
    match value? c with
    | some d => readFrom? (n * 16 + d) count rest
    | none => none
  | _ + 1, [] => none

/-- The number that the first `count` characters spell, and the characters that
follow. -/
def read? (count : Nat) (text : List Char) : Option (Nat × List Char) :=
  readFrom? 0 count text

end PassiveFtp.Hex
