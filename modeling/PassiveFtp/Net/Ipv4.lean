import PassiveFtp.Text.Decimal

/-!
# IPv4 addresses

The dotted form is strict: four octets without leading zeros. A lenient reader
would let one address be written many ways, and settings that look different
would then mean the same interface.
-/

namespace PassiveFtp

/-- An IPv4 address, most significant octet first. -/
structure Ipv4 where
  a : UInt8
  b : UInt8
  c : UInt8
  d : UInt8
deriving DecidableEq, Repr

namespace Ipv4

/-- The four octets in order. -/
def octets (ip : Ipv4) : List UInt8 :=
  [ip.a, ip.b, ip.c, ip.d]

/-- The dotted form. -/
def print (ip : Ipv4) : String :=
  ".".intercalate (ip.octets.map fun octet => Decimal.print octet.toNat)

/-- Reads one octet: up to three digits, no leading zero, at most 255. -/
def readOctet? (text : List Char) : Option (UInt8 × List Char) :=
  let run := text.takeWhile Char.isDigit
  if run.length > 3 || (run.length > 1 && run.head? == some '0') then none
  else (Decimal.readDigits? 255 run).map fun n => (UInt8.ofNat n, text.drop run.length)

/-- Reads an octet with a dot before it. -/
def readDotted? : List Char → Option (UInt8 × List Char)
  | '.' :: rest => readOctet? rest
  | _ => none

/-- Reads an address at the front of a text and gives back what follows it. -/
def read? (text : List Char) : Option (Ipv4 × List Char) := do
  let (a, rest) ← readOctet? text
  let (b, rest) ← readDotted? rest
  let (c, rest) ← readDotted? rest
  let (d, rest) ← readDotted? rest
  return (⟨a, b, c, d⟩, rest)

/-- The address that a text as a whole spells. -/
def parse? (text : String) : Option Ipv4 :=
  match read? text.toList with
  | some (ip, []) => some ip
  | _ => none

end Ipv4

end PassiveFtp
