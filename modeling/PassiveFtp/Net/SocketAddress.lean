import PassiveFtp.Net.Ipv6

/-!
# Socket addresses

An address with a port, of either family. IPv6 addresses stand in brackets so
that the port's colon cannot be mistaken for one of theirs.
-/

namespace PassiveFtp

/-- An IP address of either family together with a port. -/
inductive SocketAddress where
  | v4 (ip : Ipv4) (port : UInt16)
  | v6 (ip : Ipv6) (scope : UInt32) (port : UInt16)
deriving DecidableEq, Repr

namespace SocketAddress

/-- Reads a run of digits of at most `bound`; zeros may lead. -/
def readNumber? (bound : Nat) (text : List Char) : Option (Nat × List Char) :=
  let run := text.takeWhile Char.isDigit
  (Decimal.readDigits? bound run).map (·, text.drop run.length)

/-- Reads a colon and a port that ends the text. -/
def readPort? : List Char → Option UInt16
  | ':' :: rest =>
    match readNumber? 65535 rest with
    | some (port, []) => some (UInt16.ofNat port)
    | _ => none
  | _ => none

/-- Reads the scope that may follow an IPv6 address, zero if there is none. -/
def readScope? : List Char → Option (UInt32 × List Char)
  | '%' :: rest => (readNumber? (Nat.pow 2 32 - 1) rest).map fun (n, rest) =>
      (UInt32.ofNat n, rest)
  | text => some (0, text)

/-- The socket address that a text spells. -/
def parse? (text : String) : Option SocketAddress :=
  match text.toList with
  | '[' :: body => do
    let (ip, rest) ← Ipv6.read? body
    let (scope, rest) ← readScope? rest
    match rest with
    | ']' :: rest => (readPort? rest).map (.v6 ip scope)
    | _ => none
  | body => do
    let (ip, rest) ← Ipv4.read? body
    (readPort? rest).map (.v4 ip)

/-- The text of a socket address. -/
def print : SocketAddress → String
  | .v4 ip port => ip.print ++ ":" ++ Decimal.print port.toNat
  | .v6 ip scope port =>
    let zone := if scope = 0 then "" else "%" ++ Decimal.print scope.toNat
    "[" ++ ip.print ++ zone ++ "]:" ++ Decimal.print port.toNat

/-- Whether a text is an IP address of either family, without a port. -/
def isIpAddress (text : String) : Bool :=
  (Ipv4.parse? text).isSome || (Ipv6.parse? text).isSome

end SocketAddress

end PassiveFtp
