import PassiveFtp.Net.Ipv4
import PassiveFtp.Text.Blank

/-!
# Data addresses and their six-number form

A passive reply names the place to connect to as six numbers, four for the
address and two for the port. The server prints that form; a client reads it
back out of the reply, and is expected to be lenient about what surrounds the
parentheses and about padding inside them.
-/

namespace PassiveFtp

/-- Where a data connection is made: an IPv4 address and a port. -/
structure DataAddress where
  ip : Ipv4
  port : UInt16
deriving DecidableEq, Repr

namespace DataAddress

/-- The six numbers of an address, the port as its high and low octet. -/
def numbers (address : DataAddress) : List Nat :=
  address.ip.octets.map UInt8.toNat ++ [address.port.toNat / 256, address.port.toNat % 256]

/-- The six numbers with commas between them. -/
def tuple (address : DataAddress) : String :=
  String.ofList ([','].intercalate (address.numbers.map Decimal.digits))

/-- An address with a colon before the port. -/
def print (address : DataAddress) : String :=
  address.ip.print ++ ":" ++ Decimal.print address.port.toNat

/-- The address that six numbers name; each is at most 255. -/
def ofNumbers? : List Nat → Option DataAddress
  | [a, b, c, d, high, low] =>
    some ⟨⟨UInt8.ofNat a, UInt8.ofNat b, UInt8.ofNat c, UInt8.ofNat d⟩,
      UInt16.ofNat (high * 256 + low)⟩
  | _ => none

/-- What stands between the first opening parenthesis and the first closing one
after it. -/
def parenthesized? (line : List Char) : Option (List Char) :=
  match line.dropWhile (· != '(') with
  | [] => none
  | _ :: rest =>
    if rest.contains ')' then some (rest.takeWhile (· != ')')) else none

/-- Reads the comma-separated numbers of a tuple; white space around a number
and a plus sign before it do not matter. -/
def readNumbers? (body : List Char) : Option (List Nat) :=
  (body.splitOn ',').mapM fun part => Decimal.read? 255 (Text.trim part)

/-- The address that a reply line carries in its parentheses. -/
def ofReply? (line : String) : Option DataAddress := do
  let body ← parenthesized? line.toList
  let numbers ← readNumbers? body
  ofNumbers? numbers

end DataAddress

end PassiveFtp
