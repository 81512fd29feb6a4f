import PassiveFtp.Net.Ipv4
import PassiveFtp.Text.Hex

/-!
# IPv6 addresses

Reading accepts the usual short forms: one run of zero groups may be left out,
and the last two groups may be spelled as an IPv4 address. Printing gives each
address its one recommended form: lower case, no leading zeros, the first of
the longest runs of zero groups left out.
-/

namespace PassiveFtp

/-- An IPv6 address as its eight groups, most significant first. -/
structure Ipv6 where
  groups : List UInt16
  length_groups : groups.length = 8
deriving DecidableEq, Repr

namespace Ipv6

/-- Reads one group: one to four hexadecimal digits. -/
def readGroup? (text : List Char) : Option (UInt16 × List Char) :=
  let run := text.takeWhile fun c => (Hex.value? c).isSome
  if run.isEmpty || run.length > 4 then none
  else
    let value := run.foldl (fun n c => n * 16 + (Hex.value? c).getD 0) 0
    some (UInt16.ofNat value, text.drop run.length)

/-- What follows the colon that has to stand before every group but the first. -/
def afterSeparator? (first : Bool) (text : List Char) : Option (List Char) :=
  match first, text with
  | true, _ => some text
  | false, ':' :: rest => some rest
  | false, _ => none

/-- Reads up to `limit` groups and says whether the last two came from a dotted
IPv4 address; reading stops before the first thing that is no group. -/
def readGroups (first : Bool) : Nat → List Char → List UInt16 × Bool × List Char
  | 0, text => ([], false, text)
  | limit + 1, text =>
    match afterSeparator? first text with
    | none => ([], false, text)
    | some body =>
      match if limit = 0 then none else Ipv4.read? body with
      | some (ip, rest) =>
        let pair (high low : UInt8) : UInt16 := UInt16.ofNat (high.toNat * 256 + low.toNat)
        ([pair ip.a ip.b, pair ip.c ip.d], true, rest)
      | none =>
        match readGroup? body with
        | none => ([], false, text)
        | some (group, rest) =>
          let (groups, dotted, rest) := readGroups false limit rest
          (group :: groups, dotted, rest)

/-- The address with the given groups, if there are eight. -/
def ofGroups? (groups : List UInt16) : Option Ipv6 :=
  if h : groups.length = 8 then some ⟨groups, h⟩ else none

/-- Reads an address at the front of a text and gives back what follows it. -/
def read? (text : List Char) : Option (Ipv6 × List Char) :=
  let (front, dotted, rest) := readGroups true 8 text
  if front.length = 8 then (ofGroups? front).map (·, rest)
  else if dotted then none
  else
    match rest with
    | ':' :: ':' :: rest =>
      let (back, _, rest) := readGroups true (7 - front.length) rest
      let gap := List.replicate (8 - front.length - back.length) 0
      (ofGroups? (front ++ gap ++ back)).map (·, rest)
    | _ => none

/-- The address that a text as a whole spells. -/
def parse? (text : String) : Option Ipv6 :=
  match read? text.toList with
  | some (ip, []) => some ip
  | _ => none

/-- The length of the run of zero groups at the front. -/
def zeroRun (groups : List UInt16) : Nat :=
  (groups.takeWhile (· == 0)).length

/-- Where the first of the longest runs of zero groups begins, and its length. -/
def longestZeroRun (groups : List UInt16) : Nat × Nat :=
  (List.range groups.length).foldl (fun best start =>
    let length := zeroRun (groups.drop start)
    if best.2 < length then (start, length) else best) (0, 0)

/-- Groups joined by colons. -/
def printGroups (groups : List UInt16) : String :=
  ":".intercalate (groups.map fun group => String.ofList (Hex.digits group.toNat))

/-- The recommended form; an address that stands for an IPv4 address shows that
one dotted. -/
def print (ip : Ipv6) : String :=
  match ip.groups with
  | [0, 0, 0, 0, 0, 0xFFFF, high, low] =>
    let octet (n : Nat) : UInt8 := UInt8.ofNat n
    "::ffff:" ++ Ipv4.print ⟨octet (high.toNat / 256), octet (high.toNat % 256),
      octet (low.toNat / 256), octet (low.toNat % 256)⟩
  | groups =>
    let (start, length) := longestZeroRun groups
    if length > 1 then
      printGroups (groups.take start) ++ "::" ++ printGroups (groups.drop (start + length))
    else printGroups groups

end Ipv6

end PassiveFtp
