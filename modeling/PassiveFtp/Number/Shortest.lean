import PassiveFtp.Number.Binary64
import PassiveFtp.Text.Decimal

/-!
# The shortest decimal that reads back

Among the decimals that are rounded to a given number there are some with the
fewest digits, and of those one is nearest; that is the text of the number. For
every count of digits it is enough to look at the two neighbours of the number
on the grid with that many digits. The text is positional whatever the size of
the number, and a whole number has no point.
-/

namespace PassiveFtp.Binary64

/-- The decimals that read back as a number, in units of `2 ^ unit`: those
between `low` and `high` around `value`, the ends included for an even
mantissa. -/
structure Interval where
  low : Nat
  value : Nat
  high : Nat
  unit : Int
  closed : Bool

/-- The interval of a finite number; below a power of two the next number is
only half as far away. -/
def interval (mantissa : Nat) (exponent : Int) : Interval :=
  let near := mantissa = Nat.pow 2 52 && exponent > minExponent
  { low := 4 * mantissa - (if near then 1 else 2)
    value := 4 * mantissa
    high := 4 * mantissa + 2
    unit := exponent - 2
    closed := mantissa % 2 == 0 }

/-- The exponent of the first decimal digit of a positive number. -/
def decimalExponent (mantissa : Nat) (exponent : Int) : Int :=
  let (num, den) := magnitude mantissa exponent
  ((Decimal.digits (num * Nat.pow 10 400 / den)).length : Int) - 401

/-- Whether `digits * 10 ^ power` reads back, and how far off it is, both
measured on a common scale. -/
def probe (i : Interval) (digits : Nat) (power : Int) : Option Nat :=
  let decimal := digits * (Nat.pow 10 power.toNat * Nat.pow 2 (-i.unit).toNat)
  let scale := Nat.pow 2 i.unit.toNat * Nat.pow 10 (-power).toNat
  let low := i.low * scale
  let high := i.high * scale
  let inside := if i.closed then low ≤ decimal && decimal ≤ high
    else low < decimal && decimal < high
  if inside then some (max decimal (i.value * scale) - min decimal (i.value * scale)) else none

/-- The grid neighbour of the number with this power that reads back, the nearer
one if both do and the greater one if they are equally near. -/
def neighbour? (i : Interval) (mantissa : Nat) (exponent power : Int) : Option Nat :=
  let (num, den) := magnitude mantissa exponent
  let below := num * Nat.pow 10 (-power).toNat / (den * Nat.pow 10 power.toNat)
  match probe i below power, probe i (below + 1) power with
  | some near, some far => if far ≤ near then some (below + 1) else some below
  | some _, none => some below
  | none, some _ => some (below + 1)
  | none, none => none

/-- The digits and power of the shortest decimal, found among `more` further
digits after the first `count`. -/
def shortestFrom (i : Interval) (mantissa : Nat) (exponent first : Int) (count : Nat) :
    Nat → Nat × Int
  | 0 => (mantissa, exponent)
  | more + 1 =>
    let power := first - count
    match neighbour? i mantissa exponent power with
    | some digits => (digits, power)
    | none => shortestFrom i mantissa exponent first (count + 1) more

/-- The shortest decimal of a positive finite number; seventeen digits always
suffice. -/
def shortest (mantissa : Nat) (exponent : Int) : Nat × Int :=
  shortestFrom (interval mantissa exponent) mantissa exponent
    (decimalExponent mantissa exponent) 0 18

/-- Digits with a power of ten, written out positionally. -/
def positional (digits : Nat) (power : Int) : String :=
  let shown := Decimal.digits digits
  if power ≥ 0 then String.ofList (shown ++ List.replicate power.toNat '0')
  else
    let places := (-power).toNat
    let filled := List.replicate (places + 1 - shown.length) '0' ++ shown
    let whole := filled.take (filled.length - places)
    let fraction := ((filled.drop whole.length).reverse.dropWhile (· == '0')).reverse
    String.ofList (if fraction.isEmpty then whole else whole ++ '.' :: fraction)

/-- The text of a number. -/
def print : Binary64 → String
  | .nan => "NaN"
  | .infinite negative => if negative then "-inf" else "inf"
  | .finite negative mantissa exponent =>
    let body := if mantissa = 0 then "0"
      else
        let (digits, power) := shortest mantissa exponent
        positional digits power
    if negative then "-" ++ body else body

end PassiveFtp.Binary64
