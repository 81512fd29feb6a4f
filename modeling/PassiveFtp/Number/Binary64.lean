import PassiveFtp.Text.Decimal

/-!
# Binary floating point with 53 digits

A number in a configuration file need not be whole, and what is read is the
nearest number of the binary format with 53 binary digits. Everything here is
exact arithmetic on natural numbers: a finite number is a mantissa times a
power of two, and rounding a quotient finds the nearest such number, the even
mantissa at a tie.
-/

namespace PassiveFtp

/-- A number of the format. A finite one is `mantissa * 2 ^ exponent` with the
sign put in front, so there are two zeros. -/
inductive Binary64 where
  | finite (negative : Bool) (mantissa : Nat) (exponent : Int)
  | infinite (negative : Bool)
  | nan
deriving DecidableEq, Repr

namespace Binary64

/-- The least exponent. -/
def minExponent : Int := -1074

/-- The greatest exponent. -/
def maxExponent : Int := 971

/-- Zero with a sign. -/
def zero (negative : Bool) : Binary64 :=
  .finite negative 0 minExponent

/-- A quotient in units of a power of two, rounded to a whole number; a half
goes to the even neighbour. -/
def roundQuotient (num den : Nat) (exponent : Int) : Nat :=
  let num := num * Nat.pow 2 (-exponent).toNat
  let den := den * Nat.pow 2 exponent.toNat
  let whole := num / den
  let twice := 2 * (num % den)
  if twice > den || (twice == den && whole % 2 == 1) then whole + 1 else whole

/-- The exponent at which the quotient has 53 binary digits, or the least one if
that is greater. -/
def exponentFor (num den : Nat) : Int :=
  let guess : Int := (Nat.log2 num : Int) - Nat.log2 den - 53
  let whole := num * Nat.pow 2 (-guess).toNat / (den * Nat.pow 2 guess.toNat)
  max minExponent (if whole ≥ Nat.pow 2 53 then guess + 1 else guess)

/-- The number nearest to a quotient. -/
def ofQuotient (negative : Bool) (num den : Nat) : Binary64 :=
  if num = 0 then zero negative
  else
    let exponent := exponentFor num den
    let rounded := roundQuotient num den exponent
    let (mantissa, exponent) :=
      if rounded = Nat.pow 2 53 then (Nat.pow 2 52, exponent + 1) else (rounded, exponent)
    if exponent > maxExponent then .infinite negative else .finite negative mantissa exponent

/-- The number nearest to `digits * 10 ^ power`, where `digits` has at most
`length` decimal digits. Powers far outside the format are cut short. -/
def ofDecimal (negative : Bool) (digits length : Nat) (power : Int) : Binary64 :=
  if digits = 0 then zero negative
  else if power + length < -350 then zero negative
  else if power > 350 then .infinite negative
  else ofQuotient negative (digits * Nat.pow 10 power.toNat) (Nat.pow 10 (-power).toNat)

/-- A finite number without its sign, as a quotient. -/
def magnitude (mantissa : Nat) (exponent : Int) : Nat × Nat :=
  (mantissa * Nat.pow 2 exponent.toNat, Nat.pow 2 (-exponent).toNat)

/-- Whether the number is zero, of either sign. -/
def isZero : Binary64 → Bool
  | .finite _ 0 _ => true
  | _ => false

/-- Whether the number is finite. -/
def isFinite : Binary64 → Bool
  | .finite .. => true
  | _ => false

/-- The nearest whole number that is not negative and at most `bound`, halves
rounded up; what is no number gives zero. -/
def toBoundedNat (bound : Nat) : Binary64 → Nat
  | .finite true .. | .infinite true | .nan => 0
  | .infinite false => bound
  | .finite false mantissa exponent =>
    let (num, den) := magnitude mantissa exponent
    min bound ((2 * num + den) / (2 * den))

/-- A decimal literal: digits before and after the point, and the exponent as
it is written. -/
structure Literal where
  whole : List Char
  places : List Char
  power : Int

/-- The digits of a literal without the point. -/
def Literal.digits (literal : Literal) : List Char :=
  literal.whole ++ literal.places

/-- The number nearest to a literal. -/
def ofLiteral (negative : Bool) (literal : Literal) : Binary64 :=
  ofDecimal negative (Decimal.value literal.digits) literal.digits.length
    (literal.power - literal.places.length)

/-- Reads an exponent after its letter: a sign and at least one digit. -/
def readPower? (text : List Char) : Option Int :=
  let (negative, run) := match text with
    | '-' :: run => (true, run)
    | '+' :: run => (false, run)
    | run => (false, run)
  if run.isEmpty || !run.all Char.isDigit then none
  else some (if negative then -(Decimal.value run : Int) else Decimal.value run)

/-- Reads a literal: digits with or without a point, a digit on one side of it
at least, and perhaps an exponent. -/
def readLiteral? (text : List Char) : Option Literal :=
  let whole := text.takeWhile Char.isDigit
  let rest := text.drop whole.length
  let (places, rest) := match rest with
    | '.' :: rest => (rest.takeWhile Char.isDigit, rest.dropWhile Char.isDigit)
    | rest => ([], rest)
  if whole.isEmpty && places.isEmpty then none
  else
    match rest with
    | [] => some ⟨whole, places, 0⟩
    | c :: power =>
      if c = 'e' || c = 'E' then (readPower? power).map (⟨whole, places, ·⟩) else none

/-- The number a text spells: a literal, `inf`, `infinity` or `nan` in any
letter case, with or without a sign. -/
def parse? (text : List Char) : Option Binary64 :=
  let (negative, body) := match text with
    | '-' :: body => (true, body)
    | '+' :: body => (false, body)
    | body => (false, body)
  match String.ofList (body.map Char.toLower) with
  | "inf" | "infinity" => some (.infinite negative)
  | "nan" => some .nan
  | _ => (readLiteral? body).map (ofLiteral negative)

/-- The product of two finite numbers without signs, rounded. -/
def product (m : Nat) (e : Int) (m' : Nat) (e' : Int) : Binary64 :=
  let (num, den) := magnitude m e
  let (num', den') := magnitude m' e'
  ofQuotient false (num * num') (den * den')

/-- The quotient of two finite numbers without signs, rounded. -/
def quotient (m : Nat) (e : Int) (m' : Nat) (e' : Int) : Binary64 :=
  let (num, den) := magnitude m e
  let (num', den') := magnitude m' e'
  ofQuotient false (num * den') (den * num')

end Binary64

end PassiveFtp
