/-!
# Whole numbers in decimal

Printing gives the fewest digits. Reading is more generous: a plus sign may
stand in front and zeros may lead, but the value has to fit a given bound and
nothing else may be there.
-/

namespace PassiveFtp.Decimal

/-- The character of one decimal digit. -/
def digit (n : Nat) : Char :=
  Char.ofNat ('0'.toNat + n % 10)

/-- The decimal digits of a number, most significant first. -/
def digits (n : Nat) : List Char :=
  if n < 10 then [digit n] else digits (n / 10) ++ [digit n]
termination_by n

/-- The decimal text of a number. -/
def print (n : Nat) : String :=
  String.ofList (digits n)

/-- The decimal text of an integer. -/
def printInt : Int → String
  | .ofNat n => print n
  | .negSucc n => "-" ++ print (n + 1)

/-- `width` digits of a number, zeros in front. -/
def padded (width n : Nat) : String :=
  let shown := digits n
  String.ofList (List.replicate (width - shown.length) '0' ++ shown)

/-- The value of a run of digits. -/
def value (run : List Char) : Nat :=
  run.foldl (fun n c => n * 10 + (c.toNat - '0'.toNat)) 0

/-- Reads a non-empty run of digits whose value is at most `bound`. -/
def readDigits? (bound : Nat) (run : List Char) : Option Nat :=
  if run.isEmpty || !run.all Char.isDigit then none
  else if value run ≤ bound then some (value run) else none

/-- Reads a number of at most `bound`; a plus sign may stand in front. -/
def read? (bound : Nat) : List Char → Option Nat
  | '+' :: run => readDigits? bound run
  | run => readDigits? bound run

/-- Reads an integer between `-bound - 1` and `bound`; a sign may stand in
front. -/
def readInt? (bound : Nat) : List Char → Option Int
  | '-' :: run => (readDigits? (bound + 1) run).map fun n => -(n : Int)
  | run => (read? bound run).map Int.ofNat

end PassiveFtp.Decimal
