import PassiveFtp.Text.Decimal

/-!
# Spans of time

How long the server waited for a data connection is told in the largest unit
that makes the whole part of the number positive, and without trailing zeros
after the point.
-/

namespace PassiveFtp

/-- A span of time: whole seconds and less than a second's nanoseconds. -/
structure Duration where
  seconds : Nat
  nanos : Nat
deriving DecidableEq, Repr

namespace Duration

/-- A span given in seconds and any number of nanoseconds. -/
def ofParts (seconds nanos : Nat) : Duration :=
  ⟨seconds + nanos / Nat.pow 10 9, nanos % Nat.pow 10 9⟩

/-- A span of whole seconds. -/
def ofSeconds (seconds : Nat) : Duration :=
  ⟨seconds, 0⟩

/-- A span of whole milliseconds. -/
def ofMillis (millis : Nat) : Duration :=
  ofParts (millis / 1000) (millis % 1000 * Nat.pow 10 6)

/-- The point and the digits after it: `rest` out of `10 ^ places`, trailing
zeros dropped, nothing at all if no digit is left. -/
def fraction (places rest : Nat) : String :=
  let shown := ((Decimal.padded places rest).toList.reverse.dropWhile (· == '0')).reverse
  if shown.isEmpty then "" else String.ofList ('.' :: shown)

/-- The span in its largest fitting unit. -/
def print (span : Duration) : String :=
  if span.seconds > 0 then
    Decimal.print span.seconds ++ fraction 9 span.nanos ++ "s"
  else if span.nanos ≥ Nat.pow 10 6 then
    Decimal.print (span.nanos / Nat.pow 10 6) ++ fraction 6 (span.nanos % Nat.pow 10 6) ++ "ms"
  else if span.nanos ≥ Nat.pow 10 3 then
    Decimal.print (span.nanos / Nat.pow 10 3) ++ fraction 3 (span.nanos % Nat.pow 10 3) ++ "µs"
  else Decimal.print span.nanos ++ "ns"

end Duration

end PassiveFtp
