import PassiveFtp.Text.Decimal

/-!
# Dates and times of day

A moment has a date, a time of day or both, and with both it may say how far
its clock is from the universal one. Reading checks ranges and no calendar:
every month may have a thirty-first. Printing always has a `T` between date
and time and no zeros at the end of a fraction.
-/

namespace PassiveFtp

/-- A day of the calendar. -/
structure Date where
  year : Nat
  month : Nat
  day : Nat
deriving DecidableEq, Repr

/-- A time of day; the fraction is in billionths. -/
structure Clock where
  hour : Nat
  minute : Nat
  second : Nat
  fraction : Nat
deriving DecidableEq, Repr

/-- How far a clock is from the universal one. -/
inductive Offset where
  | universal
  | shifted (hours : Int) (minutes : Nat)
deriving DecidableEq, Repr

/-- A date, a time of day or both. -/
structure Moment where
  date : Option Date
  clock : Option Clock
  offset : Option Offset
deriving DecidableEq, Repr

namespace Moment

/-- The number that exactly `count` digits at the front spell. -/
def readNumber? (count : Nat) (text : List Char) : Option (Nat × List Char) :=
  let run := text.take count
  if run.length = count && run.all Char.isDigit then some (Decimal.value run, text.drop count)
  else none

/-- What follows a character that has to be there. -/
def skip? (c : Char) : List Char → Option (List Char)
  | d :: rest => if d = c then some rest else none
  | [] => none

/-- Reads a date of ten characters. -/
def readDate? (text : List Char) : Option (Date × List Char) := do
  let (year, rest) ← readNumber? 4 text
  let (month, rest) ← readNumber? 2 (← skip? '-' rest)
  let (day, rest) ← readNumber? 2 (← skip? '-' rest)
  if 1 ≤ month && month ≤ 12 && 1 ≤ day && day ≤ 31 then return (⟨year, month, day⟩, rest)
  else none

/-- Reads a fraction of a second; digits after the ninth are dropped. -/
def readFraction? : List Char → Option (Nat × List Char)
  | '.' :: rest =>
    let run := rest.takeWhile Char.isDigit
    if run.isEmpty then none
    else
      let kept := run.take 9
      some (Decimal.value kept * Nat.pow 10 (9 - kept.length), rest.drop run.length)
  | rest => some (0, rest)

/-- Reads a time of day; the hour may be 24. -/
def readClock? (text : List Char) : Option (Clock × List Char) := do
  let (hour, rest) ← readNumber? 2 text
  let (minute, rest) ← readNumber? 2 (← skip? ':' rest)
  let (second, rest) ← readNumber? 2 (← skip? ':' rest)
  let (fraction, rest) ← readFraction? rest
  if hour ≤ 24 && minute ≤ 59 && second ≤ 59 then
    return (⟨hour, minute, second, fraction⟩, rest)
  else none

/-- Reads hours and minutes with a sign for the hours. -/
def readShift? (sign : Int) (text : List Char) : Option Offset := do
  let (hours, rest) ← readNumber? 2 text
  let (minutes, rest) ← readNumber? 2 (← skip? ':' rest)
  if rest.isEmpty then return .shifted (sign * hours) minutes else none

/-- Reads an offset up to the end of the text; it may be missing. -/
def readOffset? : List Char → Option (Option Offset)
  | [] => some none
  | 'Z' :: rest | 'z' :: rest => if rest.isEmpty then some (some .universal) else none
  | '+' :: rest => (readShift? 1 rest).map some
  | '-' :: rest => (readShift? (-1) rest).map some
  | _ => none

/-- Reads a moment; a text with a colon after two characters is a time of day
alone. -/
def parse? (text : List Char) : Option Moment :=
  if text[2]? == some ':' then
    match readClock? text with
    | some (clock, []) => some ⟨none, some clock, none⟩
    | _ => none
  else
    match readDate? text with
    | none => none
    | some (date, []) => some ⟨some date, none, none⟩
    | some (date, c :: rest) =>
      if c = 'T' || c = 't' || c = ' ' then do
        let (clock, rest) ← readClock? rest
        let offset ← readOffset? rest
        return ⟨some date, some clock, offset⟩
      else none

end Moment

/-- The text of a date. -/
def Date.print (date : Date) : String :=
  Decimal.padded 4 date.year ++ "-" ++ Decimal.padded 2 date.month ++ "-"
    ++ Decimal.padded 2 date.day

/-- The text of a time of day. -/
def Clock.print (clock : Clock) : String :=
  let fraction := if clock.fraction = 0 then "" else
    let places := (Decimal.padded 9 clock.fraction).toList
    "." ++ String.ofList (places.reverse.dropWhile (· == '0')).reverse
  Decimal.padded 2 clock.hour ++ ":" ++ Decimal.padded 2 clock.minute ++ ":"
    ++ Decimal.padded 2 clock.second ++ fraction

/-- The text of an offset. -/
def Offset.print : Offset → String
  | .universal => "Z"
  | .shifted hours minutes =>
    (if hours < 0 then "-" else "+") ++ Decimal.padded 2 hours.natAbs ++ ":"
      ++ Decimal.padded 2 minutes

/-- The text of a moment. -/
def Moment.print (moment : Moment) : String :=
  let date := (moment.date.map Date.print).getD ""
  let between := if moment.date.isSome && moment.clock.isSome then "T" else ""
  date ++ between ++ (moment.clock.map Clock.print).getD ""
    ++ (moment.offset.map Offset.print).getD ""

end PassiveFtp
