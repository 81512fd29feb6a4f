import PassiveFtp.Settings.Toml.Item
import PassiveFtp.Settings.Toml.Token

/-!
# Numbers and moments in a TOML text

A number or a moment is spread over several tokens, because a point, a colon
and a plus sign each end a word. Which of the two it is shows in the first
word: a `T`, or a dash that belongs to no exponent, makes a moment, and so does
a colon after it.

Single underscores may stand between digits. A whole number may not start with
a zero unless it is one, and a real number has to be finite unless it is spelled
as a word.
-/

namespace PassiveFtp.Toml

/-! ## Numbers -/

/-- A run of digits at the front, underscores taken out, and what follows it.
An underscore has a digit on either side. -/
def readRun? (isDigit : Char → Bool) (text : List Char) : Option (List Char × List Char) :=
  let body := text.takeWhile fun c => isDigit c || c == '_'
  if (body.splitOn '_').any List.isEmpty then none
  else some (body.filter (· != '_'), text.drop body.length)

/-- A dash at the front, and what follows it. -/
def readDash : List Char → Bool × List Char
  | '-' :: rest => (true, rest)
  | rest => (false, rest)

/-- A whole number in base ten at the front: whether it is negative, its digits
and what follows them. -/
def readWhole? (text : List Char) : Option (Bool × List Char × List Char) := do
  let (negative, body) := readDash text
  let (digits, rest) ← readRun? Char.isDigit body
  if digits.length > 1 && digits.head? == some '0' then none else return (negative, digits, rest)

/-- An integer of 64 bits with a sign. -/
def integer? (negative : Bool) (magnitude : Nat) : Option Value :=
  if negative then
    if magnitude ≤ Nat.pow 2 63 then some (.integer (-(magnitude : Int))) else none
  else if magnitude < Nat.pow 2 63 then some (.integer magnitude) else none

/-- An integer in base ten. -/
def readInteger? (word : List Char) : Option Value :=
  match readWhole? word with
  | some (negative, digits, []) => integer? negative (Decimal.value digits)
  | _ => none

/-- An integer in another base; zeros may lead. -/
def readBased? (base : Nat) (word : List Char) : Option Value :=
  let digit? (c : Char) : Option Nat := (Hex.value? c).filter (· < base)
  match readRun? (fun c => (digit? c).isSome) word with
  | some (digits, []) =>
    integer? false ((digits.filterMap digit?).foldl (fun n d => n * base + d) 0)
  | _ => none

/-- The exponent that ends a number. A plus sign ends the word before it. -/
def readPower? : List Char → List Token → Option (Int × List Token)
  | [], tokens => some (0, tokens)
  | letter :: power, tokens =>
    if letter != 'e' && letter != 'E' then none
    else
      match power, tokens with
      | [], .plus :: .word digits :: tokens =>
        match readRun? Char.isDigit digits with
        | some (digits, []) => some (Decimal.value digits, tokens)
        | _ => none
      | [], _ => none
      | power, tokens =>
        let (negative, body) := readDash power
        match readRun? Char.isDigit body with
        | some (digits, []) =>
          some (if negative then -(Decimal.value digits : Int) else Decimal.value digits, tokens)
        | _ => none

/-- A finite number from its literal. -/
def finite? (negative : Bool) (literal : Binary64.Literal) : Option Value :=
  let x := Binary64.ofLiteral negative literal
  if x.isFinite then some (.real x) else none

/-- A real number from its first word and, if a point follows, the word after
the point. -/
def readReal? (word : List Char) (places : Option (List Char)) (tokens : List Token) :
    Option (Value × List Token) := do
  let (negative, whole, rest) ← readWhole? word
  match places with
  | none => do
    let (power, tokens) ← readPower? rest tokens
    return (← finite? negative ⟨whole, [], power⟩, tokens)
  | some places =>
    if !rest.isEmpty then none
    else do
      let (places, rest) ← readRun? Char.isDigit places
      let (power, tokens) ← readPower? rest tokens
      return (← finite? negative ⟨whole, places, power⟩, tokens)

/-- A real number that is spelled as a word. -/
def readNamed? (word : List Char) : Option Value :=
  match String.ofList word with
  | "inf" => some (.real (.infinite false))
  | "-inf" => some (.real (.infinite true))
  | "nan" | "-nan" => some (.real .nan)
  | _ => none

/-- A number that starts with a word, and the tokens after it. -/
def readNumber? (word : List Char) (tokens : List Token) : Option (Value × List Token) :=
  let whole (v : Option Value) : Option (Value × List Token) := v.map fun v => (v, tokens)
  match word with
  | '0' :: 'x' :: digits => whole (readBased? 16 digits)
  | '0' :: 'o' :: digits => whole (readBased? 8 digits)
  | '0' :: 'b' :: digits => whole (readBased? 2 digits)
  | _ =>
    if word.contains 'e' || word.contains 'E' then readReal? word none tokens
    else
      match tokens with
      | .period :: .word places :: tokens => readReal? word (some places) tokens
      | .period :: _ => none
      | _ => whole ((readNamed? word).or (readInteger? word))

/-! ## Moments -/

/-- A text with a mark and the word after it added to its end; both have to be
there. -/
def joinMark? (mark : Token) (c : Char) :
    List Char × List Token → Option (List Char × List Token)
  | (text, token :: .word next :: tokens) =>
    if token = mark then some (text ++ c :: next, tokens) else none
  | _ => none

/-- A text with a mark and the word after it added to its end, if the mark is
there. -/
def joinOptional? (mark : Token) (c : Char) (found : List Char × List Token) :
    Option (List Char × List Token) :=
  if found.2.head? = some mark then joinMark? mark c found else some found

/-- The text of a moment that starts with a word. A single space stands between
a date and its time of day. -/
def momentText? (word : List Char) (tokens : List Token) : Option (List Char × List Token) :=
  let (text, tokens) := match tokens with
    | .blank " " :: .word next :: rest => (word ++ ' ' :: next, rest)
    | tokens => (word, tokens)
  if tokens.head? = some .colon then do
    let found ← joinMark? .colon ':' (text, tokens)
    let found ← joinMark? .colon ':' found
    let found ← joinOptional? .period '.' found
    let found ← joinOptional? .plus '+' found
    joinOptional? .colon ':' found
  else some (text, tokens)

/-- Whether a word starts a moment rather than a number. -/
def startsMoment (word : List Char) : Bool :=
  let hasShift := (word.zip word.tail).any fun (c, d) => (c == 'e' || c == 'E') && d == '-'
  word.contains 'T' || word.contains 't' || (word.tail.contains '-' && !hasShift)

/-- An item that starts with a word: a switch, a number or a moment. -/
def readWord? (word : List Char) (tokens : List Token) : Option (Item × List Token) :=
  match String.ofList word with
  | "true" => some (.plain (.boolean true), tokens)
  | "false" => some (.plain (.boolean false), tokens)
  | name =>
    let isNumeric := word.head?.any fun c => c == '-' || c.isDigit
    if !(isNumeric || name == "inf" || name == "nan") then none
    else if startsMoment word || tokens.head? = some .colon then
      (momentText? word tokens).map fun (text, tokens) => (.moment text, tokens)
    else (readNumber? word tokens).map fun (value, tokens) => (.plain value, tokens)

end PassiveFtp.Toml
