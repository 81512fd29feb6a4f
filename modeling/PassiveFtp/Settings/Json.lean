import PassiveFtp.Settings.Value
import PassiveFtp.Text.Hex

/-!
# Reading JSON settings

Only the members of the outermost object matter, so a reader of values is
enough that checks everything and keeps what a setting can be. Numbers without
a point or an exponent that fit 64 bits with a sign are integers, and every
other number is a binary one; it is read as its digits times a power of ten,
which is two roundings and not one.

The readers run on fuel that is never short: each call is given what was left
after at least one character or one level of nesting.
-/

namespace PassiveFtp.Json

/-- The deepest nesting that is read. -/
def maxDepth : Nat := 127

/-- A text without the blanks it starts with. -/
def skipBlanks (text : List Char) : List Char :=
  text.dropWhile fun c => c == ' ' || c == '\t' || c == '\n' || c == '\r'

/-! ## Strings -/

/-- The character after a backslash and a `u`: four digits, or two groups of
four for a character that takes a surrogate pair. -/
def readUnicode? (text : List Char) : Option (Char × List Char) := do
  let (n, rest) ← Hex.read? 4 text
  if 0xDC00 ≤ n && n ≤ 0xDFFF then none
  else if 0xD800 ≤ n && n ≤ 0xDBFF then
    match rest with
    | '\\' :: 'u' :: rest => do
      let (low, rest) ← Hex.read? 4 rest
      if 0xDC00 ≤ low && low ≤ 0xDFFF then
        return (Char.ofNat (0x10000 + (n - 0xD800) * 0x400 + (low - 0xDC00)), rest)
      else none
    | _ => none
  else return (Char.ofNat n, rest)

/-- The character that an escape after a backslash stands for. -/
def readEscape? : List Char → Option (Char × List Char)
  | '"' :: rest => some ('"', rest)
  | '\\' :: rest => some ('\\', rest)
  | '/' :: rest => some ('/', rest)
  | 'b' :: rest => some ('\x08', rest)
  | 'f' :: rest => some ('\x0c', rest)
  | 'n' :: rest => some ('\n', rest)
  | 'r' :: rest => some ('\r', rest)
  | 't' :: rest => some ('\t', rest)
  | 'u' :: rest => readUnicode? rest
  | _ => none

/-- The rest of a string after its opening mark, and what follows the closing
one. -/
def readString? : Nat → List Char → Option (List Char × List Char)
  | _, '"' :: rest => some ([], rest)
  | fuel + 1, '\\' :: rest => do
    let (c, rest) ← readEscape? rest
    let (text, rest) ← readString? fuel rest
    return (c :: text, rest)
  | fuel + 1, c :: rest =>
    if c.toNat < 0x20 then none
    else do
      let (text, rest) ← readString? fuel rest
      return (c :: text, rest)
  | _, _ => none

/-! ## Numbers -/

/-- A number as it is written. -/
structure Numeral where
  negative : Bool
  whole : List Char
  places : Option (List Char)
  power : Option Int

/-- A run of digits at the front, at least one. -/
def readRun? (text : List Char) : Option (List Char × List Char) :=
  let run := text.takeWhile Char.isDigit
  if run.isEmpty then none else some (run, text.drop run.length)

/-- The exponent of a number, if it has one. -/
def readExponent? : List Char → Option (Option Int × List Char)
  | c :: rest =>
    if c = 'e' || c = 'E' then do
      let (negative, rest) := match rest with
        | '-' :: rest => (true, rest)
        | '+' :: rest => (false, rest)
        | rest => (false, rest)
      let (run, rest) ← readRun? rest
      let n : Int := Decimal.value run
      return (some (if negative then -n else n), rest)
    else some (none, c :: rest)
  | [] => some (none, [])

/-- The digits after the point, if there is one. -/
def readPlaces? : List Char → Option (Option (List Char) × List Char)
  | '.' :: rest => do
    let (run, rest) ← readRun? rest
    return (some run, rest)
  | rest => some (none, rest)

/-- Reads a number; no zero may lead. -/
def readNumeral? (text : List Char) : Option (Numeral × List Char) := do
  let (negative, rest) := match text with
    | '-' :: rest => (true, rest)
    | rest => (false, rest)
  let (whole, rest) ← readRun? rest
  if whole.length > 1 && whole.head? == some '0' then none
  else
    let (places, rest) ← readPlaces? rest
    let (power, rest) ← readExponent? rest
    return (⟨negative, whole, places, power⟩, rest)

/-- Digits written after those of `n` as long as the number fits 64 bits, and the
count of digits left out. -/
def takeDigits (n : Nat) : List Char → Nat × Nat
  | [] => (n, 0)
  | c :: rest =>
    let next := n * 10 + (c.toNat - '0'.toNat)
    if next > maxSetting then (n, rest.length + 1) else takeDigits next rest

/-- The digits that count, and the power of ten they are in. -/
def significant (whole places : List Char) : Nat × Int :=
  let (n, dropped) := takeDigits 0 whole
  let (n, cut) := takeDigits n places
  (n, (dropped : Int) - ((places.length - cut : Nat) : Int))

/-- Digits scaled by a power of ten in binary arithmetic, in steps of at most
308; none if the number is too great. -/
def scale? : Nat → Binary64 → Int → Option Binary64
  | 0, x, _ => some x
  | fuel + 1, .finite _ m e, power =>
    let ten (k : Nat) : Binary64 := Binary64.ofQuotient false (Nat.pow 10 k) 1
    if m = 0 then some (.zero false)
    else if power > 308 then none
    else if power < -308 then
      match ten 308 with
      | .finite _ m' e' => scale? fuel (Binary64.quotient m e m' e') (power + 308)
      | _ => none
    else
      match ten power.natAbs with
      | .finite _ m' e' =>
        let x := if power ≥ 0 then Binary64.product m e m' e' else Binary64.quotient m e m' e'
        if x.isFinite then some x else none
      | _ => none
  | _, _, _ => none

/-- A finite number with a sign put in front. -/
def withSign (negative : Bool) : Binary64 → Binary64
  | .finite _ m e => .finite negative m e
  | x => x

/-- The value of a number; none if it is too great. -/
def Numeral.value? (numeral : Numeral) : Option Value :=
  let digits := Decimal.value numeral.whole
  let signed : Int := if numeral.negative then -(digits : Int) else digits
  let isInteger := numeral.places.isNone && numeral.power.isNone
    && -(Nat.pow 2 63 : Int) ≤ signed && signed < Nat.pow 2 63 && !(numeral.negative && digits = 0)
  if isInteger then some (.integer signed)
  else
    let (n, shift) := significant numeral.whole (numeral.places.getD [])
    let power := shift + numeral.power.getD 0
    (scale? 8 (Binary64.ofQuotient false n 1) (max power (-2000))).map fun x =>
      .real (withSign numeral.negative x)

/-! ## Values -/

/-- What a value turns out to be; an object comes with its members. -/
inductive Found where
  | value (v : Value)
  | object (members : List (String × Value))

/-- A found value without the members of an object. -/
def Found.toValue : Found → Value
  | .value v => v
  | .object _ => .map

/-- A word that stands for a value. -/
def readWord? : List Char → Option (Value × List Char)
  | 't' :: 'r' :: 'u' :: 'e' :: rest => some (.boolean true, rest)
  | 'f' :: 'a' :: 'l' :: 's' :: 'e' :: rest => some (.boolean false, rest)
  | 'n' :: 'u' :: 'l' :: 'l' :: rest => some (.nothing, rest)
  | _ => none

mutual

/-- Reads a value with `depth` levels of nesting still allowed. -/
def readValue? : Nat → Nat → List Char → Option (Found × List Char)
  | 0, _, _ => none
  | fuel + 1, depth, text =>
    match skipBlanks text, depth with
    | '"' :: rest, _ => (readString? rest.length rest).map fun (s, rest) =>
        (.value (.text (String.ofList s)), rest)
    | '[' :: _, 0 => none
    | '[' :: rest, depth + 1 =>
      match skipBlanks rest with
      | ']' :: rest => some (.value .sequence, rest)
      | rest => (readElements? fuel depth rest).map fun rest => (.value .sequence, rest)
    | '{' :: _, 0 => none
    | '{' :: rest, depth + 1 =>
      match skipBlanks rest with
      | '}' :: rest => some (.object [], rest)
      | rest => (readMembers? fuel depth rest).map fun (members, rest) => (.object members, rest)
    | rest, _ =>
      match readWord? rest with
      | some (v, rest) => some (.value v, rest)
      | none =>
        match readNumeral? rest with
        | some (numeral, rest) => numeral.value?.map fun v => (.value v, rest)
        | none => none

/-- Reads the elements of a sequence and its closing bracket. -/
def readElements? : Nat → Nat → List Char → Option (List Char)
  | 0, _, _ => none
  | fuel + 1, depth, text =>
    match readValue? fuel depth text with
    | none => none
    | some (_, rest) =>
      match skipBlanks rest with
      | ',' :: rest => readElements? fuel depth rest
      | ']' :: rest => some rest
      | _ => none

/-- Reads the members of an object and its closing brace. -/
def readMembers? : Nat → Nat → List Char → Option (List (String × Value) × List Char)
  | 0, _, _ => none
  | fuel + 1, depth, text =>
    match skipBlanks text with
    | '"' :: rest =>
      match readString? rest.length rest with
      | none => none
      | some (key, rest) =>
        match skipBlanks rest with
        | ':' :: rest =>
          match readValue? fuel depth rest with
          | none => none
          | some (found, rest) =>
            let member := (String.ofList key, found.toValue)
            match skipBlanks rest with
            | ',' :: rest => (readMembers? fuel depth rest).map fun (more, rest) =>
                (member :: more, rest)
            | '}' :: rest => some ([member], rest)
            | _ => none
        | _ => none
    | _ => none

end

/-- The members of the outermost object of a text, none for any other value;
nothing at all if the text is not well formed. -/
def read? (text : String) : Option (List (String × Value)) :=
  let chars := text.toList
  match readValue? (2 * chars.length + 2) maxDepth chars with
  | some (found, rest) =>
    if (skipBlanks rest).isEmpty then
      match found with
      | .object members => some members
      | .value _ => some []
    else none
  | none => none

end PassiveFtp.Json
