import PassiveFtp.Text.Decimal

/-!
# Keys

A key names a setting, and it may reach into the setting: `name.member` makes
the setting a map and `name[0]` makes it a sequence. No setting is either, so
all that matters of such a key is its first step. A key that is not of this
shape names whatever it spells, as a whole.
-/

namespace PassiveFtp

/-- What a key reaches: a setting as a whole, or something inside it. -/
inductive Reach where
  | whole
  | member
  | element
deriving DecidableEq, Repr

/-- The setting that a key names, and what it reaches of it. -/
structure Key where
  name : String
  reach : Reach
deriving DecidableEq, Repr

namespace Key

/-- A character that the steps of a key consist of. -/
def isNameChar (c : Char) : Bool :=
  c.isAlphanum || c == ' ' || c == '_' || c == '-'

/-- A character that may surround an index. -/
def isPadding (c : Char) : Bool :=
  c == ' ' || c == '\t'

/-- A text without padding at its ends. -/
def trim (text : List Char) : List Char :=
  ((text.dropWhile isPadding).reverse.dropWhile isPadding).reverse

/-- Whether a text spells an index; a minus sign may stand in front. -/
def isIndex (text : List Char) : Bool :=
  match text with
  | '+' :: _ => false
  | text => (Decimal.readInt? (Nat.pow 2 63 - 1) text).isSome

/-- Whether a text consists of steps into a setting. -/
def isSteps : Nat → List Char → Bool
  | _, [] => true
  | fuel + 1, '.' :: rest =>
    let name := rest.takeWhile isNameChar
    !name.isEmpty && isSteps fuel (rest.drop name.length)
  | fuel + 1, '[' :: rest =>
    let index := rest.takeWhile (· != ']')
    isIndex (trim index) && (rest.drop index.length).head? == some ']'
      && isSteps fuel (rest.drop (index.length + 1))
  | _, _ => false

/-- The key that a text spells. -/
def ofText (text : String) : Key :=
  let chars := text.toList
  let name := chars.takeWhile isNameChar
  let steps := chars.drop name.length
  if name.isEmpty || !isSteps steps.length steps then ⟨text, .whole⟩
  else
    match steps with
    | [] => ⟨text, .whole⟩
    | '.' :: _ => ⟨String.ofList name, .member⟩
    | _ => ⟨String.ofList name, .element⟩

end Key

end PassiveFtp
