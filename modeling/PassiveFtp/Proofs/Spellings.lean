import PassiveFtp.Proofs.Decimals
import PassiveFtp.Settings.Value

/-!
# How values are spelled

The formats of settings spell a value alike: a text stands between marks, an
integer is its digits, a few values have a word, and what is inside brackets and
braces does not matter. What differs is a `Dialect`, and `Dialect.Spells` says of
characters alone which of them spell a value. One value has many spellings, as
gaps may be of any length and a character may be escaped or not.

No reader is mentioned. Readers are shown elsewhere to find the value that was
spelled, and what they have in common is how they go through a string, character
by character (`Quoting.read_of_spells`).
-/

namespace PassiveFtp

/-- Strings as a format has them: the mark at either end, the characters that stand
for themselves, and what a letter after a backslash stands for. -/
structure Quoting where
  mark : Char
  stands : Char → Prop
  escapes : List (Char × Char)

/-- What a format makes values of. -/
structure Dialect where
  blanks : List Char
  quotings : List Quoting
  words : List (String × Value)

namespace Quoting

/-- A character is spelled by itself or by an escape. -/
inductive SpellsChar (quoting : Quoting) : Char → List Char → Prop
  | itself {c : Char} : quoting.stands c → quoting.SpellsChar c [c]
  | escaped {letter c : Char} : (letter, c) ∈ quoting.escapes → quoting.SpellsChar c ['\\', letter]

/-- What stands between the marks spells a text. -/
def Spells (quoting : Quoting) (text : String) (body : List Char) : Prop :=
  ∃ parts, List.Forall₂ quoting.SpellsChar text.toList parts ∧ body = parts.flatten

end Quoting

namespace Dialect

/-- Blanks, as many as one likes. -/
def IsGap (dialect : Dialect) (gap : List Char) : Prop :=
  ∀ c ∈ gap, c ∈ dialect.blanks

/-- What spells a value. -/
inductive Spells (dialect : Dialect) : Value → List Char → Prop
  | text {quoting : Quoting} {text : String} {body : List Char} :
      quoting ∈ dialect.quotings → quoting.Spells text body →
      dialect.Spells (.text text) (quoting.mark :: (body ++ [quoting.mark]))
  | integer {n : Int} : -2 ^ 63 ≤ n → n < 2 ^ 63 →
      dialect.Spells (.integer n) (Decimal.printInt n).toList
  | word {word : String} {value : Value} : (word, value) ∈ dialect.words →
      dialect.Spells value word.toList
  | sequence {gap : List Char} : dialect.IsGap gap →
      dialect.Spells .sequence ('[' :: (gap ++ [']']))
  | map {gap : List Char} : dialect.IsGap gap →
      dialect.Spells .map ('\x7b' :: (gap ++ ['\x7d']))

end Dialect

/-! ## Strings -/

namespace Decimal

end Decimal

end PassiveFtp
