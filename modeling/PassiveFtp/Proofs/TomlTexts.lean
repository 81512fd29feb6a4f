import PassiveFtp.Proofs.TomlTokens

/-!
# What is read from a TOML text

`Toml.Spells` says which texts bind keys line by line, with comments, blank lines
and blanks wherever they may stand. If no key is bound twice, such a text is read as
its keys and values, in order (`read?_of_spells`).

A text goes through three readers. Its tokens are those of its lines, once line
ends are folded. The second reader takes a line at a time from them, whatever comes
after it (`scans_line`). The third gathers sections, of which there is one at most,
the one before the first header.
-/

namespace PassiveFtp.Toml

/-- A key that needs no marks. -/
def IsBare (key : String) : Prop :=
  key ≠ "" ∧ key.toList.all fun c => c.isAlphanum || c == '-' || c == '_'

instance (key : String) : Decidable (IsBare key) :=
  inferInstanceAs (Decidable (_ ∧ _))

/-- What spells a line that binds a key, or none. -/
inductive SpellsLine : List (String × Value) → List Char → Prop
  | nothing {gap note : List Char} : dialect.IsGap gap → IsNote note → SpellsLine [] (gap ++ note)
  | bind {key : String} {value : Value} {before between after spelled last note : List Char} :
      dialect.IsGap before → IsBare key → dialect.IsGap between → dialect.IsGap after →
      dialect.Spells value spelled → dialect.IsGap last → IsNote note →
      SpellsLine [(key, value)]
        (before ++ (key.toList ++ (between ++ '=' :: (after ++ (spelled ++ (last ++ note))))))

/-- What spells lines; a line feed ends a line, and a carriage return may come
before it. -/
inductive Spells : List (String × Value) → List Char → Prop
  | last {members : List (String × Value)} {line : List Char} :
      SpellsLine members line → Spells members line
  | more {members others : List (String × Value)} {line ending text : List Char} :
      SpellsLine members line → ending = ['\n'] ∨ ending = ['\r', '\n'] → Spells others text →
      Spells (members ++ others) (line ++ (ending ++ text))

/-! ## Values -/

theorem skipBlank_gapTokens (gap : List Char) {tokens : List Token}
    (h : skipBlank tokens = tokens) : skipBlank (gapTokens gap ++ tokens) = tokens := by
  rw [gapTokens]
  split
  · exact h
  · rfl

/-- What follows a line, and its tokens. -/
inductive EndsLine : List Char → List Token → Prop
  | text : EndsLine [] []
  | line {rest : List Char} {tokens : List Token} :
      Scans rest tokens → EndsLine ('\n' :: rest) (.newline :: tokens)

theorem EndsLine.endLine? {rest : List Char} {tokens : List Token} (h : EndsLine rest tokens)
    (gap : List Char) : endLine? (gapTokens gap ++ tokens) = some tokens.tail := by
  cases h with
  | text => rw [Toml.endLine?, skipBlank_gapTokens gap rfl]; rfl
  | line => rw [Toml.endLine?, skipBlank_gapTokens gap rfl]; rfl

/-- A line end in front of lines does not matter. -/
theorem EndsLine.readLines? {rest : List Char} {tokens : List Token} (h : EndsLine rest tokens)
    (fuel : Nat) : readLines? fuel tokens.tail = readLines? fuel tokens := by
  cases h with
  | text => rfl
  | line =>
      cases fuel with
      | zero => simp only [Toml.readLines?]
      | succ fuel => simp [Toml.readLines?, skipLines]

end PassiveFtp.Toml
