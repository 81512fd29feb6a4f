import PassiveFtp.Settings.Toml.Scalar
import PassiveFtp.Settings.Toml.Section

/-!
# Reading TOML settings

A text is read line by line, its lines make sections, and tables are gathered
from those. As only the outermost keys are settings, everything below them is
checked and then forgotten: an array is a sequence and a table is a map,
whatever they hold.
-/

namespace PassiveFtp.Toml

/-- Tokens without a blank in front. -/
def skipBlank : List Token → List Token
  | .blank _ :: tokens => tokens
  | tokens => tokens

/-- Tokens without blanks and line ends in front. -/
def skipLines (tokens : List Token) : List Token :=
  tokens.dropWhile fun
    | .blank _ | .newline => true
    | _ => false

/-- The tokens of the next line, if this one ends here. -/
def endLine? (tokens : List Token) : Option (List Token) :=
  match skipBlank tokens with
  | [] => some []
  | .newline :: tokens => some tokens
  | _ => none

/-! ## Keys and values -/

/-- One part of a key: a word, or a string on one line. -/
def readKey? : List Token → Option (String × List Token)
  | .word chars :: tokens => some (String.ofList chars, tokens)
  | .string text false :: tokens => some (text, tokens)
  | _ => none

/-- The parts of a key, and the tokens after it and a blank. -/
def readPath? : Nat → List Token → Option (List String × List Token)
  | 0, _ => none
  | fuel + 1, tokens => do
    let (key, tokens) ← readKey? (skipBlank tokens)
    match skipBlank tokens with
    | .period :: tokens => do
      let (path, tokens) ← readPath? fuel tokens
      return (key :: path, tokens)
    | tokens => return ([key], tokens)

mutual

/-- Reads what a key is bound to. -/
def readItem? : Nat → List Token → Option (Item × List Token)
  | 0, _ => none
  | fuel + 1, tokens =>
    match tokens with
    | .string text _ :: tokens => some (.plain (.text text), tokens)
    | .plus :: .word word :: tokens =>
      (readNumber? word tokens).map fun (value, tokens) => (.plain value, tokens)
    | .word word :: tokens => readWord? word tokens
    | .leftBracket :: tokens =>
      (readElements? fuel [] tokens).map fun (items, tokens) => (.array items, tokens)
    | .leftBrace :: tokens =>
      match skipBlank tokens with
      | .rightBrace :: tokens => some (.table false [], tokens)
      | tokens =>
        (readMembers? fuel [] tokens).map fun (members, tokens) => (.table false members, tokens)
    | _ => none

/-- Reads the elements of an array, after those already read, latest first, and
its closing bracket; a comma may stand after the last one. -/
def readElements? : Nat → List Item → List Token → Option (List Item × List Token)
  | 0, _, _ => none
  | fuel + 1, items, tokens =>
    match skipLines tokens with
    | .rightBracket :: tokens => some (items.reverse, tokens)
    | tokens =>
      match readItem? fuel tokens with
      | none => none
      | some (item, tokens) =>
        match skipLines tokens with
        | .comma :: tokens => readElements? fuel (item :: items) tokens
        | .rightBracket :: tokens => some ((item :: items).reverse, tokens)
        | _ => none

/-- Reads the members of a table on one line, after those already read, and its
closing brace. -/
def readMembers? : Nat → Members → List Token → Option (Members × List Token)
  | 0, _, _ => none
  | fuel + 1, members, tokens =>
    match readPath? (tokens.length + 1) tokens with
    | some (path, .equals :: tokens) =>
      match readItem? fuel (skipBlank tokens) with
      | none => none
      | some (item, tokens) =>
        match members.bind? path item, skipBlank tokens with
        | some members, .rightBrace :: tokens => some (members, tokens)
        | some members, .comma :: tokens => readMembers? fuel members tokens
        | _, _ => none
    | _ => none

end

/-! ## Lines -/

/-- A line that says something. -/
inductive Line where
  | header (path : List String) (isArray : Bool)
  | entry (path : List String) (item : Item)

/-- Reads a header after its first bracket. -/
def readHeader? (tokens : List Token) : Option (Line × List Token) := do
  let (isArray, tokens) := match tokens with
    | .leftBracket :: tokens => (true, tokens)
    | tokens => (false, tokens)
  let (path, tokens) ← readPath? (tokens.length + 1) tokens
  match isArray, tokens with
  | false, .rightBracket :: tokens => return (.header path false, ← endLine? tokens)
  | true, .rightBracket :: .rightBracket :: tokens =>
    return (.header path true, ← endLine? tokens)
  | _, _ => none

/-- Reads an entry. -/
def readEntry? (tokens : List Token) : Option (Line × List Token) := do
  match ← readPath? (tokens.length + 1) tokens with
  | (path, .equals :: tokens) =>
    let (item, tokens) ← readItem? (tokens.length + 1) (skipBlank tokens)
    return (.entry path item, ← endLine? tokens)
  | _ => none

/-- The lines of a text. -/
def readLines? : Nat → List Token → Option (List Line)
  | 0, _ => none
  | fuel + 1, tokens =>
    match skipLines tokens with
    | [] => some []
    | .leftBracket :: tokens => do
      let (line, tokens) ← readHeader? tokens
      return line :: (← readLines? fuel tokens)
    | tokens => do
      let (line, tokens) ← readEntry? tokens
      return line :: (← readLines? fuel tokens)

/-! ## The whole text -/

/-- Sections with one more; entries before the first header are a section if there
are any. -/
def close (done : Sections) (current : Section) : Sections :=
  if current.path.isEmpty && current.entries.isNone then done else done.push current

/-- The sections that lines make, after those that are complete and the one they
go on with. -/
def sections? : List Line → Sections → Section → Option Sections
  | [], done, current => some (close done current)
  | .entry path item :: lines, done, current => do
    let entries ← Members.bind? path item (current.entries.getD [])
    sections? lines done { current with entries := some entries }
  | .header path isArray :: lines, done, current =>
    sections? lines (close done current) ⟨path, isArray, some []⟩

/-- The outermost keys of a text with their values, if it is well formed. -/
def read? (text : String) : Option (List (String × Value)) := do
  let tokens ← scan? text
  let lines ← readLines? (tokens.length + 1) tokens
  let sections ← sections? lines #[] ⟨[], false, none⟩
  sections.read?

end PassiveFtp.Toml
