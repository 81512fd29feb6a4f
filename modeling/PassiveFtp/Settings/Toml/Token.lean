import PassiveFtp.Text.Hex

/-!
# The tokens of a TOML text

A text is cut into marks, words, strings, blanks and line ends. Whether a run
of characters is a number, a date or a name is not decided here: all of them
are words, cut wherever a point, a colon or a plus sign stands, and put together
again by whoever knows what is wanted. Comments are dropped, since a line end
or the end of the text always follows them and neither of the two is.
-/

namespace PassiveFtp.Toml

/-- A piece of a text. -/
inductive Token where
  | blank (text : String)
  | newline
  | equals
  | period
  | comma
  | colon
  | plus
  | leftBrace
  | rightBrace
  | leftBracket
  | rightBracket
  | word (chars : List Char)
  /-- a string with its escapes undone, and whether its marks are the triple ones -/
  | string (text : String) (isTriple : Bool)
deriving DecidableEq, Repr

/-- Line ends of two characters made one. -/
def foldLineEnds : List Char → List Char
  | '\r' :: '\n' :: rest => '\n' :: foldLineEnds rest
  | c :: rest => c :: foldLineEnds rest
  | [] => []

/-- A space or a tab. -/
def isBlank (c : Char) : Bool :=
  c == ' ' || c == '\t'

/-- A character that a word consists of. -/
def isWordChar (c : Char) : Bool :=
  c.isAlphanum || c == '-' || c == '_'

/-- A character that may stand in a comment. -/
def isCommentChar (c : Char) : Bool :=
  c == '\t' || c.toNat ≥ 0x20

/-- A character that may stand for itself in a string. -/
def isStringChar (c : Char) : Bool :=
  isCommentChar c && c != '\x7f'

/-! ## Strings -/

/-- The character with a number, if there is one. -/
def charOf? (n : Nat) : Option Char :=
  if n.isValidChar then some (Char.ofNat n) else none

/-- The character that an escape after a backslash stands for. -/
def readEscape? : List Char → Option (Char × List Char)
  | '"' :: rest => some ('"', rest)
  | '\\' :: rest => some ('\\', rest)
  | 'b' :: rest => some ('\x08', rest)
  | 'f' :: rest => some ('\x0c', rest)
  | 'n' :: rest => some ('\n', rest)
  | 'r' :: rest => some ('\r', rest)
  | 't' :: rest => some ('\t', rest)
  | 'u' :: rest => do
    let (n, rest) ← Hex.read? 4 rest
    return (← charOf? n, rest)
  | 'U' :: rest => do
    let (n, rest) ← Hex.read? 8 rest
    return (← charOf? n, rest)
  | _ => none

/-- The rest of a string on one line after its opening mark, and what follows
the closing one. Escapes are undone between double marks only. -/
def readString? (mark : Char) : Nat → List Char → Option (List Char × List Char)
  | fuel + 1, c :: rest =>
    if c = mark then some ([], rest)
    else if c = '\\' && mark = '"' then do
      let (c, rest) ← readEscape? rest
      let (text, rest) ← readString? mark fuel rest
      return (c :: text, rest)
    else if isStringChar c then do
      let (text, rest) ← readString? mark fuel rest
      return (c :: text, rest)
    else none
  | _, _ => none

/-- What follows a backslash at the end of a line: it takes away the line end
and all blanks and line ends after it. -/
def skipJoined? (text : List Char) : Option (List Char) :=
  match text.dropWhile isBlank with
  | '\n' :: rest => some (rest.dropWhile fun c => isBlank c || c == '\n')
  | _ => none

/-- The rest of a string between triple marks, and what follows it. Up to two
marks more than the closing ones belong to the string. -/
def readTriple? (mark : Char) : Nat → List Char → Option (List Char × List Char)
  | fuel + 1, c :: rest =>
    if c = mark then
      let run := 1 + (rest.takeWhile (· == mark)).length
      if run < 3 then do
        let (text, rest) ← readTriple? mark fuel (rest.drop (run - 1))
        return (List.replicate run mark ++ text, rest)
      else
        let taken := min run 5
        some (List.replicate (taken - 3) mark, rest.drop (taken - 1))
    else if c = '\\' && mark = '"' then
      match readEscape? rest with
      | some (c, rest) => do
        let (text, rest) ← readTriple? mark fuel rest
        return (c :: text, rest)
      | none => (skipJoined? rest).bind (readTriple? mark fuel)
    else if isStringChar c || c = '\n' then do
      let (text, rest) ← readTriple? mark fuel rest
      return (c :: text, rest)
    else none
  | _, _ => none

/-- A string after the first of its marks, as a token. A line end right after
triple marks is not part of the string. -/
def scanString? (mark : Char) (text : List Char) : Option (Token × List Char) :=
  let token (isTriple : Bool) (found : List Char × List Char) : Token × List Char :=
    (.string (String.ofList found.1) isTriple, found.2)
  match text with
  | c :: d :: rest =>
    if c = mark && d = mark then
      let rest := match rest with
        | '\n' :: rest => rest
        | rest => rest
      (readTriple? mark (rest.length + 1) rest).map (token true)
    else (readString? mark (text.length + 1) text).map (token false)
  | _ => (readString? mark (text.length + 1) text).map (token false)

/-! ## The whole text -/

/-- The mark that a character is. -/
def mark? : Char → Option Token
  | '\n' => some .newline
  | '=' => some .equals
  | '.' => some .period
  | ',' => some .comma
  | ':' => some .colon
  | '+' => some .plus
  | '{' => some .leftBrace
  | '}' => some .rightBrace
  | '[' => some .leftBracket
  | ']' => some .rightBracket
  | _ => none

/-- The token at the front of a text that goes on with `c` and `rest`; a comment
is none. -/
def scanOne? (c : Char) (rest : List Char) : Option (Option Token × List Char) :=
  match mark? c with
  | some token => some (some token, rest)
  | none =>
    if isBlank c then
      some (some (.blank (String.ofList (c :: rest.takeWhile isBlank))), rest.dropWhile isBlank)
    else if c = '#' then some (none, rest.dropWhile isCommentChar)
    else if c = '"' || c = '\'' then
      (scanString? c rest).map fun (token, rest) => (some token, rest)
    else if isWordChar c then
      some (some (.word (c :: rest.takeWhile isWordChar)), rest.dropWhile isWordChar)
    else none

/-- The tokens of a text of at most `fuel` characters. -/
def scanAll? : Nat → List Char → Option (List Token)
  | _, [] => some []
  | 0, _ => none
  | fuel + 1, c :: rest => do
    let (token, rest) ← scanOne? c rest
    let tokens ← scanAll? fuel rest
    return token.toList ++ tokens

/-- The tokens of a text, if it consists of tokens; a byte order mark in front
is none. -/
def scan? (text : String) : Option (List Token) :=
  let chars := match foldLineEnds text.toList with
    | '\uFEFF' :: chars => chars
    | chars => chars
  scanAll? chars.length chars

end PassiveFtp.Toml
