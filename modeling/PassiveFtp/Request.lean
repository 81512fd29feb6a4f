import PassiveFtp.Text.Ascii

/-!
# Requests: what a control line asks for

A line is a verb, perhaps an argument, and a number of spaces. The spaces are
counted and not only skipped, because a request is well formed only with
exactly as many of them as its verb calls for; this is the one place where
doubled, leading and trailing spaces are noticed.
-/

namespace PassiveFtp

/-- What a request asks the server to do. -/
inductive Verb where
  | user
  | quit
  | cwd
  | cdup
  | type
  | mode
  | stru
  | pasv
  | retr
  | nlst
  | unknown (word : String)
deriving DecidableEq, Repr

namespace Verb

/-- The verb that a word stands for, in any letter case. -/
def ofWord (word : String) : Verb :=
  match Text.upper word with
  | "USER" => .user
  | "QUIT" => .quit
  | "CWD" => .cwd
  | "CDUP" => .cdup
  | "TYPE" => .type
  | "MODE" => .mode
  | "STRU" => .stru
  | "PASV" => .pasv
  | "RETR" => .retr
  | "NLST" => .nlst
  | _ => .unknown word

/-- The number of spaces in a well-formed line with this verb. -/
def spaces? : Verb → Option Nat
  | .user | .cwd | .type | .mode | .stru | .retr => some 1
  | .quit | .cdup | .pasv | .nlst => some 0
  | .unknown _ => none

end Verb

/-- A control line taken apart. -/
structure Request where
  verb : Verb
  argument : Option String
  spaces : Nat
deriving DecidableEq, Repr

namespace Request

/-- The words of a line: the non-empty pieces between its spaces. -/
def words (line : List Char) : List (List Char) :=
  (line.splitOn ' ').filter (!·.isEmpty)

/-- Takes a line apart; its first word is the verb, the second the argument,
and any further words show only in the number of spaces. -/
def parse (line : String) : Request :=
  let found := words line.toList
  { verb := Verb.ofWord (String.ofList (found.head?.getD []))
    argument := found[1]?.map String.ofList
    spaces := line.toList.count ' ' }

/-- Whether a character ends a line. -/
def endsLine (c : Char) : Bool :=
  c == '\r' || c == '\n'

/-- What is left of a received line before the first character that ends it. -/
def stripEnd (raw : String) : String :=
  String.ofList (raw.toList.takeWhile (!endsLine ·))

end Request

end PassiveFtp
