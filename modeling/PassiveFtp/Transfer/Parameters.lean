import PassiveFtp.Text.Ascii

/-!
# Transfer parameters

A client may ask for a representation type, a transfer mode and a file
structure by one-letter codes. One value of each is enough for a server that
sends files as they are, so most codes are known and refused; the type is kept
with the session but does not change what is sent.
-/

namespace PassiveFtp

/-- The answer to a parameter code. -/
inductive Negotiation (α : Type) where
  | accepted (value : α)
  | unimplemented
  | invalid
deriving DecidableEq, Repr

/-- How the bytes of a file are meant. -/
inductive Representation where
  | ascii
  | image
deriving DecidableEq, Repr

/-- How bytes travel over the data connection. -/
inductive TransferMode where
  | stream
deriving DecidableEq, Repr

/-- How a file is divided. -/
inductive FileStructure where
  | file
deriving DecidableEq, Repr

/-- The answer to a type code. -/
def Representation.negotiate (code : String) : Negotiation Representation :=
  match Text.upper code with
  | "A" => .accepted .ascii
  | "I" => .accepted .image
  | "E" | "L" => .unimplemented
  | _ => .invalid

/-- The answer to a mode code. -/
def TransferMode.negotiate (code : String) : Negotiation TransferMode :=
  match Text.upper code with
  | "S" => .accepted .stream
  | "B" | "C" => .unimplemented
  | _ => .invalid

/-- The answer to a structure code. -/
def FileStructure.negotiate (code : String) : Negotiation FileStructure :=
  match Text.upper code with
  | "F" => .accepted .file
  | "R" | "P" => .unimplemented
  | _ => .invalid

end PassiveFtp
