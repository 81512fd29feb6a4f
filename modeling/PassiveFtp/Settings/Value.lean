import PassiveFtp.Number.Shortest
import PassiveFtp.Text.Lowercase
import PassiveFtp.Text.Quoted

/-!
# Values of settings before they have a type

A file or a variable gives a value of some type, and a setting wants one of
some other; most pairs have an obvious conversion and the rest are told apart
by name. What lies inside a sequence or a map is no setting, so nothing of it
is kept.
-/

namespace PassiveFtp

/-- The greatest number a numeric setting can hold. -/
def maxSetting : Nat := Nat.pow 2 64 - 1

/-- A value as it is found in a file or a variable. -/
inductive Value where
  | text (text : String)
  | integer (n : Int)
  | real (x : Binary64)
  | boolean (b : Bool)
  | nothing
  | sequence
  | map
deriving DecidableEq, Repr

/-- A value that cannot be converted: what was found and what was wanted. -/
structure Mismatch where
  found : String
  wanted : String
deriving DecidableEq, Repr

namespace Value

/-- What a value is called in a message. -/
def describe : Value → String
  | .text word => "string " ++ Text.quoted word
  | .integer n => "integer 64 bit `" ++ Decimal.printInt n ++ "`"
  | .real x => "floating point `" ++ x.print ++ "`"
  | .boolean b => "boolean `" ++ (if b then "true" else "false") ++ "`"
  | .nothing => "unit value"
  | .sequence => "sequence"
  | .map => "map"

/-- The switch position that a word stands for. -/
def switch? (word : String) : Option Bool :=
  match Text.lowercase word with
  | "true" | "on" | "yes" => some true
  | "false" | "off" | "no" => some false
  | _ => none

/-- A value as a text. -/
def toText : Value → Except Mismatch String
  | .text word => .ok word
  | .integer n => .ok (Decimal.printInt n)
  | .real x => .ok x.print
  | .boolean b => .ok (if b then "true" else "false")
  | other => .error ⟨other.describe, "a string"⟩

/-- A value as a whole number that is not negative. -/
def toNat : Value → Except Mismatch Nat
  | .integer n =>
    if n < 0 then .error ⟨(Value.integer n).describe, "an unsigned 64 bit or less integer"⟩
    else .ok n.toNat
  | .real x => .ok (x.toBoundedNat maxSetting)
  | .boolean b => .ok b.toNat
  | .text word =>
    match switch? word with
    | some b => .ok b.toNat
    | none =>
      match Decimal.read? maxSetting word.toList with
      | some n => .ok n
      | none => .error ⟨(Value.text word).describe, "an integer"⟩
  | other => .error ⟨other.describe, "an integer"⟩

/-- A value as a switch; a word that is none is shown in lower case. -/
def toSwitch : Value → Except Mismatch Bool
  | .boolean b => .ok b
  | .integer n => .ok (n != 0)
  | .real x => .ok !x.isZero
  | .text "1" => .ok true
  | .text "0" => .ok false
  | .text word =>
    match switch? word with
    | some b => .ok b
    | none => .error ⟨(Value.text (Text.lowercase word)).describe, "a boolean"⟩
  | other => .error ⟨other.describe, "a boolean"⟩

/-- The value of a variable: its text is a switch word, an integer or a number
if it can be read as one. -/
def ofVariable (word : String) : Value :=
  match Text.lowercase word with
  | "true" => .boolean true
  | "false" => .boolean false
  | _ =>
    match Decimal.readInt? (Nat.pow 2 63 - 1) word.toList with
    | some n => .integer n
    | none =>
      match Binary64.parse? word.toList with
      | some x => .real x
      | none => .text word

end Value

end PassiveFtp
