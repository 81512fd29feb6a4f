/-!
# Letter case, for the ASCII letters only

Verbs, their one-letter codes and the words of a setting are compared without
regard to case, but only between the twenty-six ASCII letters: a dotless i is
not an I.
-/

namespace PassiveFtp.Text

/-- A text with its ASCII letters in upper case. -/
def upper (text : String) : String :=
  String.ofList (text.toList.map Char.toUpper)

/-- A text with its ASCII letters in lower case. -/
def lower (text : String) : String :=
  String.ofList (text.toList.map Char.toLower)

/-- Whether two texts differ at most in the case of ASCII letters. -/
def sameWord (s t : String) : Bool :=
  upper s == upper t

end PassiveFtp.Text
