import PassiveFtp.Text.Combining
import PassiveFtp.Text.Hex
import PassiveFtp.Text.Unprintable

/-!
# Text in quotation marks

Messages quote the value they complain about. A quoted text shows where it
begins and ends and hides nothing: marks and backslashes are escaped, the usual
controls have their short names, and any other character that cannot be seen or
that would attach to its neighbour is given by its code point.
-/

namespace PassiveFtp.Text

/-- How one character is written between quotation marks. -/
def escape (c : Char) : List Char :=
  if c = '"' then ['\\', '"']
  else if c = '\\' then ['\\', '\\']
  else if c = '\t' then ['\\', 't']
  else if c = '\r' then ['\\', 'r']
  else if c = '\n' then ['\\', 'n']
  else if c.toNat = 0 then ['\\', '0']
  else if isCombining c || isUnprintable c then
    ['\\', 'u', '\x7b'] ++ Hex.digits c.toNat ++ ['\x7d']
  else [c]

/-- A text between quotation marks. -/
def quoted (text : String) : String :=
  String.ofList ('"' :: text.toList.flatMap escape ++ ['"'])

end PassiveFtp.Text
