import PassiveFtp.Files.Path
import PassiveFtp.Transfer.Parameters
import PassiveFtp.Transfer.Passive

/-!
# Sessions

What the server remembers about one control connection. A session belongs to
its connection alone and ends with it; the root is fixed when it begins.
-/

namespace PassiveFtp

/-- The state of one control connection. -/
structure Session where
  root : Path
  cwd : Path
  loggedIn : Bool := false
  representation : Representation := .image
  passive : Option PassiveChannel := none

/-- The session a connection begins with. -/
def Session.start (root : Path) : Session :=
  { root, cwd := root }

end PassiveFtp
