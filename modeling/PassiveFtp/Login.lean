import PassiveFtp.Reply
import PassiveFtp.Settings

/-!
# Logging in

There is one account and no password: whoever gives its name exactly is let in.
A name that could not be anyone's is told apart from one that is merely wrong.
-/

namespace PassiveFtp

/-- Why a name is not let in. -/
inductive LoginError where
  | malformed (reason : String)
  | unknownUser (name : String)
deriving DecidableEq, Repr

namespace LoginError

/-- The text of the refusal. -/
def message : LoginError → String
  | .malformed reason => "Malformed input: " ++ reason
  | .unknownUser name => "User not found: " ++ name

/-- The code that reports the refusal. -/
def replyCode : LoginError → ReplyCode
  | .malformed _ => .syntaxErrorInArguments
  | .unknownUser _ => .notLoggedIn

/-- The reply to the client; a wrong name is told in words. -/
def reply : LoginError → Reply
  | .malformed _ => .plain .syntaxErrorInArguments
  | .unknownUser _ => .coded .notLoggedIn "Username is incorrect."

end LoginError

namespace Login

/-- Whether a text could be a name at all: it has more than white space and no
line end or zero in it. -/
def isWellFormed (name : String) : Bool :=
  !Text.allBlank name && !name.toList.any fun c => c == '\r' || c == '\n' || c.toNat == 0

/-- Lets a name in if it is that of the account. -/
def check (settings : Settings) (name : String) : Except LoginError Unit :=
  if !isWellFormed name then .error (.malformed "Invalid username format")
  else if name = settings.username then .ok ()
  else .error (.unknownUser name)

end Login

end PassiveFtp
