import PassiveFtp.IoError

/-!
# Failures of the server itself

What keeps the server from serving at all, as opposed to what fails for one
client.
-/

namespace PassiveFtp

/-- Why there is no server. -/
inductive ServerError where
  | configuration (reason : String)
  | binding (socket : String) (error : IoError)
  | root (path : String) (error : IoError)
  | io (error : IoError)
deriving DecidableEq, Repr

/-- The text of the failure. -/
def ServerError.message : ServerError → String
  | .configuration reason => "Invalid configuration: " ++ reason
  | .binding socket error =>
    "Failed to bind control socket " ++ socket ++ ": " ++ error.message
  | .root path error => "Server root " ++ path ++ " is unusable: " ++ error.message
  | .io error => "I/O error: " ++ error.message

end PassiveFtp
