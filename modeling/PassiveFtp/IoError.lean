import PassiveFtp.Text.Decimal

/-!
# Failures of files and sockets

Every failure has a kind, which is what the server decides by, and a text,
which is only for people. A failure reported by the operating system carries
its error number; one raised by the server itself carries either nothing but
its kind or a sentence of its own.
-/

namespace PassiveFtp

/-- What went wrong, as far as the server tells failures apart. -/
inductive FailureKind where
  | notFound
  | permissionDenied
  | alreadyExists
  | notADirectory
  | isADirectory
  | invalidFilename
  | filesystemLoop
  | brokenPipe
  | connectionReset
  | connectionAborted
  | connectionRefused
  | notConnected
  | addressInUse
  | addressNotAvailable
  | networkUnreachable
  | timedOut
  | wouldBlock
  | interrupted
  | writeZero
  | unexpectedEof
  | invalidInput
  | invalidData
  | unsupported
  | outOfMemory
  | other
deriving DecidableEq, Repr

/-- The text of a failure of which only the kind is known. -/
def FailureKind.text : FailureKind → String
  | .notFound => "entity not found"
  | .permissionDenied => "permission denied"
  | .alreadyExists => "entity already exists"
  | .notADirectory => "not a directory"
  | .isADirectory => "is a directory"
  | .invalidFilename => "invalid filename"
  | .filesystemLoop => "filesystem loop or indirection limit (e.g. symlink loop)"
  | .brokenPipe => "broken pipe"
  | .connectionReset => "connection reset"
  | .connectionAborted => "connection aborted"
  | .connectionRefused => "connection refused"
  | .notConnected => "not connected"
  | .addressInUse => "address in use"
  | .addressNotAvailable => "address not available"
  | .networkUnreachable => "network unreachable"
  | .timedOut => "timed out"
  | .wouldBlock => "operation would block"
  | .interrupted => "operation interrupted"
  | .writeZero => "write zero"
  | .unexpectedEof => "unexpected end of file"
  | .invalidInput => "invalid input parameter"
  | .invalidData => "invalid data"
  | .unsupported => "unsupported"
  | .outOfMemory => "out of memory"
  | .other => "other error"

/-- The system's own failures that file and socket calls of this server meet. -/
inductive SystemError where
  | noSuchEntry
  | permissionDenied
  | notADirectory
  | isADirectory
  | brokenPipe
  | nameTooLong
  | tooManyLinks
  | addressInUse
  | addressNotAvailable
  | networkUnreachable
  | connectionReset
  | connectionTimedOut
deriving DecidableEq, Repr

namespace SystemError

/-- The number the system gives the failure. -/
def number : SystemError → Nat
  | .noSuchEntry => 2
  | .permissionDenied => 13
  | .notADirectory => 20
  | .isADirectory => 21
  | .brokenPipe => 32
  | .nameTooLong => 36
  | .tooManyLinks => 40
  | .addressInUse => 98
  | .addressNotAvailable => 99
  | .networkUnreachable => 101
  | .connectionReset => 104
  | .connectionTimedOut => 110

/-- All of them, in the order of their numbers. -/
def all : List SystemError :=
  [.noSuchEntry, .permissionDenied, .notADirectory, .isADirectory, .brokenPipe, .nameTooLong,
    .tooManyLinks, .addressInUse, .addressNotAvailable, .networkUnreachable, .connectionReset,
    .connectionTimedOut]

/-- The failure with a given number. -/
def ofNumber? (n : Nat) : Option SystemError :=
  all.find? fun e => e.number == n

/-- The system's text for the failure. -/
def text : SystemError → String
  | .noSuchEntry => "No such file or directory"
  | .permissionDenied => "Permission denied"
  | .notADirectory => "Not a directory"
  | .isADirectory => "Is a directory"
  | .brokenPipe => "Broken pipe"
  | .nameTooLong => "File name too long"
  | .tooManyLinks => "Too many levels of symbolic links"
  | .addressInUse => "Address already in use"
  | .addressNotAvailable => "Cannot assign requested address"
  | .networkUnreachable => "Network is unreachable"
  | .connectionReset => "Connection reset by peer"
  | .connectionTimedOut => "Connection timed out"

/-- The kind a failure of the system belongs to. -/
def kind : SystemError → FailureKind
  | .noSuchEntry => .notFound
  | .permissionDenied => .permissionDenied
  | .notADirectory => .notADirectory
  | .isADirectory => .isADirectory
  | .brokenPipe => .brokenPipe
  | .nameTooLong => .invalidFilename
  | .tooManyLinks => .filesystemLoop
  | .addressInUse => .addressInUse
  | .addressNotAvailable => .addressNotAvailable
  | .networkUnreachable => .networkUnreachable
  | .connectionReset => .connectionReset
  | .connectionTimedOut => .timedOut

theorem ofNumber?_number (e : SystemError) : ofNumber? e.number = some e := by
  cases e <;> rfl

end SystemError

/-- A failed file or socket operation. -/
inductive IoError where
  | system (error : SystemError)
  | bare (kind : FailureKind)
  | told (kind : FailureKind) (text : String)
deriving DecidableEq, Repr

namespace IoError

/-- The kind of a failure. -/
def kind : IoError → FailureKind
  | .system error => error.kind
  | .bare kind => kind
  | .told kind _ => kind

/-- The text of a failure. -/
def message : IoError → String
  | .system error => error.text ++ " (os error " ++ Decimal.print error.number ++ ")"
  | .bare kind => kind.text
  | .told _ text => text

/-- A failure of no particular kind, described in words. -/
def other (text : String) : IoError :=
  .told .other text

end IoError

end PassiveFtp
