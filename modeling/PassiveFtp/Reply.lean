import PassiveFtp.Text.Decimal

/-!
# Replies on the control connection

A reply is one line: a three-digit code, the text that always goes with the
code, and a detail where there is more to say. The passive reply alone is made
elsewhere, because its text is an address, and is sent as it stands.
-/

namespace PassiveFtp

/-- The codes with a fixed text. -/
inductive ReplyCode where
  | aboutToOpenDataConnection
  | commandOk
  | serviceReady
  | closingControlConnection
  | closingDataConnection
  | loggedIn
  | fileActionOk
  | cannotOpenDataConnection
  | transferAborted
  | fileBusy
  | localProcessingError
  | commandUnrecognized
  | syntaxErrorInArguments
  | notImplementedForParameter
  | notLoggedIn
  | fileUnavailable
deriving DecidableEq, Repr

namespace ReplyCode

/-- The number of a code. -/
def number : ReplyCode → Nat
  | .aboutToOpenDataConnection => 150
  | .commandOk => 200
  | .serviceReady => 220
  | .closingControlConnection => 221
  | .closingDataConnection => 226
  | .loggedIn => 230
  | .fileActionOk => 250
  | .cannotOpenDataConnection => 425
  | .transferAborted => 426
  | .fileBusy => 450
  | .localProcessingError => 451
  | .commandUnrecognized => 500
  | .syntaxErrorInArguments => 501
  | .notImplementedForParameter => 504
  | .notLoggedIn => 530
  | .fileUnavailable => 550

/-- Every code, in the order of the numbers. -/
def all : List ReplyCode :=
  [.aboutToOpenDataConnection, .commandOk, .serviceReady, .closingControlConnection,
    .closingDataConnection, .loggedIn, .fileActionOk, .cannotOpenDataConnection,
    .transferAborted, .fileBusy, .localProcessingError, .commandUnrecognized,
    .syntaxErrorInArguments, .notImplementedForParameter, .notLoggedIn, .fileUnavailable]

/-- The code with a given number. -/
def ofNumber? (n : Nat) : Option ReplyCode :=
  all.find? fun code => code.number == n

/-- The text that goes with a code. -/
def text : ReplyCode → String
  | .aboutToOpenDataConnection => "File status okay; about to open data connection"
  | .commandOk => "Command okay"
  | .serviceReady => "Service ready for new user"
  | .closingControlConnection => "Service closing control connection"
  | .closingDataConnection => "Closing data connection"
  | .loggedIn => "User logged in, proceed"
  | .fileActionOk => "Requested file action okay, completed"
  | .cannotOpenDataConnection => "Can't open data connection"
  | .transferAborted => "Connection closed; transfer aborted"
  | .fileBusy => "Requested file action not taken. File unavailable (e.g., file busy)"
  | .localProcessingError => "Requested action aborted: local error in processing"
  | .commandUnrecognized => "Syntax error, command unrecognized"
  | .syntaxErrorInArguments => "Syntax error in parameters or arguments"
  | .notImplementedForParameter => "Command not implemented for that parameter"
  | .notLoggedIn => "Not logged in"
  | .fileUnavailable =>
    "Requested action not taken. File unavailable (e.g., file not found, no access)"

theorem ofNumber?_number (code : ReplyCode) : ofNumber? code.number = some code := by
  cases code <;> rfl

end ReplyCode

/-- One reply: a code with a detail, which may be empty, or a line as it
stands. -/
inductive Reply where
  | coded (code : ReplyCode) (detail : String)
  | raw (line : String)
deriving DecidableEq, Repr

namespace Reply

/-- A code without a detail. -/
def plain (code : ReplyCode) : Reply :=
  .coded code ""

/-- The line that is sent, its end included. -/
def encode : Reply → String
  | .coded code detail =>
    let opening := Decimal.print code.number ++ " " ++ code.text ++ "."
    if detail.isEmpty then opening ++ "\r\n" else opening ++ " " ++ detail ++ "\r\n"
  | .raw line => line

/-- The number a reply begins with: that of its code, or what the first three
characters of its line spell. -/
def status? : Reply → Option Nat
  | .coded code _ => some code.number
  | .raw line =>
    let opening := line.toList.take 3
    if opening.length < 3 then none else Decimal.read? 65535 opening

@[simp] theorem status?_coded (code : ReplyCode) (detail : String) :
    (coded code detail).status? = some code.number := rfl

@[simp] theorem status?_plain (code : ReplyCode) : (plain code).status? = some code.number := rfl

/-- The line for a number and a detail; a number without a fixed text lets the
detail through as it is. -/
def encodeNumber (n : Nat) (detail : String) : String :=
  match ReplyCode.ofNumber? n with
  | some code => encode (.coded code detail)
  | none => detail

end Reply

end PassiveFtp
