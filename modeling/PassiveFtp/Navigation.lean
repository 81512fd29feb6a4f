import PassiveFtp.Files.Resolve
import PassiveFtp.Reply
import PassiveFtp.Text.Quoted

/-!
# Navigation: from what a client names to a path inside the root

A client sees the root as `/` and nothing above it. What it names is joined to
the root or to the working directory, resolved with all links followed, and
only then compared with the root; the shape of the name is looked at before,
so that a name which asks for a parent is refused whether or not it would lead
outside. The way back shows a working directory with the root taken off.
-/

namespace PassiveFtp

/-- Why the working directory is not changed. -/
inductive NavigationError where
  | invalidPath (reason : String)
  | traversal (target : String)
  | directoryNotFound (target : String)
  | notADirectory (target : String)
  | atRoot
  | changeFailed (path : String) (error : IoError)
deriving DecidableEq, Repr

namespace NavigationError

/-- The text of the refusal. -/
def message : NavigationError → String
  | .invalidPath reason => "Invalid path: " ++ reason
  | .traversal target => "Path traversal attempt: " ++ target
  | .directoryNotFound target => "Directory not found: " ++ target
  | .notADirectory target => "Not a directory: " ++ target
  | .atRoot => "Already at the session root"
  | .changeFailed path error =>
    "Failed to change directory to " ++ path ++ ": " ++ error.message

/-- The code that reports the refusal. -/
def replyCode : NavigationError → ReplyCode
  | .changeFailed .. => .commandUnrecognized
  | _ => .fileUnavailable

end NavigationError

/-- The shape of a name a client gives. -/
inductive TargetShape where
  | dotLeading
  | parentSegment
  | absolute
  | relative
deriving DecidableEq, Repr

namespace TargetShape

/-- Whether a segment of the name asks for a parent directory. -/
def hasParentSegment (target : String) : Bool :=
  (target.toList.splitOn '/').any (· == ['.', '.'])

/-- The shape of a name; a leading dot counts before everything else. -/
def ofTarget (target : String) : TargetShape :=
  if target.toList.head? == some '.' then .dotLeading
  else if hasParentSegment target then .parentSegment
  else if target.toList.head? == some '/' then .absolute
  else .relative

/-- Whether names of this shape are refused as working directories. -/
def isTraversal : TargetShape → Bool
  | .dotLeading | .parentSegment => true
  | .absolute | .relative => false

end TargetShape

namespace Navigation

/-- The path a client means: below the root for a name that starts with a
slash, below the working directory for any other. -/
def clientPath (root cwd : Path) (target : String) : Path :=
  match target.toList with
  | '/' :: rest => root.join ⟨Utf8.encode (rest.dropWhile (· == '/'))⟩
  | name => cwd.join ⟨Utf8.encode name⟩

/-- The directory a client may change to under a name. -/
def changeDirectory (tree : Tree) (root cwd : Path) (target : String) :
    Except NavigationError Path :=
  if target.isEmpty then .error (.invalidPath "Empty path provided")
  else if (TargetShape.ofTarget target).isTraversal then .error (.traversal target)
  else
    match tree.canonicalize (clientPath root cwd target) with
    | .error _ => .error (.directoryNotFound target)
    | .ok found =>
      if ¬found.Within root then .error (.traversal target)
      else if !tree.isDir found then .error (.notADirectory target)
      else .ok found

/-- The directory above the working directory, as long as that stays inside the
root. -/
def parentDirectory (tree : Tree) (root cwd : Path) : Except NavigationError Path :=
  if cwd.Same root then .error .atRoot
  else
    match cwd.parent?.filter fun parent => parent.Within root with
    | none => .error .atRoot
    | some parent =>
      match tree.find parent with
      | .ok (.dir _) => .ok parent
      | .ok _ => .error (.changeFailed parent.text (.other "not a directory"))
      | .error e => .error (.changeFailed parent.text e)

/-- The path of the file a client may fetch under a name. -/
def resolveFile (tree : Tree) (root cwd : Path) (target : String) : Except IoError Path :=
  if target.isEmpty || TargetShape.hasParentSegment target then
    .error (.told .permissionDenied ("refusing path " ++ Text.quoted target))
  else
    match tree.canonicalize (clientPath root cwd target) with
    | .error e => .error e
    | .ok found =>
      if found.Within root then .ok found
      else
        .error (.told .permissionDenied
          (Text.quoted target ++ " resolves outside the server root"))

/-- The working directory as the client is shown it, with the root as `/`. -/
def virtualPath (root cwd : Path) : String :=
  match cwd.relativeTo? root with
  | some rest => if rest.bytes = [] then "/" else "/" ++ rest.text
  | none => cwd.text

end Navigation

end PassiveFtp
