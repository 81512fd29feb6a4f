import PassiveFtp.Files.Tree
import PassiveFtp.IoError

/-!
# Resolution: from a path to the place it leads to

A path is walked segment by segment from the top, links followed as they are
met, and the outcome is a place reached through directories alone. Every
segment, an idle one too, asks for a directory to stand in, which is why a
slash after a file's name is an error. Walks end because only so many links
are followed in one of them.
-/

namespace PassiveFtp

/-- The number of links one walk may follow. -/
def maxLinks : Nat := 40

namespace Tree

/-- Walks on from a place, with a number of links still allowed. -/
def walk (tree : Tree) (links : Nat) (here : Location) :
    List Segment → Except SystemError Location
  | [] => .ok here
  | segment :: rest =>
    match tree.get? here with
    | none => .error .noSuchEntry
    | some (.file _) => .error .notADirectory
    | some (.link _) => .error .notADirectory
    | some (.dir entries) =>
      if Path.isIdle segment then tree.walk links here rest
      else if segment = dotDot then tree.walk links here.dropLast rest
      else if segment.length > Name.maxLength then .error .nameTooLong
      else
        match Name.ofBytes? segment with
        | none => .error .noSuchEntry
        | some name =>
          match entries.lookup name with
          | none => .error .noSuchEntry
          | some (.link target) =>
            match links with
            | 0 => .error .tooManyLinks
            | links + 1 =>
              tree.walk links (if target.isAbsolute then [] else here) (target.segments ++ rest)
          | some _ => tree.walk links (here ++ [name]) rest
termination_by todo => (links, todo.length)

/-- The place a path leads to. -/
def locate (tree : Tree) (p : Path) : Except IoError Location :=
  if 0 ∈ p.bytes then
    .error (.told .invalidInput "file name contained an unexpected NUL byte")
  else if p.bytes = [] then .error (.system .noSuchEntry)
  else (tree.walk maxLinks [] p.segments).mapError .system

/-- The one path without links, idle segments and `..` that leads where `p`
does. -/
def canonicalize (tree : Tree) (p : Path) : Except IoError Path :=
  (tree.locate p).map Location.path

/-- The node a path leads to. -/
def find (tree : Tree) (p : Path) : Except IoError Node := do
  let place ← tree.locate p
  match tree.get? place with
  | some node => .ok node
  | none => .error (.system .noSuchEntry)

/-- Whether a path leads to a directory. -/
def isDir (tree : Tree) (p : Path) : Bool :=
  match tree.find p with
  | .ok node => node.isDir
  | .error _ => false

/-- The names in the directory a path leads to, in the order the directory
keeps them. -/
def entryNames (tree : Tree) (p : Path) : Except IoError (List Name) := do
  match ← tree.find p with
  | .dir entries => .ok (entries.map Prod.fst)
  | _ => .error (.system .notADirectory)

end Tree

end PassiveFtp
