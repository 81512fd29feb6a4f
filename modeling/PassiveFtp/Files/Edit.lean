import PassiveFtp.Files.Resolve

/-!
# Changing a tree

The tree may change between two control lines: entries appear, are replaced or
go away. A change names its place by a path, and the way there may lead through
links like any other; only removing and linking look at the last name itself.
-/

namespace PassiveFtp

namespace Tree

/-- Steps from a place into the directory a segment leads to, making it if it
is not there. -/
def enterOrMake (tree : Tree) (here : Location) (segment : Segment) :
    Except SystemError (Tree × Location) :=
  match tree.walk maxLinks here [segment], Name.ofBytes? segment with
  | .ok place, _ => .ok (tree, place)
  | .error .noSuchEntry, some name =>
    if (tree.get? (here ++ [name])).isSome then .error .noSuchEntry
    else .ok (tree.alter (fun _ => some (.dir [])) (here ++ [name]), here ++ [name])
  | .error e, _ => .error e

/-- Makes every directory on the way and tells where it ends. -/
def makeWay (tree : Tree) (here : Location) : List Segment →
    Except SystemError (Tree × Location)
  | [] => .ok (tree, here)
  | segment :: rest => do
    let (tree, place) ← tree.enterOrMake here segment
    tree.makeWay place rest

/-- Makes a directory and all that are missing above it. -/
def makeDirectories (tree : Tree) (p : Path) : Except SystemError Tree := do
  let (tree, _) ← tree.makeWay [] p.segments
  return tree

/-- Makes the directories above a path's last segment; gives the place they
lead to and the name that is left. -/
def makeParents (tree : Tree) (p : Path) : Except SystemError (Tree × Location × Name) :=
  match (Path.dropIdleEnd p.segments).reverse with
  | [] => .error .isADirectory
  | last :: front => do
    let (tree, place) ← tree.makeWay [] front.reverse
    match Name.ofBytes? last with
    | some name => .ok (tree, place, name)
    | none => .error .noSuchEntry

/-- The place that a file of some name is written to: links are followed, also to
a place where nothing is yet. -/
def placeToWrite (tree : Tree) : Nat → Location → Name → Except SystemError Location
  | links, here, name =>
    match tree.get? (here ++ [name]), links with
    | some (.dir _), _ => .error .isADirectory
    | some (.link _), 0 => .error .tooManyLinks
    | some (.link target), links + 1 => do
      let place ← tree.walk maxLinks (if target.isAbsolute then [] else here)
        target.segments.dropLast
      match Name.ofBytes? (target.segments.getLast?.getD []) with
      | some name => tree.placeToWrite links place name
      | none => .error .isADirectory
    | _, _ => .ok (here ++ [name])

/-- Writes a file, through links if one stands there. -/
def writeFile (tree : Tree) (p : Path) (content : List UInt8) : Except SystemError Tree := do
  let (tree, here, name) ← tree.makeParents p
  let place ← tree.placeToWrite maxLinks here name
  return tree.alter (fun _ => some (.file content)) place

/-- Puts a symbolic link where nothing is yet. -/
def makeLink (tree : Tree) (p target : Path) : Except SystemError Tree := do
  let (tree, here, name) ← tree.makeParents p
  match tree.get? (here ++ [name]) with
  | none => .ok (tree.alter (fun _ => some (.link target)) (here ++ [name]))
  | some _ => .error .permissionDenied

/-- Takes an entry away, with everything below it. -/
def remove (tree : Tree) (p : Path) : Except SystemError Tree := do
  match (Path.dropIdleEnd p.segments).reverse with
  | [] => .error .isADirectory
  | last :: front =>
    let place ← tree.walk maxLinks [] front.reverse
    match Name.ofBytes? last with
    | some name => .ok (tree.alter (fun _ => none) (place ++ [name]))
    | none => .error .noSuchEntry

end Tree

end PassiveFtp
