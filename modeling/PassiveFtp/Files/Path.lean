import PassiveFtp.Files.Name
import PassiveFtp.Text.Utf8

/-!
# Paths: the text, and the components behind it

A path is kept as the bytes it was written with, because that is what is shown
to people, but it is compared by components. Repeated slashes, a trailing slash
and a `.` inside are written down and mean nothing; a `.` at the very start of
a relative path counts, and `..` is a component like any other — nothing here
looks at a file system, so nothing here can know what `..` undoes.

Shortening a path works on the text: whatever remains keeps its spelling, apart
from idle segments that would be left dangling at its ends.
-/

namespace PassiveFtp

/-- What stands between two slashes of a path. -/
abbrev Segment := List UInt8

/-- A path as it is written. -/
structure Path where
  bytes : List UInt8
deriving DecidableEq

namespace Path

/-- One step of a path, spelling aside. -/
inductive Component where
  | top
  | here
  | up
  | name (bytes : List UInt8)
deriving DecidableEq

/-- Where a path starts: at the top, at an explicit `.`, or wherever its reader
happens to be. -/
inductive Anchor where
  | top
  | here
  | bare
deriving DecidableEq

/-- The path a text spells. -/
def ofString (text : String) : Path :=
  ⟨Utf8.ofString text⟩

/-- The path as text, bytes that are not text replaced. -/
def text (p : Path) : String :=
  Utf8.toStringLossy p.bytes

/-- The pieces between the slashes, empty ones included. -/
def segments (p : Path) : List Segment :=
  p.bytes.splitOn slash

/-- Whether a path starts at the top. -/
def isAbsolute (p : Path) : Bool :=
  p.bytes.head? == some slash

/-- Whether a segment names no step. -/
def isIdle (segment : Segment) : Bool :=
  segment == [] || segment == dot

/-- A path cut into its anchor and the segments after it. -/
def anchored (p : Path) : Anchor × List Segment :=
  match p.segments with
  | [] :: next :: body => (.top, next :: body)
  | first :: body => if first = dot then (.here, body) else (.bare, first :: body)
  | [] => (.bare, [])

/-- The component of a segment after the anchor. -/
def Component.ofSegment? (segment : Segment) : Option Component :=
  if isIdle segment then none
  else if segment = dotDot then some .up
  else some (.name segment)

/-- The component that an anchor stands for. -/
def Anchor.components : Anchor → List Component
  | .top => [.top]
  | .here => [.here]
  | .bare => []

/-- The components of a path in order. -/
def components (p : Path) : List Component :=
  let (anchor, body) := p.anchored
  anchor.components ++ body.filterMap Component.ofSegment?

/-- Two paths with the same components. -/
def Same (p q : Path) : Prop :=
  p.components = q.components

instance (p q : Path) : Decidable (Same p q) :=
  inferInstanceAs (Decidable (_ = _))

/-- A path whose components begin with those of `base`: the base itself, or
something below it. A name that merely begins with the base's last name is not
below it. -/
def Within (p base : Path) : Prop :=
  base.components <+: p.components

instance (p base : Path) : Decidable (Within p base) :=
  inferInstanceAs (Decidable (_ <+: _))

/-- The text of an anchor and the segments after it. -/
def render : Anchor → List Segment → Path
  | .top, body => ⟨slash :: [slash].intercalate body⟩
  | .here, [] => ⟨dot⟩
  | .here, body => ⟨dot ++ slash :: [slash].intercalate body⟩
  | .bare, body => ⟨[slash].intercalate body⟩

/-- Segments without the idle ones at the end. -/
def dropIdleEnd (body : List Segment) : List Segment :=
  (body.reverse.dropWhile isIdle).reverse

/-- Segments without the idle ones at either end. -/
def dropIdleEnds (body : List Segment) : List Segment :=
  dropIdleEnd (body.dropWhile isIdle)

/-- The segments that are left after the first `count` that name a step. -/
def dropSteps : Nat → List Segment → List Segment
  | 0, body => body
  | _ + 1, [] => []
  | count + 1, segment :: body =>
    if isIdle segment then dropSteps (count + 1) body else dropSteps count body

/-- The path without its last component, if it has one that can be taken off. -/
def parent? (p : Path) : Option Path :=
  let (anchor, body) := p.anchored
  match (dropIdleEnd body).reverse with
  | _ :: front => some (render anchor (dropIdleEnd front.reverse))
  | [] => if anchor = .here then some ⟨[]⟩ else none

/-- What is left of a path after the components of `base`, if it begins with
them. -/
def relativeTo? (p base : Path) : Option Path :=
  if p.Within base then
    let (anchor, body) := p.anchored
    if base.components = [] then some (render anchor (dropIdleEnd body))
    else
      let steps := base.components.length - anchor.components.length
      some (render .bare (dropIdleEnds (dropSteps steps body)))
  else none

/-- A path read from `p` on: an absolute one stands for itself, any other is
written after `p` with exactly one slash added where there is none. -/
def join (p q : Path) : Path :=
  if q.isAbsolute then q
  else if p.bytes = [] ∨ p.bytes.getLast? = some slash then ⟨p.bytes ++ q.bytes⟩
  else ⟨p.bytes ++ slash :: q.bytes⟩

end Path

/-- The absolute path of a place in a tree, spelled without anything idle. -/
def Location.path (place : Location) : Path :=
  Path.render .top (place.map Name.bytes)

end PassiveFtp
