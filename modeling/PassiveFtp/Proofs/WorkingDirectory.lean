import Mathlib
import PassiveFtp.Proofs.Confinement

/-!
# The working directory is the root's place and names below it

However the tree changes along a run, the working directory never becomes an
arbitrary path. It is set in two ways: to what a target resolves to, which is
spelled without anything idle, or to the path above itself. So it stays the path
of a place that begins with the root's, and every name after the root's is one
that some tree of the run has had an entry of.

Nothing here says that the place is still there. Where it leads at a later
moment is another question.
-/

namespace PassiveFtp

/-! ## Names that a tree bears -/

namespace Node

theorem get?_append (node : Node) (front back : Location) :
    node.get? (front ++ back) = (node.get? front).bind fun next => next.get? back := by
  induction front generalizing node with
  | nil => rfl
  | cons name rest ih =>
      rw [List.cons_append, get?, get?]
      cases node.child? name with
      | none => rfl
      | some next => exact ih next

end Node

namespace Tree

variable {tree : Tree}

/-- Some entry of the tree, at whatever place, has this name. -/
def Bears (tree : Tree) (name : Name) : Prop :=
  ∃ here node, tree.get? (here ++ [name]) = some node

theorem get?_concat {here : Location} {entries : List (Name × Node)}
    (hdir : tree.get? here = some (.dir entries)) (name : Name) :
    tree.get? (here ++ [name]) = entries.lookup name := by
  rw [get?, Node.get?_append, ← get?, hdir, Option.bind_some, Node.get?, Node.child?]
  cases entries.lookup name <;> rfl

/-- What stands at a reached place is there and is no link. -/
theorem Reached.node {place : Location} (h : tree.Reached place) :
    ∃ node, tree.get? place = some node ∧ ∀ target, node ≠ .link target := by
  cases h with
  | top => exact ⟨_, get?_nil tree, by simp⟩
  | step _ hdir hentry hnode => exact ⟨_, (get?_concat hdir _).trans hentry, hnode⟩

theorem Reached.bears {place : Location} (h : tree.Reached place) :
    ∀ name ∈ place, tree.Bears name := by
  induction h with
  | top => exact fun _ hname => absurd hname List.not_mem_nil
  | @step here entries name node _ hdir hentry _ ih =>
      intro other hother
      rcases List.mem_append.mp hother with hold | hnew
      · exact ih other hold
      · obtain rfl := List.mem_singleton.mp hnew
        exact ⟨here, node, (get?_concat hdir other).trans hentry⟩

end Tree

/-! ## Along a run -/

/-- A session in the directory that some names lead to from the root, each of
them with a property. -/
structure Session.Placed (base : Location) (P : Name → Prop) (session : Session) : Prop where
  root : session.root = base.path
  cwd : ∃ below, session.cwd = Location.path (base ++ below) ∧ ∀ name ∈ below, P name

/-- The path above a place that is still inside is that of the place with its
last name off. -/
theorem Location.parent?_below {base below : Location} {parent : Path}
    (hparent : (Location.path (base ++ below)).parent? = some parent)
    (hwithin : parent.Within base.path) :
    ∃ front last, below = front ++ [last] ∧ parent = Location.path (base ++ front) := by
  cases below using List.reverseRecOn with
  | append_singleton front last =>
      rw [← List.append_assoc, parent?_path_concat, Option.some.injEq] at hparent
      exact ⟨front, last, rfl, hparent.symm⟩
  | nil =>
      rw [List.append_nil] at hparent
      cases base using List.reverseRecOn with
      | nil =>
          rw [parent?_path_nil] at hparent
          cases hparent
      | append_singleton front last =>
          rw [parent?_path_concat, Option.some.injEq] at hparent
          rw [← hparent, within_path_iff] at hwithin
          have hlength := hwithin.length_le
          rw [List.length_append, List.length_singleton] at hlength
          omega

namespace Session

variable {settings : Settings} {conditions : Conditions} {session : Session} {request : Request}
  {base : Location} {P : Name → Prop}

theorem Placed.dispatch (h : session.Placed base P)
    (hbears : ∀ name, conditions.tree.Bears name → P name) :
    (dispatch settings conditions session request).session.Placed base P := by
  obtain ⟨hroot, below, hcwd, hnames⟩ := h
  obtain ⟨hsame, hmove⟩ := session_cases (dispatch_handled settings conditions session request)
  refine ⟨hsame.trans hroot, ?_⟩
  obtain hstay | ⟨target, hfound⟩ | hparent := hmove
  · exact ⟨below, hstay.trans hcwd, hnames⟩
  · obtain ⟨hcanonicalize, hwithin, -⟩ := Navigation.changeDirectory_eq_ok hfound
    obtain ⟨place, -, hreached, hplace⟩ := Tree.locate_of_canonicalize hcanonicalize
    rw [hplace, hroot, Location.within_path_iff] at hwithin
    obtain ⟨names, rfl⟩ := hwithin
    exact ⟨names, hplace, fun name hname =>
      hbears name (hreached.bears name (List.mem_append_right _ hname))⟩
  · obtain ⟨hparent, hwithin, -⟩ := Navigation.parentDirectory_eq_ok hparent
    rw [hcwd] at hparent
    rw [hroot] at hwithin
    obtain ⟨front, last, rfl, hplace⟩ := Location.parent?_below hparent hwithin
    exact ⟨front, hplace, fun name hname => hnames name (List.mem_append_left _ hname)⟩

/-- A session that begins in a canonical root is at a place below it all along,
and the names on the way there have been entries of the run's trees. -/
theorem placed_after (settings : Settings) {start : Tree} {root : Path}
    (hroot : start.Canonical root) (turns : List Turn) :
    ∃ base, root = Location.path base ∧
      ((Session.start root).after settings turns).Placed base fun name =>
        ∃ turn ∈ turns, turn.conditions.tree.Bears name := by
  obtain ⟨base, -, rfl⟩ := Tree.canonical_iff.mp hroot
  refine ⟨base, rfl, after_invariant ⟨rfl, [], ?_, ?_⟩ ?_⟩
  · rw [List.append_nil]
    rfl
  · exact fun _ hname => absurd hname List.not_mem_nil
  · exact fun turn hturn session h => h.dispatch fun name hname => ⟨turn, hturn, hname⟩

end Session

end PassiveFtp
