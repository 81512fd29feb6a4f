import Mathlib
import PassiveFtp.Proofs.LexicalResolution
import PassiveFtp.Proofs.ListedPlaces
import PassiveFtp.Proofs.ShownPaths

/-!
# Climbing ends at the root

Over a tree that stays as it is a working directory is its own canonical path, so
every directory above it is there. A request for the directory above therefore takes
off one name, as long as there is one below the root, and shows the path that was
left. At the root nothing is taken off: the comparison with the root comes first, and
the refusal shows the root again.

The names below the root are what a run of such requests counts down. Whatever the
run's length, the session it leaves has as many names less, and none too many.
-/

namespace PassiveFtp

/-- A path with some of its last components taken off, one at a time. -/
def Path.shortened (p : Path) : Nat → Path
  | 0 => p
  | n + 1 => (p.shortened n).parent?.getD (p.shortened n)

/-- A turn over a tree in which the client asks for the directory above. -/
structure Turn.Climbs (tree : Tree) (turn : Turn) : Prop where
  tree : turn.conditions.tree = tree
  verb : turn.request.verb = .cdup
  spaces : turn.request.spaces = 0

/-- A session that is logged in and at a canonical path, with these names below the
root's. -/
structure Session.Below (tree : Tree) (base below : Location) (session : Session) : Prop where
  loggedIn : session.loggedIn = true
  root : session.root = base.path
  cwd : session.cwd = Location.path (base ++ below)
  canonical : tree.Canonical session.cwd

namespace Location

/-- As long as not all names are off, there is a last one. -/
theorem take_sub_eq_concat {below : Location} {n : Nat} (h : n < below.length) :
    ∃ last, below.take (below.length - n) = below.take (below.length - (n + 1)) ++ [last] := by
  refine ⟨below[below.length - (n + 1)], ?_⟩
  rw [← List.take_succ_eq_append_getElem]
  congr 1
  omega

theorem shortened_path (base below : Location) {n : Nat} (h : n ≤ below.length) :
    (path (base ++ below)).shortened n = path (base ++ below.take (below.length - n)) := by
  induction n with
  | zero => rw [Nat.sub_zero, List.take_length, Path.shortened]
  | succ n ih =>
      obtain ⟨last, hlast⟩ := take_sub_eq_concat h
      rw [Path.shortened, ih (by omega), hlast, ← List.append_assoc, parent?_path_concat,
        Option.getD_some]

/-- What is left of the components when some names below a place are off. -/
theorem components_shortened (base below : Location) {n : Nat} (h : n ≤ below.length) :
    ((path (base ++ below)).shortened n).components =
      (path (base ++ below)).components.take ((path (base ++ below)).components.length - n) := by
  have hlength : (path (base ++ below)).components.length - n =
      base.length + (below.length - n) + 1 := by
    rw [components_path, List.length_cons, List.length_map, List.length_append]
    omega
  rw [shortened_path base below h, hlength, components_path, components_path, List.take_succ_cons,
    ← List.map_take, List.take_length_add_append]

end Location

/-! ## One climb -/

namespace Navigation

variable {tree : Tree} {root p parent : Path}

theorem parentDirectory_root : parentDirectory tree root root = .error .atRoot := by
  have hsame : root.Same root := rfl
  rw [parentDirectory, if_pos hsame]

/-- The directory above a canonical path is there. -/
theorem parentDirectory_of_canonical (hp : tree.Canonical p) (hparent : p.parent? = some parent)
    (hwithin : parent.Within root) (hbelow : ¬ p.Same root) :
    parentDirectory tree root p = .ok parent := by
  obtain ⟨-, hdir⟩ := Tree.canonical_parent hp hparent
  obtain ⟨entries, hfind⟩ := Tree.find_of_isDir hdir
  rw [parentDirectory, if_neg hbelow, hparent, Option.filter_some_pos (by simpa using hwithin)]
  simp only [hfind]

end Navigation

namespace Session

variable {settings : Settings} {tree : Tree} {session : Session} {turn : Turn}
  {base below front : Location} {last : Name}

theorem Below.outcome (h : session.Below tree base below) (hturn : turn.Climbs tree) :
    turn.outcome settings session = Dispatch.cdup turn.conditions session := by
  have hpassed : Passed session turn.request :=
    ⟨h.loggedIn, by rw [hturn.verb, hturn.spaces]; rfl⟩
  rw [Turn.outcome, dispatch_of_passed hpassed, Dispatch.handle, hturn.verb]

/-- At the root a climb is refused, and nothing changes. -/
theorem Below.outcome_nil (h : session.Below tree base []) (hturn : turn.Climbs tree) :
    turn.outcome settings session = .saying session (.coded .fileUnavailable "/") := by
  have hroot : session.cwd = session.root := by rw [h.cwd, h.root, List.append_nil]
  have hshown : Navigation.virtualPath session.root session.cwd = "/" := by
    rw [hroot, h.root, Navigation.virtualPath_root]
  rw [h.outcome hturn, Dispatch.cdup, hshown, hroot, Navigation.parentDirectory_root]
  rfl

theorem Below.parent? (h : session.Below tree base (front ++ [last])) :
    session.cwd.parent? = some (Location.path (base ++ front)) := by
  rw [h.cwd, ← List.append_assoc, Location.parent?_path_concat]

/-- Below the root a climb takes the last name off and shows the path with it. -/
theorem Below.outcome_concat (h : session.Below tree base (front ++ [last]))
    (hturn : turn.Climbs tree) :
    turn.outcome settings session =
      .saying { session with cwd := Location.path (base ++ front) }
        (.coded .commandOk (Navigation.virtualPath session.root session.cwd)) := by
  have hwithin : (Location.path (base ++ front)).Within session.root := by
    rw [h.root, Location.within_path_iff]
    exact List.prefix_append base front
  have hbelow : ¬ session.cwd.Same session.root := by
    intro hsame
    have hlength := congrArg List.length hsame
    rw [h.cwd, h.root, Location.components_path, Location.components_path] at hlength
    simp at hlength
  rw [h.outcome hturn, Dispatch.cdup, hturn.tree,
    Navigation.parentDirectory_of_canonical h.canonical h.parent? hwithin hbelow]

theorem Below.climbed (h : session.Below tree base (front ++ [last])) :
    { session with cwd := Location.path (base ++ front) }.Below tree base front :=
  ⟨h.loggedIn, h.root, rfl, (Tree.canonical_parent h.canonical h.parent?).1⟩

theorem Below.shortened (h : session.Below tree base below) {n : Nat} (hn : n ≤ below.length) :
    session.cwd.shortened n = Location.path (base ++ below.take (below.length - n)) := by
  rw [h.cwd, Location.shortened_path base below hn]

/-! ## A run of climbs -/

/-- A run of climbs takes off as many names as there are, one for each. -/
theorem Below.after_climbs {climbs : List Turn} (h : session.Below tree base below)
    (hclimbs : ∀ turn ∈ climbs, turn.Climbs tree) :
    session.after settings climbs =
        { session with cwd := Location.path (base ++ below.take (below.length - climbs.length)) } ∧
      (session.after settings climbs).Below tree base
        (below.take (below.length - climbs.length)) := by
  -- Each turn takes a name off at the end, so the cases of the names are taken there.
  induction climbs generalizing session below with
  | nil =>
      rw [after_nil, List.length_nil, Nat.sub_zero, List.take_length, ← h.cwd]
      exact ⟨rfl, h⟩
  | cons turn rest ih =>
      obtain ⟨hturn, hrest⟩ := List.forall_mem_cons.mp hclimbs
      rw [after_cons]
      cases below using List.reverseRecOn with
      | nil =>
          rw [h.outcome_nil hturn]
          show session.after settings rest = _ ∧ (session.after settings rest).Below tree base _
          simpa using ih h hrest
      | append_singleton front last =>
          have hnames : (front ++ [last]).take ((front ++ [last]).length - (turn :: rest).length) =
              front.take (front.length - rest.length) := by
            rw [List.length_append, List.length_singleton, List.length_cons, Nat.add_sub_add_right,
              List.take_append_of_le_length (Nat.sub_le _ _)]
          rw [h.outcome_concat hturn, hnames]
          exact ih h.climbed hrest

/-- Where a session is after so many climbs of a run. -/
theorem Below.after_take {climbs : List Turn} (h : session.Below tree base below)
    (hclimbs : ∀ turn ∈ climbs, turn.Climbs tree) {i : Nat} (hi : i ≤ climbs.length) :
    session.after settings (climbs.take i) =
        { session with cwd := session.cwd.shortened (min i below.length) } ∧
      (session.after settings (climbs.take i)).Below tree base
        (below.take (below.length - i)) := by
  obtain ⟨hsame, hthere⟩ : session.after settings (climbs.take i) = _ ∧ _ :=
    h.after_climbs fun turn hturn => hclimbs turn (List.mem_of_mem_take hturn)
  rw [List.length_take_of_le hi] at hsame hthere
  have hleft : below.length - min i below.length = below.length - i := by omega
  refine ⟨?_, hthere⟩
  rw [hsame, h.shortened (Nat.min_le_right _ _), hleft]

/-- A turn of the run that finds a name below the root. -/
theorem Below.climb_of_lt {climbs : List Turn} (h : session.Below tree base below)
    (hclimbs : ∀ turn ∈ climbs, turn.Climbs tree) {i : Nat} (hturn : climbs[i]? = some turn)
    (hless : i < below.length) :
    (session.after settings (climbs.take i)).cwd.parent? = some (session.cwd.shortened (i + 1)) ∧
      turn.outcome settings (session.after settings (climbs.take i)) =
        .saying { session with cwd := session.cwd.shortened (i + 1) }
          (.coded .commandOk (Navigation.virtualPath base.path (session.cwd.shortened i))) := by
  obtain ⟨hi, -⟩ := List.getElem?_eq_some_iff.mp hturn
  obtain ⟨hsame, hhere⟩ : session.after settings (climbs.take i) = _ ∧ _ :=
    h.after_take hclimbs hi.le
  obtain ⟨last, hlast⟩ := Location.take_sub_eq_concat hless
  rw [hlast] at hhere
  have hclimb := hclimbs turn (List.mem_of_getElem? hturn)
  refine ⟨by rw [hhere.parent?, h.shortened hless], ?_⟩
  rw [hhere.outcome_concat hclimb, ← h.shortened hless, hsame, Nat.min_eq_left hless.le, ← h.root]

/-- A turn of the run that finds none. -/
theorem Below.climb_of_le {climbs : List Turn} (h : session.Below tree base below)
    (hclimbs : ∀ turn ∈ climbs, turn.Climbs tree) {i : Nat} (hturn : climbs[i]? = some turn)
    (hmore : below.length ≤ i) :
    (session.after settings (climbs.take i)).cwd = base.path ∧
      turn.outcome settings (session.after settings (climbs.take i)) =
        .saying (session.after settings (climbs.take i)) (.coded .fileUnavailable "/") := by
  obtain ⟨hi, -⟩ := List.getElem?_eq_some_iff.mp hturn
  obtain ⟨-, hhere⟩ : session.after settings (climbs.take i) = _ ∧ _ :=
    h.after_take hclimbs hi.le
  rw [Nat.sub_eq_zero_of_le hmore, List.take_zero] at hhere
  exact ⟨by rw [hhere.cwd, List.append_nil],
    hhere.outcome_nil (hclimbs turn (List.mem_of_getElem? hturn))⟩

/-- Over a tree that stays as it is, the session that a run from a canonical directory
leaves is below the root. -/
theorem below_after {root : Path} {turns : List Turn} (hroot : tree.Canonical root)
    (hdir : tree.isDir root = true) (hstill : ∀ turn ∈ turns, turn.conditions.tree = tree)
    (hlogged : ((Session.start root).after settings turns).loggedIn = true) :
    ∃ base below, root = Location.path base ∧
      ((Session.start root).after settings turns).Below tree base below := by
  obtain ⟨hsame, hwithin⟩ := inside_after settings root turns
  obtain ⟨hcanonical, -⟩ : ((Session.start root).after settings turns).Settled tree :=
    settled_after hroot hdir hstill
  obtain ⟨base, below, rfl, hcwd⟩ := hroot.below hcanonical hwithin
  exact ⟨base, below, rfl, hlogged, hsame, hcwd, hcanonical⟩

end Session

/-- Asking for the directory above leads to the root and no further. Over a tree that
stays as it is, take any run from a canonical root that leaves a client logged in, the
working directory some components below the root, and any number of such requests
after it. The first ones, as many as there are components, are answered with 200 and
the path that is left, and each goes to the directory above; all that follow are
answered with 550 and `/`, and the working directory stays the root. -/
theorem climbs_to_root_and_stops (settings : Settings) {tree : Tree} {root : Path}
    (hroot : tree.Canonical root) (hdir : tree.isDir root = true) (turns : List Turn)
    (hstill : ∀ turn ∈ turns, turn.conditions.tree = tree)
    (hlogged : ((Session.start root).after settings turns).loggedIn = true) {depth : Nat}
    (hdepth : ((Session.start root).after settings turns).cwd.components.length =
      root.components.length + depth)
    {climbs : List Turn} (hclimbs : ∀ turn ∈ climbs, turn.Climbs tree) :
    let session := (Session.start root).after settings turns
    session.cwd.shortened depth = root ∧
    (∀ i ≤ depth, (session.cwd.shortened i).components =
      session.cwd.components.take (session.cwd.components.length - i)) ∧
    (∀ i ≤ climbs.length, session.after settings (climbs.take i) =
      { session with cwd := session.cwd.shortened (min i depth) }) ∧
    ∀ i turn, climbs[i]? = some turn →
      let here := session.after settings (climbs.take i)
      (i < depth → here.cwd.parent? = some (session.cwd.shortened (i + 1)) ∧
        turn.outcome settings here =
          .saying { session with cwd := session.cwd.shortened (i + 1) }
            (.coded .commandOk (Navigation.virtualPath root (session.cwd.shortened i)))) ∧
      (depth ≤ i → here.cwd = root ∧
        turn.outcome settings here = .saying here (.coded .fileUnavailable "/")) := by
  intro session
  obtain ⟨base, below, rfl, hbelow⟩ := Session.below_after hroot hdir hstill hlogged
  obtain rfl : below.length = depth := by
    rw [hbelow.cwd, Location.components_path, Location.components_path] at hdepth
    simp at hdepth
    omega
  refine ⟨?_, fun i hi => ?_, fun i hi => (hbelow.after_take hclimbs hi).1,
    fun i turn hturn => ⟨hbelow.climb_of_lt hclimbs hturn, hbelow.climb_of_le hclimbs hturn⟩⟩
  · rw [hbelow.shortened le_rfl, Nat.sub_self, List.take_zero, List.append_nil]
  · rw [hbelow.cwd, Location.components_shortened base below hi]

/-- A client in `a` is told so as it climbs to the root, and that it is there when it
climbs again. -/
theorem climbs_to_root_and_stops_nested :
    let climb : Turn :=
      { besideTurn nestedTree .cdup none 0 with request := Request.parse "CDUP" }
    let session := (Session.start (.ofString "/r")).after {}
      [besideTurn nestedTree .user (some "cs317") 1, besideTurn nestedTree .cwd (some "a") 1]
    climb.outcome {} session =
        .saying { session with cwd := .ofString "/r" } (.coded .commandOk "/a") ∧
      climb.outcome {} (session.after {} [climb]) =
        .saying (session.after {} [climb]) (.coded .fileUnavailable "/") := by
  intro climb session
  have hsession : session =
      { root := .ofString "/r", cwd := .ofString "/r/a", loggedIn := true } := by
    have hmoved : ((besideTurn nestedTree .cwd (some "a") 1).outcome {}
        { Session.start (.ofString "/r") with loggedIn := true }).session =
          { root := .ofString "/r", cwd := .ofString "/r/a", loggedIn := true } := by cbv
    exact hmoved
  have hclimb : climb.Climbs nestedTree := ⟨rfl, by cbv, by cbv⟩
  have hrun := @climbs_to_root_and_stops {} nestedTree (.ofString "/r") (by cbv) (by cbv)
    [besideTurn nestedTree .user (some "cs317") 1, besideTurn nestedTree .cwd (some "a") 1]
    (by simp [besideTurn]) (by rw [show Session.after _ _ _ = _ from hsession]) 1
    (by rw [show Session.after _ _ _ = _ from hsession]; cbv) [climb, climb] (by simp [hclimb])
  obtain ⟨hroot, -, -, hturns⟩ : session.cwd.shortened 1 = .ofString "/r" ∧ _ := hrun
  have hfirst : climb.outcome {} session = .saying { session with cwd := session.cwd.shortened 1 }
      (.coded .commandOk (Navigation.virtualPath (.ofString "/r") session.cwd)) :=
    ((hturns 0 climb rfl).1 Nat.zero_lt_one).2
  have hshown : Navigation.virtualPath (.ofString "/r") session.cwd = "/a" := by
    rw [hsession]
    cbv
  rw [hshown, hroot] at hfirst
  exact ⟨hfirst, ((hturns 1 climb rfl).2 le_rfl).2⟩

end PassiveFtp
