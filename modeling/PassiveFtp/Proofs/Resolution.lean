import Mathlib.Data.List.Induction
import PassiveFtp.Files.Resolve
import PassiveFtp.Proofs.Places

/-!
# Resolution ends at a real place

A walk may wind through any number of links, but each of its stops is reached
through directories alone and is no link itself: names lead into directories,
two dots lead back to where the walk has come from, and a link starts over from
such a stop. `Tree.Reached` is that invariant, told of the place and not of the
walk.

The payoff is that the path of such a place needs no link followed at all. It
resolves to the very place it spells, within any number of links, and so do the
paths of everything above it: resolving is idempotent, and what lies above a
canonical path is canonical.
-/

namespace PassiveFtp

namespace Tree

variable {tree : Tree}

/-- A place reached through directories alone that is not a link itself. -/
inductive Reached (tree : Tree) : Location → Prop
  | top : Reached tree []
  | step {here : Location} {entries : List (Name × Node)} {name : Name} {node : Node} :
      Reached tree here → tree.get? here = some (.dir entries) →
      entries.lookup name = some node → (∀ target, node ≠ .link target) →
      Reached tree (here ++ [name])

/-- What has to be there for a reached place to be one name longer. -/
theorem Reached.concat_inv {here : Location} {name : Name} (h : tree.Reached (here ++ [name])) :
    tree.Reached here ∧ ∃ entries node, tree.get? here = some (.dir entries) ∧
      entries.lookup name = some node ∧ ∀ target, node ≠ .link target := by
  generalize hplace : here ++ [name] = place at h
  cases h with
  | top => simp at hplace
  | step hbefore hdir hentry hnode =>
      obtain ⟨rfl, hname⟩ := List.append_inj' hplace rfl
      cases hname
      exact ⟨hbefore, _, _, hdir, hentry, hnode⟩

theorem Reached.of_append {front back : Location} (h : tree.Reached (front ++ back)) :
    tree.Reached front := by
  induction back using List.reverseRecOn with
  | nil => simpa using h
  | append_singleton more last ih =>
      rw [← List.append_assoc] at h
      exact ih h.concat_inv.1

theorem Reached.dropLast {place : Location} (h : tree.Reached place) :
    tree.Reached place.dropLast := by
  cases h with
  | top => exact .top
  | step hbefore _ _ _ => simpa using hbefore

/-! ## Every stop of a walk is reached -/

theorem reached_of_walk {links : Nat} {here place : Location} {segments : List Segment}
    (hhere : tree.Reached here) (h : tree.walk links here segments = .ok place) :
    tree.Reached place := by
  fun_induction walk tree links here segments with
  | case1 =>
      cases h
      exact hhere
  | case2 | case3 | case4 | case7 | case8 | case9 | case10 => cases h
  | case5 _ _ _ _ _ _ _ ih => exact ih hhere h
  | case6 _ _ _ _ _ _ ih => exact ih hhere.dropLast h
  | case11 here _ _ _ _ _ _ _ _ _ target _ _ ih =>
      refine ih ?_ h
      by_cases habsolute : target.isAbsolute = true
      · simpa [habsolute] using Reached.top
      · simpa [habsolute] using hhere
  | case12 _ _ _ _ _ hdir _ _ _ _ _ _ hnode hentry ih =>
      exact ih (.step hhere hdir hentry hnode) h

/-! ## One segment of a walk

What a segment does in a directory depends on whether it is idle, leads back or
is a name, and on what the directory has under the name. -/

section
variable {links : Nat} {here : Location} {entries : List (Name × Node)} {segment : Segment}
  {name : Name}

theorem walk_idle (rest : List Segment) (hdir : tree.get? here = some (.dir entries))
    (hidle : Path.isIdle segment = true) :
    tree.walk links here (segment :: rest) = tree.walk links here rest := by
  rw [walk, hdir]
  simp only [hidle, if_true]

theorem walk_up (rest : List Segment) (hdir : tree.get? here = some (.dir entries)) :
    tree.walk links here (dotDot :: rest) = tree.walk links here.dropLast rest := by
  rw [walk, hdir]
  rfl

theorem walk_name {node : Node} (rest : List Segment)
    (hdir : tree.get? here = some (.dir entries)) (hentry : entries.lookup name = some node)
    (hnode : ∀ target, node ≠ .link target) :
    tree.walk links here (name.bytes :: rest) = tree.walk links (here ++ [name]) rest := by
  rw [walk, hdir]
  simp only [name.not_isIdle, name.bytes_ne_dotDot, Nat.not_lt.mpr name.length_le,
    Name.ofBytes?_bytes, hentry, Bool.false_eq_true, if_false]

theorem walk_missing (rest : List Segment) (hdir : tree.get? here = some (.dir entries))
    (hentry : entries.lookup name = none) :
    tree.walk links here (name.bytes :: rest) = .error .noSuchEntry := by
  rw [walk, hdir]
  simp only [name.not_isIdle, name.bytes_ne_dotDot, Nat.not_lt.mpr name.length_le,
    Name.ofBytes?_bytes, hentry, Bool.false_eq_true, if_false]

theorem walk_link {target : Path} (rest : List Segment)
    (hdir : tree.get? here = some (.dir entries))
    (hentry : entries.lookup name = some (.link target)) :
    tree.walk links here (name.bytes :: rest) =
      match links with
      | 0 => .error .tooManyLinks
      | more + 1 =>
        tree.walk more (if target.isAbsolute then [] else here) (target.segments ++ rest) := by
  rw [walk, hdir]
  cases links <;>
    simp only [name.not_isIdle, name.bytes_ne_dotDot, Nat.not_lt.mpr name.length_le,
      Name.ofBytes?_bytes, hentry, Bool.false_eq_true, if_false]

/-- A segment that no entry can have as its name, and that is not one of the two
with a meaning, leads nowhere. -/
theorem walk_unnamed (rest : List Segment) (hdir : tree.get? here = some (.dir entries))
    (hidle : Path.isIdle segment = false) (hup : segment ≠ dotDot)
    (hname : Name.ofBytes? segment = none) :
    ∃ e, tree.walk links here (segment :: rest) = .error e := by
  rw [walk, hdir]
  simp only [hidle, hup, hname, Bool.false_eq_true, if_false]
  split <;> exact ⟨_, rfl⟩

end

/-! ## The path of a reached place follows no link -/

theorem walk_names_append {links : Nat} {here names : Location} (rest : List Segment)
    (h : tree.Reached (here ++ names)) :
    tree.walk links here (names.map Name.bytes ++ rest) = tree.walk links (here ++ names) rest := by
  induction names generalizing here with
  | nil => rw [List.map_nil, List.nil_append, List.append_nil]
  | cons name more ih =>
      rw [List.append_cons] at h ⊢
      obtain ⟨-, entries, node, hdir, hentry, hnode⟩ := h.of_append.concat_inv
      rw [List.map_cons, List.cons_append, walk_name _ hdir hentry hnode]
      exact ih h

theorem walk_names {links : Nat} {here rest : Location} (h : tree.Reached (here ++ rest)) :
    tree.walk links here (rest.map Name.bytes) = .ok (here ++ rest) := by
  have hwalk : tree.walk links here (rest.map Name.bytes ++ []) =
      tree.walk links (here ++ rest) [] := walk_names_append [] h
  rwa [List.append_nil, walk] at hwalk

/-- Locating the path of a place is walking its names. -/
theorem locate_path_eq (tree : Tree) (place : Location) :
    tree.locate place.path = (tree.walk maxLinks [] (place.map Name.bytes)).mapError .system := by
  rw [locate, if_neg (Location.zero_not_mem_path place), if_neg (by simp [Location.path_bytes])]
  cases place with
  | nil =>
      rw [Location.segments_path_nil, walk_idle _ (get?_nil tree) rfl,
        walk_idle _ (get?_nil tree) rfl]
      rfl
  | cons name rest =>
      rw [Location.segments_path_cons, walk_idle _ (get?_nil tree) rfl]

theorem locate_path {place : Location} (h : tree.Reached place) :
    tree.locate place.path = .ok place := by
  have hwalk : tree.walk maxLinks [] (place.map Name.bytes) = .ok place := walk_names h
  rw [locate_path_eq, hwalk]
  rfl

theorem canonicalize_path {place : Location} (h : tree.Reached place) :
    tree.canonicalize place.path = .ok place.path := by
  rw [canonicalize, locate_path h]
  rfl

theorem find_path {place : Location} (h : tree.Reached place) {node : Node}
    (hnode : tree.get? place = some node) : tree.find place.path = .ok node := by
  simp only [find, locate_path h, bind, Except.bind, hnode]

theorem get?_of_find {place : Location} (h : tree.Reached place) {node : Node}
    (hfind : tree.find place.path = .ok node) : tree.get? place = some node := by
  simp only [find, locate_path h, bind, Except.bind] at hfind
  split at hfind
  · next other hother =>
      cases hfind
      exact hother
  · cases hfind

theorem isDir_path {place : Location} (h : tree.Reached place) {node : Node}
    (hnode : tree.get? place = some node) : tree.isDir place.path = node.isDir := by
  rw [isDir, find_path h hnode]

/-! ## Canonical paths -/

/-- A path that is its own canonical form. -/
def Canonical (tree : Tree) (p : Path) : Prop :=
  tree.canonicalize p = .ok p

theorem locate_of_canonicalize {p q : Path} (h : tree.canonicalize p = .ok q) :
    ∃ place, tree.locate p = .ok place ∧ tree.Reached place ∧ q = place.path := by
  cases hlocate : tree.locate p with
  | error e =>
      rw [canonicalize, hlocate] at h
      cases h
  | ok place =>
      rw [canonicalize, hlocate] at h
      cases h
      refine ⟨place, rfl, ?_, rfl⟩
      simp only [locate] at hlocate
      split at hlocate
      · cases hlocate
      · split at hlocate
        · cases hlocate
        · cases hwalk : tree.walk maxLinks [] p.segments with
          | error e =>
              rw [hwalk] at hlocate
              cases hlocate
          | ok there =>
              rw [hwalk] at hlocate
              cases hlocate
              exact reached_of_walk .top hwalk

/-- The canonical paths are the paths of reached places. -/
theorem canonical_iff {p : Path} :
    tree.Canonical p ↔ ∃ place, tree.Reached place ∧ p = place.path := by
  constructor
  · intro h
    obtain ⟨place, -, hreached, hp⟩ := locate_of_canonicalize h
    exact ⟨place, hreached, hp⟩
  · rintro ⟨place, hreached, rfl⟩
    exact canonicalize_path hreached

/-- What resolution gives is canonical: resolving again changes nothing. -/
theorem canonical_of_canonicalize {p q : Path} (h : tree.canonicalize p = .ok q) :
    tree.Canonical q := by
  obtain ⟨place, -, hreached, rfl⟩ := locate_of_canonicalize h
  exact canonicalize_path hreached

/-- The path above a canonical one is canonical and leads to a directory. -/
theorem canonical_parent {p parent : Path} (h : tree.Canonical p)
    (hparent : p.parent? = some parent) :
    tree.Canonical parent ∧ tree.isDir parent = true := by
  obtain ⟨place, hreached, rfl⟩ := canonical_iff.mp h
  cases place using List.reverseRecOn with
  | nil =>
      rw [Location.parent?_path_nil] at hparent
      cases hparent
  | append_singleton front last =>
      rw [Location.parent?_path_concat] at hparent
      cases hparent
      obtain ⟨hfront, entries, node, hdir, -, -⟩ := hreached.concat_inv
      exact ⟨canonicalize_path hfront, isDir_path hfront hdir⟩

/-- A canonical path that begins with another is the path of a place below the
other's. -/
theorem Canonical.below {p base : Path} (hbase : tree.Canonical base) (hp : tree.Canonical p)
    (hwithin : p.Within base) :
    ∃ front back, base = Location.path front ∧ p = Location.path (front ++ back) := by
  obtain ⟨front, -, rfl⟩ := canonical_iff.mp hbase
  obtain ⟨place, -, rfl⟩ := canonical_iff.mp hp
  obtain ⟨back, rfl⟩ := (Location.within_path_iff place front).mp hwithin
  exact ⟨front, back, rfl, rfl⟩

theorem find_of_isDir {p : Path} (h : tree.isDir p = true) :
    ∃ entries, tree.find p = .ok (.dir entries) := by
  simp only [isDir] at h
  split at h
  · next node hfind =>
      cases node with
      | dir entries => exact ⟨entries, hfind⟩
      | file content => cases h
      | link target => cases h
  · cases h

/-- The entries of a directory can be told. -/
theorem entryNames_of_isDir {p : Path} (h : tree.isDir p = true) :
    ∃ names, tree.entryNames p = .ok names := by
  obtain ⟨entries, hfind⟩ := find_of_isDir h
  refine ⟨entries.map Prod.fst, ?_⟩
  simp only [entryNames, hfind, bind, Except.bind]

end Tree

end PassiveFtp
