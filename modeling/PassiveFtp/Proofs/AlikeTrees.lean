import Mathlib
import PassiveFtp.Proofs.Confinement
import PassiveFtp.Proofs.JoinedPaths
import PassiveFtp.Proofs.ReplyTable
import PassiveFtp.Proofs.Targets

/-!
# Trees that look alike from inside a root

Two trees look alike from a root if whatever a client can name there leads, in
both, to the same place inside with the same to be seen there, or else leads
inside in neither. Nothing is said of what a name leads to that does not lead
inside: it may be missing in one tree and there in the other, be a loop of links,
a file or a directory.

Every way the server looks at a tree ends the same in two such trees. What is
asked in each case is only whether a name leads inside; all the ways of failing
that come before or after that question are answered alike. The directory above
and the listing are not looked up by a name of the client's, but they are at
places that are inside anyway.
-/

namespace PassiveFtp

/-- Two nodes with the same to be seen: files with the same bytes, directories
with entries under the same names. -/
inductive Node.Alike : Node → Node → Prop
  | file {content : List UInt8} : Alike (.file content) (.file content)
  | dir {entries others : List (Name × Node)} :
      (entries.map Prod.fst).Perm (others.map Prod.fst) → Alike (.dir entries) (.dir others)

namespace Tree

/-- A directory at or below the root, under its canonical path. -/
structure HasDirectory (tree : Tree) (root p : Path) : Prop where
  canonical : tree.Canonical p
  isDir : tree.isDir p = true
  within : p.Within root

/-- A path that leads to nothing at or below the root. -/
def Hides (tree : Tree) (root p : Path) : Prop :=
  ∀ found, tree.canonicalize p = .ok found → ¬ found.Within root

/-- A path that leads to the same place inside and the same node there, or leads
inside in neither tree. -/
inductive SeenAlike (tree peer : Tree) (root p : Path) : Prop
  | inside {found : Path} {node other : Node} :
      found.Within root → tree.canonicalize p = .ok found → peer.canonicalize p = .ok found →
      tree.find found = .ok node → peer.find found = .ok other → node.Alike other →
      SeenAlike tree peer root p
  | outside : tree.Hides root p → peer.Hides root p → SeenAlike tree peer root p

/-- Two trees in which every path the server forms for a client is seen alike:
from the root or a directory below it, for a target that asks for no parent. -/
structure AlikeWithin (tree peer : Tree) (root : Path) : Prop where
  treeRoot : tree.HasDirectory root root
  peerRoot : peer.HasDirectory root root
  seen : ∀ base target, tree.HasDirectory root base → peer.HasDirectory root base →
    TargetShape.hasParentSegment target = false →
    SeenAlike tree peer root (Navigation.clientPath root base target)

end Tree

theorem Node.Alike.symm {node other : Node} (h : node.Alike other) : other.Alike node := by
  cases h with
  | file => exact .file
  | dir hnames => exact .dir hnames.symm

theorem Node.Alike.isDir_eq {node other : Node} (h : node.Alike other) :
    node.isDir = other.isDir := by
  cases h <;> rfl

namespace Tree

variable {tree peer : Tree} {root p cwd : Path}

theorem SeenAlike.symm (h : SeenAlike tree peer root p) : SeenAlike peer tree root p := by
  cases h with
  | inside hwithin htree hpeer hnode hother halike =>
      exact .inside hwithin hpeer htree hother hnode halike.symm
  | outside htree hpeer => exact .outside hpeer htree

theorem AlikeWithin.symm (h : AlikeWithin tree peer root) : AlikeWithin peer tree root where
  treeRoot := h.peerRoot
  peerRoot := h.treeRoot
  seen := fun base target hpeer htree htarget => (h.seen base target htree hpeer htarget).symm

/-- A path that leads inside in one of two trees it is seen alike in. -/
theorem SeenAlike.of_within {found : Path} (h : SeenAlike tree peer root p)
    (hfound : tree.canonicalize p = .ok found) (hwithin : found.Within root) :
    peer.canonicalize p = .ok found ∧ ∃ node other, tree.find found = .ok node ∧
      peer.find found = .ok other ∧ node.Alike other := by
  cases h with
  | inside hplace htree hpeer hnode hother halike =>
      rw [hfound] at htree
      cases htree
      exact ⟨hpeer, _, _, hnode, hother, halike⟩
  | outside hhides _ => exact absurd hwithin (hhides found hfound)

theorem hides_of_error {e : IoError} (h : tree.locate p = .error e) : tree.Hides root p := by
  intro found hfound
  rw [canonicalize, h] at hfound
  cases hfound

theorem hides_of_locate {base place : Location} (h : tree.locate p = .ok place)
    (hbeside : ¬ base <+: place) : tree.Hides base.path p := by
  intro found hfound hwithin
  rw [canonicalize, h] at hfound
  obtain rfl : place.path = found := Except.ok.inj hfound
  exact hbeside ((Location.within_path_iff place base).mp hwithin)

end Tree

namespace Navigation

variable {tree peer : Tree} {root cwd found : Path} {target : String}

/-! ## The four ways to look at a tree -/

theorem changeDirectory_alike (h : tree.AlikeWithin peer root) (htree : tree.HasDirectory root cwd)
    (hpeer : peer.HasDirectory root cwd)
    (hfound : changeDirectory tree root cwd target = .ok found) :
    changeDirectory peer root cwd target = .ok found := by
  obtain ⟨hempty, hshape, hcanonicalize, hwithin, hdir⟩ := changeDirectory_eq_ok_iff.mp hfound
  have hseen := h.seen cwd target htree hpeer
    (TargetShape.isTraversal_eq_false_iff.mp hshape).2
  obtain ⟨hsame, node, other, hnode, hother, halike⟩ := hseen.of_within hcanonicalize hwithin
  refine changeDirectory_eq_ok_iff.mpr ⟨hempty, hshape, hsame, hwithin, ?_⟩
  rw [Tree.isDir, hnode] at hdir
  rw [Tree.isDir, hother]
  exact halike.isDir_eq.symm.trans hdir

theorem resolveFile_alike (h : tree.AlikeWithin peer root) (htree : tree.HasDirectory root cwd)
    (hpeer : peer.HasDirectory root cwd) (hfound : resolveFile tree root cwd target = .ok found) :
    resolveFile peer root cwd target = .ok found ∧ ∃ node other, tree.find found = .ok node ∧
      peer.find found = .ok other ∧ node.Alike other := by
  obtain ⟨hempty, hparent, hcanonicalize, hwithin⟩ := resolveFile_eq_ok_iff.mp hfound
  obtain ⟨hsame, hnodes⟩ :=
    (h.seen cwd target htree hpeer hparent).of_within hcanonicalize hwithin
  exact ⟨resolveFile_eq_ok_iff.mpr ⟨hempty, hparent, hsame, hwithin⟩, hnodes⟩

/-- Above a canonical path there is always a directory, so the tree does not
matter. -/
theorem parentDirectory_alike (htree : tree.Canonical cwd) (hpeer : peer.Canonical cwd) :
    parentDirectory tree root cwd = parentDirectory peer root cwd := by
  simp only [parentDirectory]
  split
  · rfl
  · cases hparent : cwd.parent?.filter fun parent => parent.Within root with
    | none => rfl
    | some parent =>
        obtain ⟨habove, -⟩ := Option.filter_eq_some_iff.mp hparent
        obtain ⟨entries, hfind⟩ := Tree.find_of_isDir (Tree.canonical_parent htree habove).2
        obtain ⟨others, hother⟩ := Tree.find_of_isDir (Tree.canonical_parent hpeer habove).2
        simp only [hfind, hother]

end Navigation

theorem Transfer.openFile_alike {tree peer : Tree} {p : Path} {node other : Node}
    (hnode : tree.find p = .ok node) (hother : peer.find p = .ok other) (h : node.Alike other)
    (fault : Option FileFault) : openFile tree p fault = openFile peer p fault := by
  simp only [openFile, hnode, hother]
  cases h with
  | file => rfl
  | dir =>
      obtain _ | ⟨e⟩ | ⟨after, e⟩ := fault
      · rfl
      · rfl
      · rfl

/-! ## Listings

A directory is listed under its own path and not under a target of the client's,
but a dot is a target that leads there. -/

namespace Listing

theorem pairwise_sorted (names : List Name) : (sorted names).Pairwise (· ≤ ·) := by
  have hpairwise : ((names.map shown).mergeSort fun s t => s ≤ t).Pairwise
      fun s t => decide (s ≤ t) = true := by
    refine List.pairwise_mergeSort (fun a b c hab hbc => ?_) (fun a b => ?_) _
    · rw [decide_eq_true_eq] at hab hbc ⊢
      exact List.le_trans hab hbc
    · rw [Bool.or_eq_true, decide_eq_true_eq, decide_eq_true_eq]
      exact List.le_total a b
  exact hpairwise.imp of_decide_eq_true

theorem body_perm {names others : List Name} (h : names.Perm others) :
    body names = body others := by
  have hperm : (sorted names).Perm (sorted others) :=
    (List.mergeSort_perm _ _).trans ((h.map shown).trans (List.mergeSort_perm _ _).symm)
  rw [body, body, hperm.eq_of_pairwise (fun _ _ _ _ hab hba => List.le_antisymm hab hba)
    (pairwise_sorted _) (pairwise_sorted _)]

theorem names_alike {tree peer : Tree} {root cwd : Path} (h : tree.AlikeWithin peer root)
    (htree : tree.HasDirectory root cwd) (hpeer : peer.HasDirectory root cwd) (sink : Sink) :
    names tree cwd sink = names peer cwd sink := by
  have hdot : Navigation.clientPath root cwd "." = cwd.join ⟨dot⟩ := rfl
  obtain ⟨-, node, other, hnode, hother, halike⟩ := (h.seen cwd "." htree hpeer rfl).of_within
    (hdot ▸ Tree.canonicalize_join_idle htree.canonical htree.isDir rfl) htree.within
  cases halike with
  | file =>
      have hdir := htree.isDir
      rw [Tree.isDir, hnode] at hdir
      cases hdir
  | dir hnames =>
      have hlength := hnames.length_eq
      simp only [names, Tree.entryNames, hnode, hother, bind, Except.bind, body_perm hnames,
        hlength]

end Listing

/-! ## A link that leads out

A root `/r` with nothing in it but a link `l` to `/o` looks the same whether there
is an `/o` or not. A walk that begins at the root stays there or at the top,
where both trees lead on to the same places, until it gets to `/o`: it ends there
in the one tree and fails in the other. -/

/-- The entries of the root. -/
def linkOut : List (Name × Node) :=
  [(.letter 'l', .link ⟨[0x2F, 0x6F]⟩)]

/-- The tree in which the link leads to a file. -/
def leadingToFile : Tree :=
  ⟨[(.letter 'r', .dir linkOut), (.letter 'o', .file [9])]⟩

/-- The tree in which the link leads nowhere. -/
def leadingNowhere : Tree :=
  ⟨[(.letter 'r', .dir linkOut)]⟩

/-- What becomes of one walk in the two trees. -/
inductive SameOrOut : Except SystemError Location → Except SystemError Location → Prop
  | same {place : Location} :
      place = [] ∨ place = [.letter 'r'] → SameOrOut (.ok place) (.ok place)
  | out {e : SystemError} : SameOrOut (.ok [.letter 'o']) (.error e)
  | failed {e other : SystemError} : SameOrOut (.error e) (.error other)

theorem sameOrOut_of_out {links : Nat} {rest : List Segment} {e : SystemError} :
    SameOrOut (leadingToFile.walk links [.letter 'o'] rest) (.error e) := by
  rw [Tree.walk.eq_def]
  cases rest with
  | nil => exact .out
  | cons segment more => exact .failed

theorem sameOrOut_of_top {links : Nat} {rest : List Segment} (name : Name)
    (h : SameOrOut (leadingToFile.walk links [.letter 'r'] rest)
      (leadingNowhere.walk links [.letter 'r'] rest)) :
    SameOrOut (leadingToFile.walk links [] (name.bytes :: rest))
      (leadingNowhere.walk links [] (name.bytes :: rest)) := by
  have htop : leadingToFile.get? [] = some (.dir leadingToFile.entries) := rfl
  have htop' : leadingNowhere.get? [] = some (.dir leadingNowhere.entries) := rfl
  by_cases hroot : name = .letter 'r'
  · subst hroot
    rw [Tree.walk_name rest htop rfl (by simp), Tree.walk_name rest htop' rfl (by simp)]
    exact h
  · rw [Tree.walk_missing rest htop' (by
      simp [leadingNowhere, List.lookup, beq_false_of_ne hroot])]
    by_cases hout : name = .letter 'o'
    · subst hout
      rw [Tree.walk_name rest htop rfl (by simp)]
      exact sameOrOut_of_out
    · rw [Tree.walk_missing rest htop (by
        simp [leadingToFile, List.lookup, beq_false_of_ne hroot, beq_false_of_ne hout])]
      exact .failed

theorem sameOrOut_of_root {links : Nat} {rest : List Segment} (name : Name) :
    SameOrOut (leadingToFile.walk links [.letter 'r'] (name.bytes :: rest))
      (leadingNowhere.walk links [.letter 'r'] (name.bytes :: rest)) := by
  have hroot : leadingToFile.get? [.letter 'r'] = some (.dir linkOut) := rfl
  have hroot' : leadingNowhere.get? [.letter 'r'] = some (.dir linkOut) := rfl
  by_cases hlink : name = .letter 'l'
  · subst hlink
    rw [Tree.walk_link rest hroot rfl, Tree.walk_link rest hroot' rfl]
    cases links with
    | zero => exact .failed
    | succ more =>
        show SameOrOut (leadingToFile.walk more [] ([] :: (Name.letter 'o').bytes :: rest))
          (leadingNowhere.walk more [] ([] :: (Name.letter 'o').bytes :: rest))
        have htop' : leadingNowhere.get? [] = some (.dir leadingNowhere.entries) := rfl
        rw [Tree.walk_idle _ (Tree.get?_nil _) rfl, Tree.walk_idle _ htop' rfl,
          Tree.walk_missing rest htop' rfl, Tree.walk_name rest (Tree.get?_nil _) rfl (by simp)]
        exact sameOrOut_of_out
  · have hnone : linkOut.lookup name = none := by
      simp [linkOut, List.lookup, beq_false_of_ne hlink]
    rw [Tree.walk_missing rest hroot hnone, Tree.walk_missing rest hroot' hnone]
    exact .failed

theorem sameOrOut_walk {here : Location} (hhere : here = [] ∨ here = [.letter 'r']) (links : Nat)
    (segments : List Segment) :
    SameOrOut (leadingToFile.walk links here segments)
      (leadingNowhere.walk links here segments) := by
  induction segments generalizing here with
  | nil =>
      rw [Tree.walk, Tree.walk]
      exact .same hhere
  | cons segment rest ih =>
      obtain ⟨entries, others, hdir, hother⟩ : ∃ entries others,
          leadingToFile.get? here = some (.dir entries) ∧
            leadingNowhere.get? here = some (.dir others) := by
        rcases hhere with rfl | rfl
        · exact ⟨_, _, rfl, rfl⟩
        · exact ⟨_, _, rfl, rfl⟩
      cases hname : Name.ofBytes? segment with
      | some name =>
          obtain rfl := Name.bytes_of_ofBytes? hname
          rcases hhere with rfl | rfl
          · exact sameOrOut_of_top name (ih (.inr rfl))
          · exact sameOrOut_of_root name
      | none =>
          by_cases hidle : Path.isIdle segment = true
          · rw [Tree.walk_idle rest hdir hidle, Tree.walk_idle rest hother hidle]
            exact ih hhere
          · by_cases hup : segment = dotDot
            · subst hup
              rw [Tree.walk_up rest hdir, Tree.walk_up rest hother]
              refine ih (.inl ?_)
              rcases hhere with rfl | rfl <;> rfl
            · have hidle := Bool.eq_false_iff.mpr hidle
              obtain ⟨e, he⟩ : ∃ e, leadingToFile.walk links here (segment :: rest) = .error e :=
                Tree.walk_unnamed rest hdir hidle hup hname
              obtain ⟨e', he'⟩ : ∃ e, leadingNowhere.walk links here (segment :: rest) = .error e :=
                Tree.walk_unnamed rest hother hidle hup hname
              rw [he, he']
              exact .failed

/-- The link looks alike from the root, whether it leads to a file or nowhere. -/
theorem alikeWithin_leading :
    leadingToFile.AlikeWithin leadingNowhere (Location.path [.letter 'r']) := by
  have hreached : leadingToFile.Reached [.letter 'r'] :=
    .step .top (Tree.get?_nil _) rfl (fun _ h => by cases h)
  have hreached' : leadingNowhere.Reached [.letter 'r'] :=
    .step .top (Tree.get?_nil _) rfl (fun _ h => by cases h)
  refine ⟨⟨Tree.canonicalize_path hreached, Tree.isDir_path hreached rfl, Path.Within.refl _⟩,
    ⟨Tree.canonicalize_path hreached', Tree.isDir_path hreached' rfl, Path.Within.refl _⟩, ?_⟩
  intro base target hbase _ _
  -- nothing but a link lies below the root, so there is no base but the root
  obtain rfl : base = Location.path [.letter 'r'] := by
    obtain ⟨place, hplace, rfl⟩ := Tree.canonical_iff.mp hbase.canonical
    obtain ⟨below, rfl⟩ := (Location.within_path_iff _ _).mp hbase.within
    cases below with
    | nil => rfl
    | cons name rest =>
        rw [List.append_cons] at hplace
        obtain ⟨-, entries, node, hdir, hentry, hnode⟩ := hplace.of_append.concat_inv
        obtain rfl : linkOut = entries := Node.dir.inj (Option.some.inj hdir)
        by_cases hlink : name = .letter 'l'
        · subst hlink
          exact absurd (Option.some.inj hentry).symm (hnode _)
        · simp [linkOut, List.lookup, beq_false_of_ne hlink] at hentry
  have hrest := Target.head?_unrooted_ne target
  rw [Navigation.clientPath_eq, ite_self]
  generalize Target.unrooted target = rest at hrest ⊢
  have hlocate := Tree.locate_join hreached hrest
  have hlocate' := Tree.locate_join hreached' hrest
  by_cases hzero : 0 ∈ rest
  · rw [if_pos hzero] at hlocate hlocate'
    exact .outside (Tree.hides_of_error hlocate) (Tree.hides_of_error hlocate')
  · rw [if_neg hzero] at hlocate hlocate'
    have hwalks := sameOrOut_walk (.inr rfl) maxLinks (rest.splitOn slash)
    generalize leadingToFile.walk maxLinks [.letter 'r'] (rest.splitOn slash) = walked
      at hlocate hwalks
    generalize leadingNowhere.walk maxLinks [.letter 'r'] (rest.splitOn slash) = other
      at hlocate' hwalks
    cases hwalks with
    | same hplace =>
        rcases hplace with rfl | rfl
        · exact .outside (Tree.hides_of_locate hlocate (by simp))
            (Tree.hides_of_locate hlocate' (by simp))
        · have hfound := congrArg (Except.map Location.path) hlocate
          have hfound' := congrArg (Except.map Location.path) hlocate'
          exact .inside (Path.Within.refl _) hfound hfound' (Tree.find_path hreached rfl)
            (Tree.find_path hreached' rfl) (.dir (List.Perm.refl _))
    | out =>
        exact .outside (Tree.hides_of_locate hlocate (by decide)) (Tree.hides_of_error hlocate')
    | failed => exact .outside (Tree.hides_of_error hlocate) (Tree.hides_of_error hlocate')

end PassiveFtp
