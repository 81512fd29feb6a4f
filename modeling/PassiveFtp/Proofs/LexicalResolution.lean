import Mathlib
import PassiveFtp.Proofs.AlikeTrees
import PassiveFtp.Proofs.WorkingDirectory

/-!
# Without links, a target leads where it is spelled

Where no link lies at or below the root, to follow a target is to look names up.
An idle segment asks for a directory and stays in it, a name goes one entry down,
and nothing leads back. So the outcome can be read off the text: the path the
target spells is the root or the working directory with the steps written after
it, and it is reached if something stands there, a directory if the last segment
is idle.

A walk fails at a missing entry, at a file on the way or at a segment that no
entry can have as its name. Each of these is a place that is not there, and none
of them is an escape from the root: what is spelled below the root is below it.
-/

namespace PassiveFtp

/-- No link lies at or below a path. -/
def Tree.LinkFree (tree : Tree) (root : Path) : Prop :=
  ∀ place target, (Location.path place).Within root → tree.get? place ≠ some (.link target)

/-- What stands at a path, its names looked up one by one and no link followed. -/
def Tree.StandsAt (tree : Tree) (p : Path) (node : Node) : Prop :=
  ∃ place, p = Location.path place ∧ tree.get? place = some node

/-- The path a target spells: the root or the working directory, and the target's
steps after it. -/
def Target.spelled (root cwd : Path) (target : String) : Path :=
  (if isRooted target then root else cwd).descend (steps target)

/-- Whether the last segment of a target names a step. -/
def Target.EndsInStep (target : String) : Prop :=
  ∀ last, (segments target).getLast? = some last → isIdle last = false

namespace Tree

variable {tree : Tree} {links : Nat} {here place : Location}

/-- Nothing lies below a file. -/
theorem get?_below_file {content : List UInt8} (h : tree.get? here = some (.file content))
    (name : Name) (rest : Location) : tree.get? (here ++ name :: rest) = none := by
  rw [get?, Node.get?_append, ← get?, h]
  rfl

/-- Nothing lies below an entry that is missing. -/
theorem get?_below_missing {entries : List (Name × Node)} {name : Name}
    (hdir : tree.get? here = some (.dir entries)) (hentry : entries.lookup name = none)
    (rest : Location) : tree.get? (here ++ name :: rest) = none := by
  rw [List.append_cons, get?, Node.get?_append, ← get?, get?_concat hdir, hentry]
  rfl

/-- What segments without two dots come to from a place: the names among them have
to be there, and an idle segment at the end wants a directory. -/
def Spells (tree : Tree) (here : Location) (segments : List Segment) (place : Location) : Prop :=
  ∃ names node, place = here ++ names ∧
    segments.filter (!Path.isIdle ·) = names.map Name.bytes ∧ tree.get? place = some node ∧
    (segments.getLast?.any Path.isIdle = true → node.isDir = true)

theorem spells_nil {node : Node} (hnode : tree.get? here = some node) :
    tree.Spells here [] place ↔ here = place := by
  constructor
  · rintro ⟨names, -, rfl, hnames, -, -⟩
    rw [List.map_eq_nil_iff.mp hnames.symm, List.append_nil]
  · rintro rfl
    exact ⟨[], node, (List.append_nil _).symm, rfl, hnode, by simp⟩

/-- An idle segment is idle, except that it has to be in a directory. -/
theorem spells_idle {entries : List (Name × Node)} {segment : Segment} {rest : List Segment}
    (hdir : tree.get? here = some (.dir entries)) (hidle : Path.isIdle segment = true) :
    tree.Spells here (segment :: rest) place ↔ tree.Spells here rest place := by
  have hfilter : (segment :: rest).filter (!Path.isIdle ·) = rest.filter (!Path.isIdle ·) :=
    List.filter_cons_of_neg (by simp [hidle])
  cases rest with
  | nil =>
      rw [spells_nil hdir]
      constructor
      · rintro ⟨names, -, rfl, hnames, -, -⟩
        rw [hfilter, List.filter_nil, eq_comm, List.map_eq_nil_iff] at hnames
        rw [hnames, List.append_nil]
      · rintro rfl
        exact ⟨[], _, (List.append_nil _).symm, hfilter, hdir, fun _ => rfl⟩
  | cons next more => simp only [Spells, hfilter, List.getLast?_cons_cons]

/-- A segment that is no entry's name spells nothing. -/
theorem not_spells_unnamed {segment : Segment} {rest : List Segment}
    (hidle : Path.isIdle segment = false) (hname : Name.ofBytes? segment = none) :
    ¬ tree.Spells here (segment :: rest) place := by
  rintro ⟨names, -, -, hnames, -, -⟩
  rw [List.filter_cons_of_pos (by simp [hidle])] at hnames
  obtain ⟨name, more, -, hbytes, -⟩ := List.map_eq_cons_iff.mp hnames.symm
  rw [← hbytes, Name.ofBytes?_bytes] at hname
  cases hname

/-- A name spells one step down. -/
theorem spells_name {name : Name} {rest : List Segment} :
    tree.Spells here (name.bytes :: rest) place ↔
      tree.Spells (here ++ [name]) rest place := by
  have hfilter : (name.bytes :: rest).filter (!Path.isIdle ·) =
      name.bytes :: rest.filter (!Path.isIdle ·) :=
    List.filter_cons_of_pos (by simp [name.not_isIdle])
  have hlast : (name.bytes :: rest).getLast?.any Path.isIdle =
      rest.getLast?.any Path.isIdle := by
    cases rest with
    | nil => simp [name.not_isIdle]
    | cons next more => rw [List.getLast?_cons_cons]
  simp only [Spells, hfilter, hlast]
  constructor
  · rintro ⟨names, node, hplace, hnames, hnode⟩
    obtain ⟨first, more, rfl, hfirst, hmore⟩ := List.map_eq_cons_iff.mp hnames.symm
    obtain rfl := Name.bytes_injective hfirst
    exact ⟨more, node, by rw [hplace, List.append_cons], hmore.symm, hnode⟩
  · rintro ⟨names, node, hplace, hnames, hnode⟩
    exact ⟨name :: names, node, by rw [hplace, List.append_assoc]; rfl, by rw [hnames]; rfl, hnode⟩

/-- From a file nothing is spelled: there is nothing below it, and it is no directory. -/
theorem not_spells_file {content : List UInt8} {segment : Segment} {rest : List Segment}
    (hfile : tree.get? here = some (.file content)) :
    ¬ tree.Spells here (segment :: rest) place := by
  rintro ⟨names, node, rfl, hnames, hnode, hlast⟩
  cases names with
  | nil =>
      rw [List.append_nil, hfile, Option.some.injEq] at hnode
      have hidle : ∀ last ∈ segment :: rest, Path.isIdle last = true := by
        simpa using List.filter_eq_nil_iff.mp hnames
      have hend : (segment :: rest).getLast?.any Path.isIdle = true := by
        rw [List.getLast?_eq_some_getLast (List.cons_ne_nil _ _)]
        exact hidle _ (List.getLast_mem _)
      have hdir := hlast hend
      rw [← hnode] at hdir
      cases hdir
  | cons name more =>
      rw [get?_below_file hfile] at hnode
      cases hnode

/-- Below a place without links, walking is spelling. -/
theorem walk_eq_ok_iff {segments : List Segment}
    (hfree : ∀ below target, tree.get? (here ++ below) ≠ some (.link target))
    (hhere : tree.Reached here) (hup : dotDot ∉ segments) :
    tree.walk links here segments = .ok place ↔ tree.Spells here segments place := by
  -- Both sides read the first segment at `here` and go on from where it leads: nowhere,
  -- to `here` again or one name down. A refusal has to be matched by nothing spelled.
  induction segments generalizing here with
  | nil =>
      obtain ⟨node, hnode, -⟩ := hhere.node
      rw [walk, spells_nil hnode, Except.ok.injEq]
  | cons segment rest ih =>
      obtain ⟨hfirst, hrest⟩ := not_or.mp (mt List.mem_cons.mpr hup)
      have hfails : ∀ {e : SystemError}, tree.walk links here (segment :: rest) = .error e →
          ¬ tree.Spells here (segment :: rest) place →
          (tree.walk links here (segment :: rest) = .ok place ↔
            tree.Spells here (segment :: rest) place) := fun hwalk hnot =>
        iff_of_false (by rw [hwalk]; simp) hnot
      obtain ⟨node, hnode, hlink⟩ := hhere.node
      cases node with
      | link target => exact absurd rfl (hlink target)
      | file content => exact hfails (by rw [walk, hnode]) (not_spells_file hnode)
      | dir entries =>
          by_cases hidle : Path.isIdle segment = true
          · rw [walk_idle rest hnode hidle, spells_idle hnode hidle, ih hfree hhere hrest]
          · have hidle := Bool.eq_false_iff.mpr hidle
            cases hname : Name.ofBytes? segment with
            | none =>
                obtain ⟨e, hwalk⟩ : ∃ e, tree.walk links here (segment :: rest) = .error e :=
                  walk_unnamed rest hnode hidle (Ne.symm hfirst) hname
                exact hfails hwalk (not_spells_unnamed hidle hname)
            | some name =>
                obtain rfl := Name.bytes_of_ofBytes? hname
                cases hentry : entries.lookup name with
                | none =>
                    refine hfails (walk_missing rest hnode hentry) fun hspells => ?_
                    obtain ⟨names, found, rfl, -, hfound, -⟩ := spells_name.mp hspells
                    rw [List.append_assoc, List.singleton_append,
                      get?_below_missing hnode hentry] at hfound
                    cases hfound
                | some next =>
                    have hnext : ∀ target, next ≠ .link target := by
                      rintro target rfl
                      exact hfree [name] target ((get?_concat hnode name).trans hentry)
                    rw [walk_name rest hnode hentry hnext, spells_name]
                    refine ih (fun below target => ?_) (.step hhere hnode hentry hnext) hrest
                    rw [List.append_assoc]
                    exact hfree (name :: below) target

end Tree

/-! ## From the text of a target -/

namespace Target

variable {tree : Tree} {root cwd : Path} {target : String}

theorem areSteps_steps (target : String) : Path.AreSteps (steps target) := by
  rw [steps_eq]
  intro step hstep
  obtain ⟨hmem, hidle⟩ := List.mem_filter.mp hstep
  refine ⟨?_, not_mem_of_mem_splitOn hmem⟩
  rintro rfl
  simp [Path.isIdle] at hidle

/-- A byte of a target that is not among its steps is a slash or a dot. -/
theorem zero_mem_steps (h : 0 ∈ unrooted target) : ∃ step ∈ steps target, 0 ∈ step := by
  have hjoined : [slash].intercalate ((unrooted target).splitOn slash) = unrooted target :=
    List.intercalate_splitOn slash
  rw [← hjoined, mem_intercalate_iff (by decide)] at h
  obtain ⟨segment, hsegment, hzero⟩ := h
  refine ⟨segment, ?_, hzero⟩
  rw [steps_eq, List.mem_filter]
  refine ⟨hsegment, ?_⟩
  simp only [Path.isIdle, Bool.not_eq_true', Bool.or_eq_false_iff, beq_eq_false_iff_ne]
  constructor <;> rintro rfl <;> exact absurd hzero (by decide)

/-- Steps with a zero byte among them spell no place. -/
theorem descend_steps_ne (h : 0 ∈ unrooted target) (here place : Location) :
    here.path.descend (steps target) ≠ place.path := by
  intro hspelled
  obtain ⟨names, -, hnames⟩ :=
    (Location.descend_path_eq_iff (areSteps_steps target)).mp hspelled
  obtain ⟨step, hstep, hzero⟩ := zero_mem_steps h
  rw [hnames] at hstep
  obtain ⟨name, -, rfl⟩ := List.mem_map.mp hstep
  exact name.zero_not_mem hzero

theorem endsInStep_iff : EndsInStep target ↔
    ((unrooted target).splitOn slash).getLast?.any Path.isIdle = false := by
  rw [← getLast?_segments, List.getLast?_map, Option.any_map, EndsInStep]
  simp only [isIdle_encode]
  cases (segments target).getLast? <;> simp

/-- A target is read from the path of a place inside the root. -/
theorem start_inside (hroot : tree.Canonical root) (hcwd : tree.HasDirectory root cwd)
    (target : String) :
    ∃ here, (if isRooted target then root else cwd) = Location.path here ∧ tree.Reached here ∧
      (Location.path here).Within root := by
  split
  · obtain ⟨base, hbase, rfl⟩ := Tree.canonical_iff.mp hroot
    exact ⟨base, rfl, hbase, .refl _⟩
  · obtain ⟨here, hhere, rfl⟩ := Tree.canonical_iff.mp hcwd.canonical
    exact ⟨here, rfl, hhere, hcwd.within⟩

end Target

namespace Tree

variable {tree : Tree} {root cwd found : Path} {target : String}

/-- What a target spells inside the root is inside, if it is anywhere. -/
theorem within_of_standsAt (hroot : tree.Canonical root) (hcwd : tree.HasDirectory root cwd)
    {node : Node} (h : tree.StandsAt (Target.spelled root cwd target) node) :
    (Target.spelled root cwd target).Within root := by
  obtain ⟨here, hstart, -, hwithin⟩ := Target.start_inside hroot hcwd target
  rw [Target.spelled, hstart] at h ⊢
  obtain ⟨place, hplace, -⟩ := h
  obtain ⟨names, rfl, -⟩ := (Location.descend_path_eq_iff
    (Target.areSteps_steps target)).mp hplace
  rw [hplace]
  exact hwithin.trans ((Location.within_path_iff _ _).mpr (List.prefix_append _ _))

/-- What a target is resolved to is what it spells, if that is there. -/
theorem canonicalize_clientPath_iff (hroot : tree.Canonical root) (hfree : tree.LinkFree root)
    (hcwd : tree.HasDirectory root cwd) (hparent : TargetShape.hasParentSegment target = false) :
    tree.canonicalize (Navigation.clientPath root cwd target) = .ok found ↔
      found = Target.spelled root cwd target ∧
        ∃ node, tree.StandsAt found node ∧ (node.isDir = false → Target.EndsInStep target) := by
  obtain ⟨here, hstart, hhere, hwithin⟩ := Target.start_inside hroot hcwd target
  rw [Navigation.clientPath_eq, Target.spelled, hstart, canonicalize,
    locate_join hhere (Target.head?_unrooted_ne target)]
  -- A zero byte is refused before the walk, and no name has one.
  by_cases hzero : 0 ∈ Target.unrooted target
  · rw [if_pos hzero]
    refine iff_of_false (by simp [Except.map]) ?_
    rintro ⟨hfound, node, ⟨place, hplace, -⟩, -⟩
    exact Target.descend_steps_ne hzero here place (hfound.symm.trans hplace)
  · have hbelow : ∀ below link, tree.get? (here ++ below) ≠ some (.link link) :=
      fun below link => hfree _ link
        (hwithin.trans ((Location.within_path_iff _ _).mpr (List.prefix_append _ _)))
    have hwalk : ∀ place,
        tree.walk maxLinks here ((Target.unrooted target).splitOn slash) = .ok place ↔
          tree.Spells here ((Target.unrooted target).splitOn slash) place := fun _ =>
      walk_eq_ok_iff hbelow hhere (Target.hasParentSegment_eq_false_iff.mp hparent)
    have hwalked : ((tree.walk maxLinks here ((Target.unrooted target).splitOn slash)).mapError
          IoError.system).map Location.path = .ok found ↔
        ∃ place, tree.walk maxLinks here ((Target.unrooted target).splitOn slash) = .ok place ∧
          found = place.path := by
      cases tree.walk maxLinks here ((Target.unrooted target).splitOn slash) <;>
        simp [Except.map, Except.mapError, eq_comm]
    rw [if_neg hzero, hwalked]
    constructor
    · rintro ⟨place, hplace, rfl⟩
      obtain ⟨names, node, rfl, hnames, hnode, hlast⟩ := (hwalk place).mp hplace
      have hspelled : (Location.path here).descend (Target.steps target) =
          Location.path (here ++ names) := by
        rw [Target.steps_eq, hnames, Location.descend_path]
      refine ⟨hspelled.symm, node, ⟨_, rfl, hnode⟩, fun hfile => ?_⟩
      rw [Target.endsInStep_iff, Bool.eq_false_iff]
      intro hidle
      rw [hlast hidle] at hfile
      cases hfile
    · rintro ⟨hfound, node, ⟨place, rfl, hnode⟩, hlast⟩
      obtain ⟨names, rfl, hnames⟩ := (Location.descend_path_eq_iff
        (Target.areSteps_steps target)).mp hfound.symm
      refine ⟨_, (hwalk _).mpr ⟨names, node, rfl, ?_, hnode, fun hidle => ?_⟩, rfl⟩
      · rw [← Target.steps_eq, hnames]
      · by_contra hfile
        have hstep := Target.endsInStep_iff.mp (hlast (Bool.eq_false_iff.mpr hfile))
        rw [hidle] at hstep
        cases hstep

theorem StandsAt.isDir_eq {p : Path} {node : Node} (h : tree.StandsAt p node)
    (hp : tree.Canonical p) : tree.isDir p = node.isDir := by
  obtain ⟨place, rfl, hnode⟩ := h
  obtain ⟨other, hreached, hsame⟩ := canonical_iff.mp hp
  obtain rfl := Location.path_injective hsame
  exact isDir_path hreached hnode

theorem LinkFree.node_cases (hfree : tree.LinkFree root) {node : Node}
    (h : tree.StandsAt found node) (hwithin : found.Within root) :
    (∃ entries, node = .dir entries) ∨ ∃ content, node = .file content := by
  obtain ⟨place, rfl, hnode⟩ := h
  cases node with
  | dir entries => exact .inl ⟨entries, rfl⟩
  | file content => exact .inr ⟨content, rfl⟩
  | link target => exact absurd hnode (hfree place target hwithin)

/-- A walk fails for what is missing, for a file or a name on the way or for too many
links, and for nothing else. -/
theorem walk_ne_permissionDenied {links : Nat} {here : Location} {segments : List Segment} :
    tree.walk links here segments ≠ .error .permissionDenied := by
  fun_induction walk tree links here segments <;> first | assumption | simp

theorem kind_of_canonicalize {p : Path} {e : IoError} (h : tree.canonicalize p = .error e) :
    e.kind ≠ .permissionDenied := by
  simp only [canonicalize, locate] at h
  split at h
  · cases h
    decide
  · split at h
    · cases h
      decide
    · cases hwalk : tree.walk maxLinks [] p.segments with
      | ok place =>
          rw [hwalk] at h
          cases h
      | error system =>
          rw [hwalk] at h
          cases h
          intro hkind
          obtain rfl : system = .permissionDenied := by
            cases system <;> first | rfl | cases hkind
          exact walk_ne_permissionDenied hwalk

end Tree

namespace Navigation

variable {tree : Tree} {root cwd found : Path} {target : String}

/-- A working directory may be changed to the directory that a target spells. -/
theorem changeDirectory_eq_ok_iff_spelled (hroot : tree.Canonical root)
    (hfree : tree.LinkFree root) (hcwd : tree.HasDirectory root cwd) (hne : target.isEmpty = false)
    (hshape : (TargetShape.ofTarget target).isTraversal = false) :
    changeDirectory tree root cwd target = .ok found ↔
      found = Target.spelled root cwd target ∧ ∃ entries, tree.StandsAt found (.dir entries) := by
  have hparent := (TargetShape.isTraversal_eq_false_iff.mp hshape).2
  rw [changeDirectory_eq_ok_iff]
  constructor
  · rintro ⟨-, -, hfound, hwithin, hdir⟩
    obtain ⟨hspelled, node, hnode, -⟩ :=
      (Tree.canonicalize_clientPath_iff hroot hfree hcwd hparent).mp hfound
    rw [hnode.isDir_eq (Tree.canonical_of_canonicalize hfound)] at hdir
    obtain ⟨entries, rfl⟩ | ⟨content, rfl⟩ := hfree.node_cases hnode hwithin
    · exact ⟨hspelled, entries, hnode⟩
    · cases hdir
  · rintro ⟨rfl, entries, hnode⟩
    have hfound := (Tree.canonicalize_clientPath_iff hroot hfree hcwd hparent).mpr
      ⟨rfl, .dir entries, hnode, fun hfile => by cases hfile⟩
    exact ⟨hne, hshape, hfound, Tree.within_of_standsAt hroot hcwd hnode,
      hnode.isDir_eq (Tree.canonical_of_canonicalize hfound)⟩

/-- A file may be fetched that a target spells, and a directory be named as well. -/
theorem resolveFile_eq_ok_iff_spelled (hroot : tree.Canonical root)
    (hfree : tree.LinkFree root) (hcwd : tree.HasDirectory root cwd) (hne : target.isEmpty = false)
    (hparent : TargetShape.hasParentSegment target = false) :
    resolveFile tree root cwd target = .ok found ↔
      found = Target.spelled root cwd target ∧ ((∃ entries, tree.StandsAt found (.dir entries)) ∨
        (∃ content, tree.StandsAt found (.file content)) ∧ Target.EndsInStep target) := by
  rw [resolveFile_eq_ok_iff]
  constructor
  · rintro ⟨-, -, hfound, hwithin⟩
    obtain ⟨hspelled, node, hnode, hends⟩ :=
      (Tree.canonicalize_clientPath_iff hroot hfree hcwd hparent).mp hfound
    obtain ⟨entries, rfl⟩ | ⟨content, rfl⟩ := hfree.node_cases hnode hwithin
    · exact ⟨hspelled, .inl ⟨entries, hnode⟩⟩
    · exact ⟨hspelled, .inr ⟨⟨content, hnode⟩, hends rfl⟩⟩
  · rintro ⟨rfl, hthere⟩
    obtain ⟨node, hnode, hends⟩ : ∃ node, tree.StandsAt (Target.spelled root cwd target) node ∧
        (node.isDir = false → Target.EndsInStep target) := by
      obtain ⟨entries, hnode⟩ | ⟨⟨content, hnode⟩, hends⟩ := hthere
      · exact ⟨_, hnode, fun hfile => by cases hfile⟩
      · exact ⟨_, hnode, fun _ => hends⟩
    exact ⟨hne, hparent, (Tree.canonicalize_clientPath_iff hroot hfree hcwd hparent).mpr
      ⟨rfl, node, hnode, hends⟩, Tree.within_of_standsAt hroot hcwd hnode⟩

/-- What is resolved from a target is inside where there are no links. -/
theorem within_of_canonicalize (hroot : tree.Canonical root) (hfree : tree.LinkFree root)
    (hcwd : tree.HasDirectory root cwd) (hparent : TargetShape.hasParentSegment target = false)
    (hfound : tree.canonicalize (clientPath root cwd target) = .ok found) : found.Within root := by
  obtain ⟨rfl, node, hnode, -⟩ :=
    (Tree.canonicalize_clientPath_iff hroot hfree hcwd hparent).mp hfound
  exact Tree.within_of_standsAt hroot hcwd hnode

/-- A change of directory is refused as an escape for the shape of the target or for
where it leads. -/
theorem changeDirectory_ne_traversal {named : String}
    (hshape : (TargetShape.ofTarget target).isTraversal = false)
    (hinside : ∀ found, tree.canonicalize (clientPath root cwd target) = .ok found →
      found.Within root) : changeDirectory tree root cwd target ≠ .error (.traversal named) := by
  intro h
  simp only [changeDirectory, hshape, Bool.false_eq_true, if_false] at h
  split at h
  · cases h
  · split at h
    · cases h
    · next found hfound =>
        rw [if_neg (not_not.mpr (hinside found hfound))] at h
        split at h <;> cases h

/-- So is fetching a file, and no look at the tree is denied. -/
theorem kind_of_resolveFile {e : IoError} (hne : target.isEmpty = false)
    (hparent : TargetShape.hasParentSegment target = false)
    (hinside : ∀ found, tree.canonicalize (clientPath root cwd target) = .ok found →
      found.Within root) (h : resolveFile tree root cwd target = .error e) :
    e.kind ≠ .permissionDenied := by
  simp only [resolveFile, hne, hparent, Bool.or_self, Bool.false_eq_true, if_false] at h
  split at h
  · next other hother =>
      cases h
      exact Tree.kind_of_canonicalize hother
  · next found hfound =>
      rw [if_pos (hinside found hfound)] at h
      cases h

/-- Where no link lies at or below the root, a target without a segment of two dots is
resolved as it is spelled. A working directory may be changed to it exactly if a
directory stands there; a file may be fetched by it if something stands there,
unless that is a file and the target ends in a slash or a dot. The path is the one
spelled, and no refusal says that it lies outside the root. -/
theorem resolved_as_spelled (hroot : tree.Canonical root) (hfree : tree.LinkFree root)
    (hcwd : tree.HasDirectory root cwd) (hne : target ≠ "")
    (hparent : TargetShape.hasParentSegment target = false) :
    let p := Target.spelled root cwd target
    (target.toList.head? ≠ some '.' →
      (∀ found, changeDirectory tree root cwd target = .ok found ↔
        found = p ∧ ∃ entries, tree.StandsAt p (.dir entries)) ∧
      ∀ named, changeDirectory tree root cwd target ≠ .error (.traversal named)) ∧
    (∀ found, resolveFile tree root cwd target = .ok found ↔
      found = p ∧ ((∃ entries, tree.StandsAt p (.dir entries)) ∨
        (∃ content, tree.StandsAt p (.file content)) ∧ Target.EndsInStep target)) ∧
    ∀ e, resolveFile tree root cwd target = .error e → e.kind ≠ .permissionDenied := by
  intro p
  have hempty : target.isEmpty = false := by
    rwa [Bool.eq_false_iff, Ne, String.isEmpty_iff]
  have hinside : ∀ found, tree.canonicalize (clientPath root cwd target) = .ok found →
      found.Within root := fun _ => within_of_canonicalize hroot hfree hcwd hparent
  refine ⟨fun hdot => ?_, fun found => ?_, fun e => kind_of_resolveFile hempty hparent hinside⟩
  · have hshape : (TargetShape.ofTarget target).isTraversal = false :=
      TargetShape.isTraversal_eq_false_iff.mpr ⟨hdot, hparent⟩
    refine ⟨fun found => ?_, fun named => changeDirectory_ne_traversal hshape hinside⟩
    rw [changeDirectory_eq_ok_iff_spelled hroot hfree hcwd hempty hshape]
    exact and_congr_right fun hfound => by rw [hfound]
  · rw [resolveFile_eq_ok_iff_spelled hroot hfree hcwd hempty hparent]
    exact and_congr_right fun hfound => by rw [hfound]

end Navigation

/-- A root `/r` with a directory `a` that holds a file `f`. -/
def nestedTree : Tree :=
  ⟨[(.letter 'r', .dir [(.letter 'a', .dir [(.letter 'f', .file [7])])])]⟩

/-- A directory with one entry has links below it only where the entry has. -/
theorem Node.get?_single_ne_link {name : Name} {node : Node} {target : Path}
    (h : ∀ below, node.get? below ≠ some (.link target)) (below : Location) :
    (Node.dir [(name, node)]).get? below ≠ some (.link target) := by
  cases below with
  | nil => simp [get?]
  | cons other rest =>
      rw [get?, child?, List.lookup]
      cases other == name with
      | true => exact h rest
      | false => simp

theorem linkFree_nestedTree (root : Path) : nestedTree.LinkFree root := by
  intro place target _
  have hfile : ∀ below, (Node.file [7]).get? below ≠ some (.link target) := by
    intro below
    cases below <;> simp [Node.get?, Node.child?]
  exact Node.get?_single_ne_link (Node.get?_single_ne_link (Node.get?_single_ne_link hfile)) place

/-- From inside `a` the file is found by a target with a dot and a doubled slash in it,
read from the root. -/
theorem resolved_as_spelled_doubled :
    Navigation.resolveFile nestedTree (.ofString "/r") (.ofString "/r/a") "/./a//f" =
        .ok (.ofString "/r/a/f") ∧
      ∀ named, Navigation.changeDirectory nestedTree (.ofString "/r") (.ofString "/r/a")
        "/./a//f" ≠ .error (.traversal named) := by
  have hspelled : Target.spelled (.ofString "/r") (.ofString "/r/a") "/./a//f" =
      .ofString "/r/a/f" := by cbv
  obtain ⟨hchange, hresolve, -⟩ := @Navigation.resolved_as_spelled nestedTree
    (.ofString "/r") (.ofString "/r/a") "/./a//f" (by cbv) (linkFree_nestedTree _)
    ⟨by cbv, by cbv, by decide⟩ (by decide) (by cbv)
  refine ⟨(hresolve _).mpr ⟨hspelled.symm, .inr ⟨⟨[7], ?_⟩, ?_⟩⟩, (hchange (by decide)).2⟩
  · rw [hspelled]
    exact ⟨[.letter 'r', .letter 'a', .letter 'f'], by rfl, rfl⟩
  · intro last hlast
    obtain rfl : ['f'] = last := Option.some.inj (Eq.trans (by cbv) hlast)
    rfl

end PassiveFtp
