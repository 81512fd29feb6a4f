import Mathlib
import PassiveFtp.Proofs.WorkingDirectory

/-!
# Which directory a listing is of

A file is resolved and compared with the root at the moment it is sent. A listing
is not: it is made of the working directory's path as that was when it was
chosen, and the path is followed again, links and all. So what a listing shows is
the directory the path leads to by then.

As long as no link has been put on the way down from the root, the path leads to
the place it spells, and that is inside. Where a directory on the way has been
replaced by a link, the link is followed, and nothing asks where it leads: a
working directory chosen inside the root is listed outside of it.
-/

namespace PassiveFtp

/-- The names down from a place go through no link. -/
def Tree.Unlinked (tree : Tree) (base below : Location) : Prop :=
  ∀ front, front ≠ [] → front <+: below → ∀ target, tree.get? (base ++ front) ≠ some (.link target)

namespace Tree

variable {tree : Tree}

theorem unlinked_cons {base rest : Location} {name : Name}
    (h : tree.Unlinked base (name :: rest)) :
    (∀ target, tree.get? (base ++ [name]) ≠ some (.link target)) ∧
      tree.Unlinked (base ++ [name]) rest := by
  constructor
  · exact h [name] (by simp) ((List.prefix_cons_inj name).mpr List.nil_prefix)
  · intro front _ hfront target
    rw [List.append_assoc]
    exact h (name :: front) (by simp) ((List.prefix_cons_inj name).mpr hfront) target

theorem Reached.unlinked {base below : Location} (h : tree.Reached (base ++ below)) :
    tree.Unlinked base below := by
  intro front hne hfront target hlink
  obtain ⟨back, rfl⟩ := hfront
  rw [← List.append_assoc] at h
  cases front using List.reverseRecOn with
  | nil => exact hne rfl
  | append_singleton before name =>
      rw [← List.append_assoc] at h hlink
      obtain ⟨-, entries, node, hdir, hentry, hnode⟩ := h.of_append.concat_inv
      rw [get?_concat hdir, hentry] at hlink
      exact hnode target (Option.some.inj hlink)

/-- Names that go through no link lead, if they lead anywhere, to the place they
spell. -/
theorem walk_unlinked {links : Nat} {here names place : Location}
    (hunlinked : tree.Unlinked here names)
    (h : tree.walk links here (names.map Name.bytes) = .ok place) : place = here ++ names := by
  induction names generalizing here with
  | nil =>
      rw [List.map_nil, walk] at h
      cases h
      rw [List.append_nil]
  | cons name rest ih =>
      obtain ⟨hfirst, hrest⟩ := unlinked_cons hunlinked
      rw [List.map_cons] at h
      cases hdir : tree.get? here with
      | none =>
          rw [walk, hdir] at h
          cases h
      | some node =>
          cases node with
          | file content =>
              rw [walk, hdir] at h
              cases h
          | link target =>
              rw [walk, hdir] at h
              cases h
          | dir entries =>
              cases hentry : entries.lookup name with
              | none =>
                  rw [walk_missing _ hdir hentry] at h
                  cases h
              | some next =>
                  have hnext : ∀ target, next ≠ .link target := by
                    rintro target rfl
                    exact hfirst target (by rw [get?_concat hdir, hentry])
                  rw [walk_name _ hdir hentry hnext] at h
                  rw [ih hrest h, List.append_assoc, List.singleton_append]

theorem find_of_canonicalize {p q : Path} (h : tree.canonicalize p = .ok q) :
    tree.find q = tree.find p := by
  obtain ⟨place, hlocate, hreached, rfl⟩ := locate_of_canonicalize h
  simp only [find, hlocate, locate_path hreached]

/-- A path that spells a place below a reached one is its own canonical form
exactly if no link lies between. -/
theorem canonicalize_eq_self_iff {base below : Location} {found : Path}
    (hbase : tree.Reached base)
    (h : tree.canonicalize (Location.path (base ++ below)) = .ok found) :
    found = Location.path (base ++ below) ↔ tree.Unlinked base below := by
  obtain ⟨place, hlocate, hreached, rfl⟩ := locate_of_canonicalize h
  constructor
  · intro hsame
    rw [Location.path_injective hsame] at hreached
    exact hreached.unlinked
  · intro hunlinked
    rw [locate_path_eq, List.map_append, walk_names_append _ hbase] at hlocate
    cases hwalk : tree.walk maxLinks ([] ++ base) (below.map Name.bytes) with
    | error e =>
        rw [hwalk] at hlocate
        cases hlocate
    | ok there =>
        rw [hwalk] at hlocate
        cases hlocate
        rw [walk_unlinked hunlinked hwalk]

theorem entryNames_eq_ok {p : Path} {names : List Name} (h : tree.entryNames p = .ok names) :
    ∃ found, tree.canonicalize p = .ok found ∧ tree.entryNames found = .ok names := by
  cases hlocate : tree.locate p with
  | error e =>
      simp only [entryNames, find, hlocate, bind, Except.bind] at h
      cases h
  | ok place =>
      have hfound : tree.canonicalize p = .ok place.path := by
        rw [canonicalize, hlocate]
        rfl
      refine ⟨place.path, hfound, ?_⟩
      rw [entryNames, find_of_canonicalize hfound]
      exact h

end Tree

/-! ## Listings -/

/-- The bytes of a listing are names of the directory that the working directory
leads to when they are sent. Over any run, and any tree in which the root is
still itself: the working directory is the root's place and names below it, and
either it leads to no directory and nothing goes out, or what goes out is from
the directory at its canonical path. That path is the working directory itself,
and so inside the root, exactly if no link lies on the way down from the root. -/
theorem listing_is_of_where_cwd_leads (settings : Settings) {start : Tree} {root : Path}
    (hroot : start.Canonical root) (turns : List Turn) (turn : Turn)
    (hstill : turn.conditions.tree.Canonical root) (hverb : turn.request.verb = .nlst)
    (hlister : turn.conditions.lister = Listing.names) {sent : List UInt8}
    (hsent : .sent sent ∈
      (turn.outcome settings ((Session.start root).after settings turns)).effects) :
    let tree := turn.conditions.tree
    let cwd := ((Session.start root).after settings turns).cwd
    ∃ (base below : Location) (sink : Sink),
      root = base.path ∧ cwd = Location.path (base ++ below) ∧
      turn.conditions.arrival = .connected sink ∧
      ((∃ e, tree.entryNames cwd = .error e) ∧ sent = sink.received ∨
        ∃ found names gone, tree.canonicalize cwd = .ok found ∧
          tree.entryNames found = .ok names ∧
          sent = sink.received ++ gone ∧ gone <+: Listing.body names ∧
          (found = cwd ↔ tree.Unlinked base below) ∧ (found = cwd → found.Within root)) := by
  intro tree cwd
  obtain ⟨base, hbase, hplaced⟩ := Session.placed_after settings hroot turns
  obtain ⟨below, hcwd, -⟩ := hplaced.cwd
  obtain ⟨sink, harrival, hway⟩ := sent_cases (dispatch_handled _ _ _ _) hsent
  have hlisted : sent = (Listing.names tree cwd sink).2.received := by
    obtain ⟨target, hfetch, -, -⟩ | ⟨-, rfl⟩ := hway
    · rw [hverb] at hfetch
      cases hfetch
    · rw [Dispatch.list, hlister]
  refine ⟨base, below, sink, hbase, hcwd, harrival, ?_⟩
  cases hnames : tree.entryNames cwd with
  | error e =>
      refine .inl ⟨⟨e, rfl⟩, ?_⟩
      rw [hlisted, Listing.names, hnames]
  | ok names =>
      obtain ⟨found, hcanonicalize, hfound⟩ := Tree.entryNames_eq_ok hnames
      -- the root is still itself, so a walk gets as far as its place without a link
      have hreached : tree.Reached base := by
        obtain ⟨place, hreached, hplace⟩ := Tree.canonical_iff.mp hstill
        rwa [Location.path_injective (hbase.symm.trans hplace)]
      have hself : found = cwd ↔ tree.Unlinked base below := by
        rw [show cwd = Location.path (base ++ below) from hcwd] at hcanonicalize ⊢
        exact Tree.canonicalize_eq_self_iff hreached hcanonicalize
      have hinside : found = cwd → found.Within root := by
        rintro rfl
        exact (Session.inside_after settings root turns).2
      obtain ⟨gone, hgone, hprefix⟩ :
          ∃ gone, sent = sink.received ++ gone ∧ gone <+: Listing.body names := by
        obtain hsame | ⟨names', hnames', gone, hprefix, hreceived⟩ :=
          Listing.names_cases tree cwd sink
        · exact ⟨[], by rw [hlisted, hsame, List.append_nil], List.nil_prefix⟩
        · rw [hnames] at hnames'
          cases hnames'
          exact ⟨gone, by rw [hlisted, hreceived], hprefix⟩
      exact .inr ⟨found, names, gone, hcanonicalize, hfound, hgone, hprefix, hself, hinside⟩

/-- A root `/r` with a node under the name `p`, and beside it a directory `/o`
with a file `s`. -/
def besideTree (node : Node) : Tree :=
  ⟨[(.letter 'r', .dir [(.letter 'p', node)]),
    (.letter 'o', .dir [(.letter 's', .file [])])]⟩

/-- Under `p` a directory with a file `a`. -/
def plainTree : Tree :=
  besideTree (.dir [(.letter 'a', .file [])])

/-- Under `p` a link to `/o`. -/
def swappedTree : Tree :=
  besideTree (.link ⟨[0x2F, 0x6F]⟩)

/-- Turns in which listeners open and clients come. -/
def besideTurn (tree : Tree) (verb : Verb) (argument : Option String) (spaces : Nat) : Turn where
  conditions :=
    { tree
      interface := some ⟨127, 0, 0, 1⟩
      attempts := fun _ => ⟨2000, .opened⟩
      arrival := .connected {} }
  request := { verb, argument, spaces }

/-- The session of a client that has changed to `p` and asked for a channel. -/
def listeningInP : Session where
  root := .ofString "/r"
  cwd := .ofString "/r/p"
  loggedIn := true
  passive := some ⟨⟨127, 0, 0, 1⟩, 2000⟩

theorem after_to_listeningInP (tree : Tree) :
    (Session.start (.ofString "/r")).after {} [besideTurn plainTree .user (some "cs317") 1,
      besideTurn plainTree .cwd (some "p") 1, besideTurn tree .pasv none 0] = listeningInP := by
  have hmoved : ((besideTurn plainTree .cwd (some "p") 1).outcome {}
      { Session.start (.ofString "/r") with loggedIn := true }).session =
        { root := .ofString "/r", cwd := .ofString "/r/p", loggedIn := true } := by
    cbv
  rw [Session.after_cons, Session.after_cons, Session.after_cons, Session.after_nil]
  show ((besideTurn tree .pasv none 0).outcome {} ((besideTurn plainTree .cwd (some "p") 1).outcome
    {} { Session.start (.ofString "/r") with loggedIn := true }).session).session = listeningInP
  rw [hmoved]
  rfl

/-- A directory that stays where it is is listed as itself. -/
theorem listing_inside_root :
    plainTree.Canonical (.ofString "/r") ∧
      .sent [0x61, 0x0D, 0x0A] ∈
        ((besideTurn plainTree .nlst none 0).outcome {} listeningInP).effects ∧
      ∃ found names, plainTree.canonicalize listeningInP.cwd = .ok found ∧
        found.Within (.ofString "/r") ∧ plainTree.entryNames found = .ok names ∧
        [0x61, 0x0D, 0x0A] <+: Listing.body names := by
  have hroot : plainTree.Canonical (.ofString "/r") := by cbv
  have hsent : .sent [0x61, 0x0D, 0x0A] ∈
      ((besideTurn plainTree .nlst none 0).outcome {} listeningInP).effects := by
    have heffects : ((besideTurn plainTree .nlst none 0).outcome {} listeningInP).effects =
        [.listenerClosed ⟨⟨127, 0, 0, 1⟩, 2000⟩, .reply (.plain .aboutToOpenDataConnection),
          .sent [0x61, 0x0D, 0x0A], .dataClosed, .reply (.plain .closingDataConnection)] := by cbv
    rw [heffects]
    simp
  refine ⟨hroot, hsent, ?_⟩
  have hlisting := listing_is_of_where_cwd_leads {} hroot
    [besideTurn plainTree .user (some "cs317") 1, besideTurn plainTree .cwd (some "p") 1,
      besideTurn plainTree .pasv none 0] (besideTurn plainTree .nlst none 0) hroot rfl rfl
    (by rw [after_to_listeningInP]; exact hsent)
  rw [after_to_listeningInP] at hlisting
  obtain ⟨base, below, sink, hbase, hcwd, harrival, ⟨-, hnone⟩ | hfound⟩ := hlisting
  · cases harrival
    cases hnone
  · obtain ⟨found, names, gone, hcanonicalize, hnames, hgone, hprefix, -, hinside⟩ := hfound
    cases harrival
    obtain rfl : gone = [0x61, 0x0D, 0x0A] := hgone.symm
    have hplace : plainTree.canonicalize listeningInP.cwd = .ok listeningInP.cwd := by cbv
    have hself : found = listeningInP.cwd := by
      rw [show (besideTurn plainTree .nlst none 0).conditions.tree = plainTree from rfl,
        hplace] at hcanonicalize
      exact (Except.ok.inj hcanonicalize).symm
    exact ⟨found, names, hcanonicalize, hinside hself, hnames, hprefix⟩

/-- A directory that has been replaced by a link is listed as what the link leads
to, here a directory outside the root. -/
theorem listing_outside_root :
    let turns := [besideTurn plainTree .user (some "cs317") 1,
      besideTurn plainTree .cwd (some "p") 1, besideTurn swappedTree .pasv none 0]
    let session := (Session.start (.ofString "/r")).after {} turns
    plainTree.Canonical (.ofString "/r") ∧ plainTree.isDir (.ofString "/r") = true ∧
      swappedTree.Canonical (.ofString "/r") ∧ swappedTree.isDir (.ofString "/r") = true ∧
      .sent [0x73, 0x0D, 0x0A] ∈
        ((besideTurn swappedTree .nlst none 0).outcome {} session).effects ∧
      swappedTree.canonicalize session.cwd = .ok (.ofString "/o") ∧
      swappedTree.entryNames (.ofString "/o") = .ok [.letter 's'] ∧
      ¬ (Path.ofString "/o").Within (.ofString "/r") := by
  intro turns session
  have hsession : session = listeningInP := after_to_listeningInP swappedTree
  have heffects : ((besideTurn swappedTree .nlst none 0).outcome {} listeningInP).effects =
      [.listenerClosed ⟨⟨127, 0, 0, 1⟩, 2000⟩, .reply (.plain .aboutToOpenDataConnection),
        .sent [0x73, 0x0D, 0x0A], .dataClosed, .reply (.plain .closingDataConnection)] := by cbv
  rw [hsession, heffects]
  refine ⟨by cbv, by cbv, by cbv, by cbv, by simp, by cbv, by cbv, ?_⟩
  decide

end PassiveFtp
