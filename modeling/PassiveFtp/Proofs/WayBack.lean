import Mathlib
import PassiveFtp.Proofs.AlikeTrees
import PassiveFtp.Proofs.ShownPaths

/-!
# The path a client is shown leads back

A directory is shown by the names that lead to it from the root. Where these are
text, the client can send back what it was shown: decoding lost nothing, so the
bytes after the slash are the names again. Written after the root's path they
spell the place, and a place that is its own canonical path is resolved to itself,
whatever links there are elsewhere.

What is shown begins with a slash and no name is two dots, so neither filter of the
targets refuses it, hidden directories and names such as `a..b` included. Nor does
the working directory matter.
-/

namespace PassiveFtp

/-- A path that lies at or below another one, what follows being text. -/
def Path.TextBelow (p root : Path) : Prop :=
  ∃ rest, p.relativeTo? root = some rest ∧ Utf8.IsText rest.bytes

namespace Location

open PassiveFtp.Path

theorem textBelow_path_iff (base below : Location) :
    (path (base ++ below)).TextBelow base.path ↔
      Utf8.IsText ([slash].intercalate (below.map Name.bytes)) := by
  simp [TextBelow, relativeTo?_path]

end Location

theorem Path.TextBelow.within {p root : Path} (h : p.TextBelow root) : p.Within root := by
  obtain ⟨rest, hrest, -⟩ := h
  rw [relativeTo?] at hrest
  split at hrest
  · assumption
  · cases hrest

namespace Navigation

variable {tree : Tree} {root cwd p q found : Path} {base below : Location} {target : String}

theorem toList_virtualPath (base below : Location) :
    (virtualPath base.path (Location.path (base ++ below))).toList =
      '/' :: Utf8.decodeLossy ([slash].intercalate (below.map Name.bytes)) := by
  simp [virtualPath_path, Utf8.toStringLossy]

theorem isRooted_virtualPath (base below : Location) :
    Target.isRooted (virtualPath base.path (Location.path (base ++ below))) = true := by
  rw [Target.isRooted, toList_virtualPath]
  rfl

/-- No second slash follows the first one, or an empty name would be shown. -/
theorem head?_decodeLossy_ne (h : (Location.path (base ++ below)).TextBelow base.path) :
    (Utf8.decodeLossy ([slash].intercalate (below.map Name.bytes))).head? ≠ some '/' := by
  intro hslash
  obtain ⟨more, hmore⟩ := List.head?_eq_some_iff.mp hslash
  have hbytes := (Location.areSteps_bytes below).head?_ne
  rw [← (Location.textBelow_path_iff base below).mp h, hmore] at hbytes
  exact hbytes rfl

theorem unrooted_virtualPath (h : (Location.path (base ++ below)).TextBelow base.path) :
    Target.unrooted (virtualPath base.path (Location.path (base ++ below))) =
      [slash].intercalate (below.map Name.bytes) := by
  rw [Target.unrooted, toList_virtualPath, List.dropWhile_cons_of_pos (by simp),
    Target.dropWhile_eq_self (head?_decodeLossy_ne h)]
  exact (Location.textBelow_path_iff base below).mp h

/-- The steps a client reads in what it is shown are the names. -/
theorem steps_virtualPath (h : (Location.path (base ++ below)).TextBelow base.path) :
    Target.steps (virtualPath base.path (Location.path (base ++ below))) =
      below.map Name.bytes := by
  rw [Target.steps_eq, unrooted_virtualPath h]
  cases below with
  | nil => rfl
  | cons name rest =>
      rw [Location.splitOn_intercalate_bytes (List.cons_ne_nil _ _), List.filter_eq_self]
      intro step hstep
      obtain ⟨other, -, rfl⟩ := List.mem_map.mp hstep
      rw [other.not_isIdle, Bool.not_false]

theorem hasParentSegment_virtualPath
    (h : (Location.path (base ++ below)).TextBelow base.path) :
    TargetShape.hasParentSegment (virtualPath base.path (Location.path (base ++ below))) =
      false := by
  rw [Target.hasParentSegment_eq_false_iff]
  intro hdots
  have hstep : dotDot ∈ below.map Name.bytes := by
    rw [← steps_virtualPath h, Target.steps_eq]
    exact List.mem_filter.mpr ⟨hdots, rfl⟩
  exact below.dotDot_not_mem_bytes hstep

theorem clientPath_virtualPath (h : (Location.path (base ++ below)).TextBelow base.path) :
    clientPath base.path cwd (virtualPath base.path (Location.path (base ++ below))) =
      base.path.join ⟨[slash].intercalate (below.map Name.bytes)⟩ := by
  rw [clientPath_eq, isRooted_virtualPath, if_pos rfl, unrooted_virtualPath h]

theorem resolveFile_virtualPath (hroot : tree.Canonical root) (hp : tree.Canonical p)
    (htext : p.TextBelow root) (hopen : tree.isDir p = true ∨ p ≠ root) :
    resolveFile tree root cwd (virtualPath root p) = .ok p := by
  have hwithin := htext.within
  obtain ⟨base, below, rfl, rfl⟩ := hroot.below hp hwithin
  rw [resolveFile_eq_ok_iff, clientPath_virtualPath htext]
  refine ⟨Target.isEmpty_of_isRooted (isRooted_virtualPath base below),
    hasParentSegment_virtualPath htext,
    Tree.canonicalize_join_names hp ?_, hwithin⟩
  by_cases hsame : base ++ below = base
  · rw [hsame] at hopen
    exact .inr (hopen.resolve_right (absurd rfl))
  · exact .inl hsame

theorem changeDirectory_virtualPath (hroot : tree.Canonical root) (hp : tree.Canonical p)
    (htext : p.TextBelow root) (hdir : tree.isDir p = true) :
    changeDirectory tree root cwd (virtualPath root p) = .ok p := by
  have hresolved : resolveFile tree root cwd (virtualPath root p) = .ok p :=
    resolveFile_virtualPath hroot hp htext (.inl hdir)
  obtain ⟨hempty, hparent, hcanonicalize, hwithin⟩ := resolveFile_eq_ok_iff.mp hresolved
  have hfirst : (virtualPath root p).toList.head? ≠ some '.' := by
    obtain ⟨base, below, rfl, rfl⟩ := hroot.below hp hwithin
    exact Target.head?_ne_dot_of_isRooted (isRooted_virtualPath base below)
  exact changeDirectory_eq_ok_iff.mpr
    ⟨hempty, TargetShape.isTraversal_eq_false_iff.mpr ⟨hfirst, hparent⟩, hcanonicalize, hwithin,
      hdir⟩

/-- Two paths that are shown as text are told apart by what is shown. -/
theorem virtualPath_inj (hroot : tree.Canonical root) (hp : tree.Canonical p)
    (hq : tree.Canonical q) (hptext : p.TextBelow root) (hqtext : q.TextBelow root)
    (h : virtualPath root p = virtualPath root q) : p = q := by
  obtain ⟨base, below, rfl, rfl⟩ := hroot.below hp hptext.within
  obtain ⟨other, names, hbase, rfl⟩ := hroot.below hq hqtext.within
  obtain rfl := Location.path_injective hbase
  have hnames : below.map Name.bytes = names.map Name.bytes := by
    rw [← steps_virtualPath hptext, h, steps_virtualPath hqtext]
  rw [List.map_injective_iff.mpr (fun s t h => Name.bytes_injective h) hnames]

/-- What a client is shown of a path leads back to it. A directory at or below a
canonical root that is its own canonical path, its path below the root being text, is
changed to from any working directory under the path that is shown of it, and a file
is fetched under it. So a directory that a client has come to by some target is
reached again by what is shown of it, and two such paths are never shown the same. -/
theorem shown_path_leads_back (hroot : tree.Canonical root) :
    (∀ p, tree.Canonical p → p.TextBelow root → ∀ cwd,
      (tree.isDir p = true → changeDirectory tree root cwd (virtualPath root p) = .ok p) ∧
      (tree.isDir p = true ∨ p ≠ root →
        resolveFile tree root cwd (virtualPath root p) = .ok p)) ∧
    (∀ cwd target found, changeDirectory tree root cwd target = .ok found →
      found.TextBelow root →
        ∀ other, changeDirectory tree root other (virtualPath root found) = .ok found) ∧
    ∀ p q, tree.Canonical p → tree.Canonical q → p.TextBelow root → q.TextBelow root →
      p ≠ q → virtualPath root p ≠ virtualPath root q := by
  refine ⟨fun p hp htext cwd => ⟨changeDirectory_virtualPath hroot hp htext,
    resolveFile_virtualPath hroot hp htext⟩, fun cwd target found hfound htext other => ?_,
    fun p q hp hq hptext hqtext => mt (virtualPath_inj hroot hp hq hptext hqtext)⟩
  obtain ⟨hcanonicalize, -, hdir⟩ := changeDirectory_eq_ok hfound
  exact changeDirectory_virtualPath hroot (Tree.canonical_of_canonicalize hcanonicalize) htext hdir

end Navigation

/-- The name of a hidden directory with two dots in it. -/
def Name.hidden : Name :=
  ⟨[0x2E, 0x61, 0x2E, 0x2E, 0x62], by decide⟩

/-- A root `/r` with a hidden directory `.a..b` and a link `l` that leads to it. -/
def hiddenTree : Tree :=
  ⟨[(.letter 'r', .dir [(.hidden, .dir [(.letter 'f', .file [7])]),
    (.letter 'l', .link (.ofString "/r/.a..b"))])]⟩

/-- A client that has followed the link is shown the hidden directory, and comes back to
it from any directory by what it was shown. -/
theorem shown_path_leads_back_hidden :
    Navigation.changeDirectory hiddenTree (.ofString "/r") (.ofString "/r") "l" =
        .ok (.ofString "/r/.a..b") ∧
      Navigation.virtualPath (.ofString "/r") (.ofString "/r/.a..b") = "/.a..b" ∧
      (∀ other, Navigation.changeDirectory hiddenTree (.ofString "/r") other "/.a..b" =
        .ok (.ofString "/r/.a..b")) ∧
      ∀ other, Navigation.resolveFile hiddenTree (.ofString "/r") other "/.a..b/f" =
        .ok (.ofString "/r/.a..b/f") := by
  obtain ⟨hthere, hback, -⟩ :=
    @Navigation.shown_path_leads_back hiddenTree (.ofString "/r") (by cbv)
  have hfound : Navigation.changeDirectory hiddenTree (.ofString "/r") (.ofString "/r") "l" =
      .ok (.ofString "/r/.a..b") := by cbv
  have htext : (Path.ofString "/r/.a..b").TextBelow (.ofString "/r") :=
    ⟨.ofString ".a..b", by cbv, by cbv⟩
  have hfile : (Path.ofString "/r/.a..b/f").TextBelow (.ofString "/r") :=
    ⟨.ofString ".a..b/f", by cbv, by cbv⟩
  have hshown : Navigation.virtualPath (.ofString "/r") (.ofString "/r/.a..b") = "/.a..b" := by cbv
  have hbelow : Navigation.virtualPath (.ofString "/r") (.ofString "/r/.a..b/f") = "/.a..b/f" := by
    cbv
  refine ⟨hfound, hshown, ?_, fun other => ?_⟩
  · rw [← hshown]
    exact hback _ _ _ hfound htext
  · rw [← hbelow]
    exact (hthere _ (by cbv) hfile other).2 (.inr (by decide))

end PassiveFtp
