import Mathlib
import PassiveFtp.Proofs.WayBack

/-!
# Two resolvers and two spellings

A target is resolved in two functions, one for working directories and one for files,
each with a filter of its own on the text and a comparison of its own with the root.
They agree: a working directory is a file's path that is a directory, under a target
without a dot in front.

A relative target and the same target written after the path a client is shown agree
as well. The names shown and the target's bytes are joined to one path in both cases,
only cut elsewhere, and the names shown add no segment of two dots. What the two
refusals say of the target differs, so they are compared by their kind.
-/

namespace PassiveFtp

/-- Which refusal a change of directory ends in, whatever it says of the target. -/
inductive Refusal where
  | invalidPath
  | traversal
  | directoryNotFound
  | notADirectory
  | atRoot
  | changeFailed
deriving DecidableEq, Repr

/-- The refusal without what it says. -/
def NavigationError.refusal : NavigationError → Refusal
  | .invalidPath _ => .invalidPath
  | .traversal _ => .traversal
  | .directoryNotFound _ => .directoryNotFound
  | .notADirectory _ => .notADirectory
  | .atRoot => .atRoot
  | .changeFailed .. => .changeFailed

namespace Navigation

open PassiveFtp.Path

variable {tree : Tree} {root cwd other p : Path} {base below : Location} {target named : String}

/-- A working directory is the path of a file that is a directory, under a target
without a dot in front. -/
theorem changeDirectory_eq_ok_iff_resolveFile :
    changeDirectory tree root cwd target = .ok p ↔
      resolveFile tree root cwd target = .ok p ∧ tree.isDir p = true ∧
        target.toList.head? ≠ some '.' := by
  rw [changeDirectory_eq_ok_iff, resolveFile_eq_ok_iff, TargetShape.isTraversal_eq_false_iff]
  tauto

/-! ## What the outcome depends on -/

/-- A target read from the root means one path wherever the client is. -/
theorem clientPath_of_rooted (h : Target.isRooted target = true) (cwd other : Path) :
    clientPath root cwd target = clientPath root other target := by
  rw [clientPath_eq, clientPath_eq, if_pos h, if_pos h]

/-- The refusal of a change of directory depends on the filter and on the path that the
target means. -/
theorem changeDirectory_mapError (hempty : target.isEmpty = named.isEmpty)
    (hshape : (TargetShape.ofTarget target).isTraversal = (TargetShape.ofTarget named).isTraversal)
    (hpath : clientPath root cwd target = clientPath root other named) :
    (changeDirectory tree root cwd target).mapError NavigationError.refusal =
      (changeDirectory tree root other named).mapError NavigationError.refusal := by
  simp only [changeDirectory, hempty, hshape, hpath]
  split
  · rfl
  · split
    · rfl
    · cases tree.canonicalize (clientPath root other named) with
      | error e => rfl
      | ok found =>
          dsimp only
          split
          · rfl
          · split <;> rfl

/-- So does the kind of error that a file is refused with. -/
theorem resolveFile_mapError (hempty : target.isEmpty = named.isEmpty)
    (hparent : TargetShape.hasParentSegment target = TargetShape.hasParentSegment named)
    (hpath : clientPath root cwd target = clientPath root other named) :
    (resolveFile tree root cwd target).mapError IoError.kind =
      (resolveFile tree root other named).mapError IoError.kind := by
  simp only [resolveFile, hempty, hparent, hpath]
  split
  · rfl
  · cases tree.canonicalize (clientPath root other named) with
    | error e => rfl
    | ok found =>
        dsimp only
        split <;> rfl

/-! ## A target after the path that is shown -/

/-- A target as a client spells it from the root, after the path it is shown. -/
def fromRoot (root cwd : Path) (target : String) : String :=
  virtualPath root cwd ++ "/" ++ target

theorem toList_fromRoot (base below : Location) (target : String) :
    (fromRoot base.path (Location.path (base ++ below)) target).toList =
      '/' :: (Utf8.decodeLossy ([slash].intercalate (below.map Name.bytes)) ++
        '/' :: target.toList) := by
  simp [fromRoot, toList_virtualPath]

theorem isRooted_fromRoot (base below : Location) (target : String) :
    Target.isRooted (fromRoot base.path (Location.path (base ++ below)) target) = true := by
  rw [Target.isRooted, toList_fromRoot]
  rfl

/-- From below the root the names come before the target; from the root itself there
are two slashes in front of it. -/
theorem unrooted_fromRoot (h : (Location.path (base ++ below)).TextBelow base.path)
    (htarget : target.toList.head? ≠ some '/') :
    Target.unrooted (fromRoot base.path (Location.path (base ++ below)) target) =
      if below = [] then Target.unrooted target
      else [slash].intercalate (below.map Name.bytes) ++ slash :: Target.unrooted target := by
  have htext := (Location.textBelow_path_iff base below).mp h
  rw [Target.unrooted_of_relative htarget, Target.unrooted, toList_fromRoot,
    List.dropWhile_cons_of_pos (by simp)]
  split
  · next hbelow =>
      subst hbelow
      rw [List.map_nil, List.intercalate_nil, Utf8.decodeLossy, List.nil_append,
        List.dropWhile_cons_of_pos (by simp), Target.dropWhile_eq_self htarget]
  · next hbelow =>
      have hshown : Utf8.decodeLossy ([slash].intercalate (below.map Name.bytes)) ≠ [] := by
        intro hempty
        rw [Utf8.IsText, hempty] at htext
        exact Location.intercalate_bytes_ne_nil hbelow htext.symm
      rw [Target.dropWhile_eq_self, Utf8.encode_append, htext]
      · rfl
      · rw [List.head?_append_of_ne_nil _ hshown]
        exact head?_decodeLossy_ne h

/-- Both spellings mean one path. -/
theorem clientPath_fromRoot (h : (Location.path (base ++ below)).TextBelow base.path)
    (htarget : target.toList.head? ≠ some '/') :
    clientPath base.path other (fromRoot base.path (Location.path (base ++ below)) target) =
      clientPath base.path (Location.path (base ++ below)) target := by
  have hrelative : Target.isRooted target = false := by
    rwa [Target.isRooted, beq_eq_false_iff_ne]
  rw [clientPath_eq, clientPath_eq, isRooted_fromRoot, hrelative, if_pos rfl, if_neg (by simp),
    unrooted_fromRoot h htarget]
  split
  · next hbelow => rw [hbelow, List.append_nil]
  · next hbelow =>
      exact (Location.join_path_append base hbelow (Target.head?_unrooted_ne target)).symm

/-- The names shown add no segment of two dots. -/
theorem hasParentSegment_fromRoot (h : (Location.path (base ++ below)).TextBelow base.path)
    (htarget : target.toList.head? ≠ some '/') :
    TargetShape.hasParentSegment (fromRoot base.path (Location.path (base ++ below)) target) =
      TargetShape.hasParentSegment target := by
  have hsegments : (Target.unrooted (fromRoot base.path (Location.path (base ++ below))
      target)).splitOn slash = below.map Name.bytes ++ (Target.unrooted target).splitOn slash := by
    rw [unrooted_fromRoot h htarget]
    split
    · next hbelow => rw [hbelow, List.map_nil, List.nil_append]
    · next hbelow =>
        conv_rhs => rw [← Location.splitOn_intercalate_bytes hbelow]
        exact List.splitOnP_append_cons _ _ (by simp)
  rw [Bool.eq_iff_iff, ← not_iff_not, Bool.not_eq_true, Bool.not_eq_true,
    Target.hasParentSegment_eq_false_iff, Target.hasParentSegment_eq_false_iff, hsegments,
    List.mem_append, or_iff_right below.dotDot_not_mem_bytes]

/-- The two resolvers agree, and so do the two ways to spell a target. A working
directory is what a file is resolved to, if that is a directory and the target has no
dot in front. A target with a slash in front does not depend on the working directory.
One without is resolved as if it came after the path that is shown of the working
directory: to the same path, or the refusals are of one kind. -/
theorem resolvers_agree (hroot : tree.Canonical root) (hcwd : tree.HasDirectory root cwd)
    (htext : cwd.TextBelow root) :
    (∀ p, changeDirectory tree root cwd target = .ok p ↔
      resolveFile tree root cwd target = .ok p ∧ tree.isDir p = true ∧
        target.toList.head? ≠ some '.') ∧
    (target.toList.head? = some '/' → ∀ other,
      changeDirectory tree root other target = changeDirectory tree root cwd target ∧
        resolveFile tree root other target = resolveFile tree root cwd target) ∧
    (target ≠ "" → target.toList.head? ≠ some '/' → ∀ other,
      let named := virtualPath root cwd ++ "/" ++ target
      (resolveFile tree root cwd target).mapError IoError.kind =
          (resolveFile tree root other named).mapError IoError.kind ∧
        (target.toList.head? ≠ some '.' →
          (changeDirectory tree root cwd target).mapError NavigationError.refusal =
            (changeDirectory tree root other named).mapError NavigationError.refusal)) := by
  refine ⟨fun p => changeDirectory_eq_ok_iff_resolveFile, fun hslash other => ?_,
    fun hne hrelative other => ?_⟩
  · have hpath : clientPath root other target = clientPath root cwd target :=
      clientPath_of_rooted (by rw [Target.isRooted, hslash]; rfl) other cwd
    exact ⟨by simp only [changeDirectory, hpath], by simp only [resolveFile, hpath]⟩
  · obtain ⟨base, below, rfl, rfl⟩ := hroot.below hcwd.canonical htext.within
    let named := fromRoot base.path (Location.path (base ++ below)) target
    have hpath : clientPath base.path (Location.path (base ++ below)) target =
        clientPath base.path other named := (clientPath_fromRoot htext hrelative).symm
    have hparent := (hasParentSegment_fromRoot htext hrelative).symm
    have hrooted : Target.isRooted named = true := isRooted_fromRoot base below target
    have hempty : target.isEmpty = named.isEmpty := by
      rw [Target.isEmpty_of_isRooted hrooted, Bool.eq_false_iff, Ne, String.isEmpty_iff]
      exact hne
    refine ⟨resolveFile_mapError hempty hparent hpath, fun hdot => ?_⟩
    have hshape : (TargetShape.ofTarget target).isTraversal =
        (TargetShape.ofTarget named).isTraversal := by
      rw [TargetShape.isTraversal_ofTarget, TargetShape.isTraversal_ofTarget, hparent,
        beq_eq_false_iff_ne.mpr hdot,
        beq_eq_false_iff_ne.mpr (Target.head?_ne_dot_of_isRooted hrooted)]
    exact changeDirectory_mapError hempty hshape hpath

end Navigation

/-- In the hidden directory its file is fetched by its name, and from anywhere by the path
that is shown of the directory and the name after it; under neither may the working
directory be changed to it. -/
theorem resolvers_agree_hidden :
    Navigation.virtualPath (.ofString "/r") (.ofString "/r/.a..b") ++ "/" ++ "f" = "/.a..b/f" ∧
      ∀ other, (Navigation.resolveFile hiddenTree (.ofString "/r") other "/.a..b/f").mapError
          IoError.kind = .ok (.ofString "/r/.a..b/f") ∧
        (Navigation.changeDirectory hiddenTree (.ofString "/r") other "/.a..b/f").mapError
          NavigationError.refusal = .error .notADirectory := by
  have htext : (Path.ofString "/r/.a..b").TextBelow (.ofString "/r") :=
    ⟨.ofString ".a..b", by cbv, by cbv⟩
  have hnamed : Navigation.virtualPath (.ofString "/r") (.ofString "/r/.a..b") ++ "/" ++ "f" =
      "/.a..b/f" := by cbv
  obtain ⟨-, -, hspelled⟩ := @Navigation.resolvers_agree hiddenTree (.ofString "/r")
    (.ofString "/r/.a..b") "f" (by cbv) ⟨by cbv, by cbv, by decide⟩ htext
  refine ⟨hnamed, fun other => ?_⟩
  obtain ⟨hfetched, hchanged⟩ := hspelled (by decide) (by decide) other
  rw [hnamed] at hfetched hchanged
  exact ⟨hfetched.symm.trans (by cbv), (hchanged (by decide)).symm.trans (by cbv)⟩

end PassiveFtp
