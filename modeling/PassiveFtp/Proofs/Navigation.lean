import PassiveFtp.Navigation
import PassiveFtp.Proofs.Resolution

/-!
# What navigation lets through

Each of the three functions ends in a comparison with the root, made on a path
that nothing is done to afterwards. A target that comes through is therefore
the canonical form of what the client named, or the path above the working
directory, and inside the root either way.
-/

namespace PassiveFtp

theorem Path.Within.refl (p : Path) : p.Within p :=
  List.prefix_refl _

namespace Navigation

variable {tree : Tree} {root cwd found parent : Path} {target : String}

theorem changeDirectory_eq_ok (h : changeDirectory tree root cwd target = .ok found) :
    tree.canonicalize (clientPath root cwd target) = .ok found ∧ found.Within root ∧
      tree.isDir found = true := by
  simp only [changeDirectory] at h
  split at h
  · cases h
  · split at h
    · cases h
    · split at h
      · cases h
      · next p hcanonicalize =>
          split at h
          · cases h
          · next hwithin =>
              split at h
              · cases h
              · next hdir =>
                  cases h
                  exact ⟨hcanonicalize, Decidable.not_not.mp hwithin, by simpa using hdir⟩

theorem parentDirectory_eq_ok (h : parentDirectory tree root cwd = .ok parent) :
    cwd.parent? = some parent ∧ parent.Within root ∧ tree.isDir parent = true := by
  simp only [parentDirectory] at h
  split at h
  · cases h
  · split at h
    · cases h
    · next p hparent =>
        obtain ⟨hparent, hwithin⟩ := Option.filter_eq_some_iff.mp hparent
        split at h
        · next entries hfind =>
            cases h
            exact ⟨hparent, by simpa using hwithin, by rw [Tree.isDir, hfind]; rfl⟩
        · cases h
        · cases h

theorem resolveFile_eq_ok (h : resolveFile tree root cwd target = .ok found) :
    tree.canonicalize (clientPath root cwd target) = .ok found ∧ found.Within root := by
  simp only [resolveFile] at h
  split at h
  · cases h
  · split at h
    · cases h
    · next p hcanonicalize =>
        split at h
        · next hwithin =>
            cases h
            exact ⟨hcanonicalize, hwithin⟩
        · cases h

theorem changeDirectory_eq_ok_iff :
    changeDirectory tree root cwd target = .ok found ↔
      target.isEmpty = false ∧ (TargetShape.ofTarget target).isTraversal = false ∧
        tree.canonicalize (clientPath root cwd target) = .ok found ∧ found.Within root ∧
          tree.isDir found = true := by
  constructor
  · intro h
    obtain ⟨hcanonicalize, hwithin, hdir⟩ := changeDirectory_eq_ok h
    simp only [changeDirectory] at h
    split at h
    · cases h
    · next hempty =>
        split at h
        · cases h
        · next hshape =>
            exact ⟨Bool.eq_false_iff.mpr hempty, Bool.eq_false_iff.mpr hshape, hcanonicalize,
              hwithin, hdir⟩
  · rintro ⟨hempty, hshape, hcanonicalize, hwithin, hdir⟩
    simp [changeDirectory, hempty, hshape, hcanonicalize, hwithin, hdir]

theorem resolveFile_eq_ok_iff :
    resolveFile tree root cwd target = .ok found ↔
      target.isEmpty = false ∧ TargetShape.hasParentSegment target = false ∧
        tree.canonicalize (clientPath root cwd target) = .ok found ∧ found.Within root := by
  constructor
  · intro h
    obtain ⟨hcanonicalize, hwithin⟩ := resolveFile_eq_ok h
    simp only [resolveFile] at h
    split at h
    · cases h
    · next hshape =>
        obtain ⟨hempty, hparent⟩ := not_or.mp fun h => hshape (Bool.or_eq_true_iff.mpr h)
        exact ⟨Bool.eq_false_iff.mpr hempty, Bool.eq_false_iff.mpr hparent, hcanonicalize, hwithin⟩
  · rintro ⟨hempty, hparent, hcanonicalize, hwithin⟩
    simp [resolveFile, hempty, hparent, hcanonicalize, hwithin]

end Navigation

end PassiveFtp
