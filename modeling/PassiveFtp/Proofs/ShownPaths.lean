import PassiveFtp.Navigation
import PassiveFtp.Proofs.AsciiBytes
import PassiveFtp.Proofs.Places

/-!
# What is shown of a place

A working directory at or below the root is shown as a slash and the names that
lead from the root to it, with slashes between them, decoded as text. The names
are all that is shown, so whatever ASCII character other than a slash appears
in it is a byte of one of the names: nothing of the root is told, and nothing
that a name holds is kept back.
-/

namespace PassiveFtp

namespace Location

open PassiveFtp.Path

theorem dropSteps_bytes (front : Location) (body : List Segment) :
    dropSteps front.length (front.map Name.bytes ++ body) = body := by
  induction front with
  | nil => rw [List.map_nil, List.nil_append, List.length_nil, dropSteps]
  | cons name rest ih =>
      rw [List.length_cons, List.map_cons, List.cons_append, dropSteps, name.not_isIdle]
      exact ih

theorem dropIdleEnds_bytes (place : Location) :
    dropIdleEnds (place.map Name.bytes) = place.map Name.bytes := by
  rw [dropIdleEnds]
  cases place with
  | nil => rfl
  | cons name rest =>
      rw [List.map_cons, List.dropWhile_cons_of_neg (by simp [name.not_isIdle]), ← List.map_cons,
        dropIdleEnd_bytes]

theorem relativeTo?_path (base below : Location) :
    (Location.path (base ++ below)).relativeTo? base.path =
      some ⟨[slash].intercalate (below.map Name.bytes)⟩ := by
  have hwithin : (Location.path (base ++ below)).Within base.path :=
    (within_path_iff _ _).mpr (List.prefix_append base below)
  have hsteps : base.path.components.length - (Anchor.components .top).length = base.length := by
    rw [components_path, List.length_cons, List.length_map]
    rfl
  rw [relativeTo?, if_pos hwithin]
  cases hplace : base ++ below with
  | nil =>
      obtain ⟨rfl, rfl⟩ := List.append_eq_nil_iff.mp hplace
      rw [anchored_path_nil]
      rfl
  | cons name rest =>
      rw [anchored_path_cons, ← hplace]
      dsimp only
      rw [if_neg (by simp [components_path]), hsteps, List.map_append, dropSteps_bytes,
        dropIdleEnds_bytes]
      rfl

end Location

namespace Navigation

theorem virtualPath_path (base below : Location) :
    virtualPath base.path (Location.path (base ++ below)) =
      "/" ++ Utf8.toStringLossy ([slash].intercalate (below.map Name.bytes)) := by
  rw [virtualPath, Location.relativeTo?_path]
  dsimp only
  split
  · next hempty => rw [hempty, Utf8.toStringLossy, Utf8.decodeLossy]; rfl
  · rfl

theorem virtualPath_root (base : Location) : virtualPath base.path base.path = "/" := by
  have hshown := virtualPath_path base []
  rw [List.append_nil] at hshown
  rw [hshown, List.map_nil, List.intercalate_nil, Utf8.toStringLossy, Utf8.decodeLossy]
  rfl

/-- An ASCII character that is no slash is shown if a name holds its byte. -/
theorem mem_virtualPath_iff {b : UInt8} (hascii : b < 0x80) (hslash : b ≠ slash)
    (base below : Location) :
    Char.ofNat b.toNat ∈ (virtualPath base.path (Location.path (base ++ below))).toList ↔
      ∃ name ∈ below, b ∈ name.bytes := by
  have hfirst : Char.ofNat b.toNat ≠ '/' := fun h => hslash (Utf8.ofNat_byte_injective h)
  rw [virtualPath_path, String.toList_append, List.mem_append,
    show ("/" : String).toList = ['/'] from rfl, List.mem_singleton, or_iff_right hfirst,
    Utf8.toStringLossy, String.toList_ofList, Utf8.mem_decodeLossy_iff hascii,
    mem_intercalate_iff hslash]
  simp

end Navigation

end PassiveFtp
