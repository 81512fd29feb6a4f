import PassiveFtp.Files.Path
import PassiveFtp.Proofs.Separators

/-!
# The path of a place, read back

A place spells exactly one path, and that path is the plainest there is: a
slash before each name and nothing idle. Cutting it up again gives the names
back, so beginning with another path's components is beginning with the other
place's names, and taking the last component off is taking the last name off.
What makes all of this go through is in the type of names: none of them is
empty, a dot, or two dots, and none holds a slash.
-/

namespace PassiveFtp

namespace Name

theorem not_isIdle (name : Name) : Path.isIdle name.bytes = false := by
  obtain ⟨hempty, hdot, -⟩ := name.legal
  simp [Path.isIdle, hempty, hdot]

theorem bytes_ne_dotDot (name : Name) : name.bytes ≠ dotDot :=
  name.legal.2.2.1

theorem slash_not_mem (name : Name) : slash ∉ name.bytes :=
  name.legal.2.2.2.1

theorem zero_not_mem (name : Name) : 0 ∉ name.bytes :=
  name.legal.2.2.2.2.1

theorem length_le (name : Name) : name.bytes.length ≤ Name.maxLength :=
  name.legal.2.2.2.2.2

theorem bytes_injective {s t : Name} (h : s.bytes = t.bytes) : s = t := by
  cases s
  cases t
  cases h
  rfl

theorem legal_letter (n : Nat) : Legal [0x61 + UInt8.ofNat (n % 26)] := by
  have hletters : ∀ k : Fin 26, Legal [0x61 + UInt8.ofNat k] := by decide
  exact hletters ⟨n % 26, Nat.mod_lt n (by decide)⟩

/-- The name that is one small letter. -/
def letter (c : Char) : Name :=
  ⟨[0x61 + UInt8.ofNat ((c.toNat - 0x61) % 26)], legal_letter _⟩

end Name

/-! ## Cutting the path up -/

namespace Location

open PassiveFtp.Path

theorem path_bytes (place : Location) :
    place.path.bytes = slash :: [slash].intercalate (place.map Name.bytes) := rfl

theorem zero_not_mem_path (place : Location) : 0 ∉ place.path.bytes := by
  rw [path_bytes, List.mem_cons, mem_intercalate_iff (by decide), not_or]
  refine ⟨by decide, ?_⟩
  rintro ⟨segment, hsegment, hzero⟩
  obtain ⟨name, -, rfl⟩ := List.mem_map.mp hsegment
  exact name.zero_not_mem hzero

/-- Names with slashes between them are cut apart again. -/
theorem splitOn_intercalate_bytes {place : Location} (h : place ≠ []) :
    ([slash].intercalate (place.map Name.bytes)).splitOn slash = place.map Name.bytes := by
  refine List.splitOn_intercalate slash (fun segment hsegment => ?_) (by simpa using h)
  obtain ⟨name, -, rfl⟩ := List.mem_map.mp hsegment
  exact name.slash_not_mem

theorem dotDot_not_mem_bytes (place : Location) : dotDot ∉ place.map Name.bytes := by
  intro hdots
  obtain ⟨name, -, hname⟩ := List.mem_map.mp hdots
  exact name.bytes_ne_dotDot hname

theorem segments_path (place : Location) :
    place.path.segments = [] :: ([slash].intercalate (place.map Name.bytes)).splitOn slash := by
  rw [Path.segments, path_bytes, List.splitOn_cons_eq_if_modifyHead]
  simp

theorem segments_path_nil : (Location.path []).segments = [[], []] := by
  rw [segments_path]
  rfl

theorem segments_path_cons (name : Name) (rest : Location) :
    (Location.path (name :: rest)).segments = [] :: (name :: rest).map Name.bytes := by
  rw [segments_path, splitOn_intercalate_bytes (List.cons_ne_nil _ _)]

theorem anchored_path_nil : (Location.path []).anchored = (.top, [[]]) := by
  rw [Path.anchored, segments_path_nil]

theorem anchored_path_cons (name : Name) (rest : Location) :
    (Location.path (name :: rest)).anchored = (.top, (name :: rest).map Name.bytes) := by
  rw [Path.anchored, segments_path_cons]
  rfl

/-! ## Components -/

theorem ofSegment?_bytes (name : Name) :
    Component.ofSegment? name.bytes = some (.name name.bytes) := by
  rw [Component.ofSegment?, name.not_isIdle, if_neg (by simp), if_neg name.bytes_ne_dotDot]

theorem components_path (place : Location) :
    place.path.components = .top :: place.map fun name => .name name.bytes := by
  cases place with
  | nil =>
      rw [Path.components, anchored_path_nil]
      rfl
  | cons name rest =>
      have hnames : Component.ofSegment? ∘ Name.bytes = some ∘ fun name => .name name.bytes :=
        funext ofSegment?_bytes
      rw [Path.components, anchored_path_cons]
      simp only [Anchor.components, List.filterMap_map, hnames, List.filterMap_eq_map]
      rfl

/-- A place's path is below another's exactly when the place is. -/
theorem within_path_iff (place base : Location) : place.path.Within base.path ↔ base <+: place := by
  rw [Path.Within, components_path, components_path, List.cons_prefix_cons]
  simp only [true_and]
  exact List.prefix_map_iff_of_injective fun s t h => Name.bytes_injective (by simpa using h)

theorem path_injective {place other : Location} (h : place.path = other.path) : place = other := by
  have hfront : place <+: other := (within_path_iff other place).mp (h ▸ List.prefix_refl _)
  have hback : other <+: place := (within_path_iff place other).mp (h ▸ List.prefix_refl _)
  exact hfront.eq_of_length (Nat.le_antisymm hfront.length_le hback.length_le)

/-! ## The path above -/

theorem dropIdleEnd_bytes (place : Location) :
    dropIdleEnd (place.map Name.bytes) = place.map Name.bytes := by
  rw [dropIdleEnd, ← List.map_reverse]
  cases hreverse : place.reverse with
  | nil => simp [List.reverse_eq_nil_iff.mp hreverse]
  | cons last front =>
      rw [List.map_cons, List.dropWhile_cons_of_neg (by simp [last.not_isIdle]), ← List.map_cons,
        ← hreverse, List.map_reverse, List.reverse_reverse]

theorem parent?_path_nil : (Location.path []).parent? = none := by
  rw [Path.parent?, anchored_path_nil]
  rfl

/-- The path above that of a place is the path of the place above. -/
theorem parent?_path_concat (front : Location) (last : Name) :
    (Location.path (front ++ [last])).parent? = some front.path := by
  have hanchored : (Location.path (front ++ [last])).anchored =
      (.top, (front ++ [last]).map Name.bytes) := by
    cases front with
    | nil => exact anchored_path_cons last []
    | cons name rest => exact anchored_path_cons name (rest ++ [last])
  have hreverse : ((front ++ [last]).map Name.bytes).reverse =
      last.bytes :: (front.map Name.bytes).reverse := by simp
  rw [Path.parent?, hanchored]
  simp only [dropIdleEnd_bytes, hreverse, List.reverse_reverse]
  rfl

end Location

end PassiveFtp
