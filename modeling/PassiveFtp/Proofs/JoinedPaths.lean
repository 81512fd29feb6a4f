import Mathlib
import PassiveFtp.Proofs.Resolution

/-!
# A target written after the path of a place

What a client names is written after the path of a directory with a slash in
between, and only the top's own path has that slash already. The segments are
the same either way: the names of the place and then those of the target. So
following the joined path is following the target from the place.

A relative path may also be written step by step, and how it is cut into parts
does not matter as long as no part is empty or holds the slash between it and
the next one.
-/

namespace PassiveFtp

namespace Path

/-- A path with steps written after it one at a time. -/
def descend (p : Path) (steps : List Segment) : Path :=
  steps.foldl (fun q step => q.join ⟨step⟩) p

/-- A path that is not empty and ends in no slash is told apart from what is written
after it by one. -/
theorem join_of_getLast?_ne {p q : Path} (hq : q.isAbsolute = false) (hne : p.bytes ≠ [])
    (hlast : p.bytes.getLast? ≠ some slash) : p.join q = ⟨p.bytes ++ slash :: q.bytes⟩ := by
  rw [join, hq, if_neg (by simp), if_neg (not_or.mpr ⟨hne, hlast⟩)]

/-- Writing after a path goes part by part. -/
theorem join_join {p q r : Path} (hq : q.isAbsolute = false) (hr : r.isAbsolute = false)
    (hne : q.bytes ≠ []) (hlast : q.bytes.getLast? ≠ some slash) :
    (p.join q).join r = p.join (q.join r) := by
  have hrelative : isAbsolute ⟨q.bytes ++ slash :: r.bytes⟩ = false := by
    rw [isAbsolute, List.head?_append_of_ne_nil _ hne]
    exact hq
  have hends : ∀ front : List UInt8, (front ++ q.bytes).getLast? ≠ some slash := fun front => by
    rwa [List.getLast?_append_of_ne_nil _ hne]
  rw [join_of_getLast?_ne hr hne hlast]
  by_cases hp : p.bytes = [] ∨ p.bytes.getLast? = some slash
  · have houter : p.join q = ⟨p.bytes ++ q.bytes⟩ := by
      rw [join, hq, if_neg (by simp), if_pos hp]
    rw [houter, join_of_getLast?_ne hr (by simp [hne]) (hends _), join, hrelative,
      if_neg (by simp), if_pos hp, List.append_assoc]
  · obtain ⟨hsome, hopen⟩ := not_or.mp hp
    rw [join_of_getLast?_ne hq hsome hopen, join_of_getLast?_ne hrelative hsome hopen,
      List.append_cons, join_of_getLast?_ne hr (by simp) (hends _)]
    simp

/-- Steps that a path can be written from: none is empty, and none holds a slash. -/
def AreSteps (steps : List Segment) : Prop :=
  ∀ step ∈ steps, step ≠ [] ∧ slash ∉ step

theorem AreSteps.head?_ne {steps : List Segment} (h : AreSteps steps) :
    ([slash].intercalate steps).head? ≠ some slash := by
  cases steps with
  | nil => simp
  | cons first rest =>
      obtain ⟨hfirst, hslash⟩ := h first List.mem_cons_self
      cases rest with
      | nil => simpa using fun h => hslash (List.mem_of_head? h)
      | cons =>
          rw [List.intercalate_cons_cons, List.append_assoc, List.head?_append_of_ne_nil _ hfirst]
          exact fun h => hslash (List.mem_of_head? h)

/-- Steps written one at a time make one relative path after the first. -/
theorem AreSteps.descend_eq_join {steps : List Segment} (h : AreSteps steps) (hne : steps ≠ [])
    (p : Path) : p.descend steps = p.join ⟨[slash].intercalate steps⟩ := by
  induction steps generalizing p with
  | nil => exact absurd rfl hne
  | cons first rest ih =>
      obtain ⟨⟨hfirst, hslash⟩, hrest⟩ := List.forall_mem_cons.mp h
      cases rest with
      | nil => simp [descend]
      | cons next more =>
          have hlast : first.getLast? ≠ some slash := fun h => hslash (List.mem_of_getLast? h)
          have hopening : isAbsolute ⟨first⟩ = false := by
            simpa [isAbsolute] using fun h => hslash (List.mem_of_head? h)
          have hjoined : isAbsolute ⟨[slash].intercalate (next :: more)⟩ = false := by
            simpa [isAbsolute] using AreSteps.head?_ne hrest
          have hpart : join ⟨first⟩ ⟨[slash].intercalate (next :: more)⟩ =
              ⟨[slash].intercalate (first :: next :: more)⟩ := by
            rw [join_of_getLast?_ne hjoined hfirst hlast, List.intercalate_cons_cons]
            simp
          show (p.join ⟨first⟩).descend (next :: more) = _
          rw [ih hrest (List.cons_ne_nil _ _), join_join hopening hjoined hfirst hlast, hpart]

end Path

namespace Location

open PassiveFtp.Path

theorem bytes_path_cons (name : Name) (rest : Location) :
    (path (name :: rest)).bytes = (name :: rest).flatMap fun next => slash :: next.bytes := by
  induction rest generalizing name with
  | nil => simp [path_bytes]
  | cons next more ih =>
      rw [List.flatMap_cons, ← ih next, path_bytes, path_bytes, List.map_cons, List.map_cons,
        List.intercalate_cons_cons]
      simp

theorem bytes_path_concat (front : Location) (last : Name) :
    (path (front ++ [last])).bytes =
      (front.flatMap fun next => slash :: next.bytes) ++ slash :: last.bytes := by
  cases front with
  | nil => rw [List.nil_append, bytes_path_cons, List.flatMap_singleton]; rfl
  | cons name more =>
      rw [List.cons_append, bytes_path_cons, ← List.cons_append, List.flatMap_append,
        List.flatMap_singleton]

/-- Only the top's own path ends in a slash. -/
theorem getLast?_path_ne {place : Location} (h : place ≠ []) :
    place.path.bytes.getLast? ≠ some slash := by
  cases place using List.reverseRecOn with
  | nil => exact absurd rfl h
  | append_singleton front last =>
      obtain ⟨b, others, hlast⟩ := List.exists_cons_of_ne_nil last.legal.1
      rw [bytes_path_concat, hlast, List.getLast?_append_of_ne_nil _ (List.cons_ne_nil _ _),
        List.getLast?_cons_cons]
      intro hslash
      exact last.slash_not_mem (hlast ▸ List.mem_of_getLast? hslash)

variable {rest : List UInt8}

theorem bytes_join_path (place : Location) (hrest : rest.head? ≠ some slash) :
    (place.path.join ⟨rest⟩).bytes =
      if place = [] then slash :: rest else place.path.bytes ++ slash :: rest := by
  have habsolute : isAbsolute ⟨rest⟩ = false := by simpa [isAbsolute] using hrest
  rw [join, habsolute, if_neg (by simp)]
  by_cases htop : place = []
  · subst htop
    rfl
  · rw [if_neg htop, if_neg]
    rintro (hempty | hslash)
    · simp [path_bytes] at hempty
    · exact getLast?_path_ne htop hslash

theorem segments_join_path (place : Location) (hrest : rest.head? ≠ some slash) :
    (place.path.join ⟨rest⟩).segments = [] :: (place.map Name.bytes ++ rest.splitOn slash) := by
  rw [segments, bytes_join_path place hrest]
  cases place with
  | nil =>
      rw [if_pos rfl, List.splitOn_cons_eq_if_modifyHead, if_pos (by simp)]
      rfl
  | cons name more =>
      have hsplit : (path (name :: more)).segments = [] :: (name :: more).map Name.bytes :=
        segments_path_cons name more
      rw [if_neg (by simp), ← List.cons_append, ← hsplit]
      exact List.splitOnP_append_cons _ _ (by simp)

/-- The path of an entry is its name written after the path of the directory. -/
theorem join_path_name (place : Location) (name : Name) :
    place.path.join ⟨name.bytes⟩ = path (place ++ [name]) := by
  have hslash : name.bytes.head? ≠ some slash :=
    fun h => name.slash_not_mem (List.mem_of_head? h)
  have hbytes : (place.path.join ⟨name.bytes⟩).bytes = (path (place ++ [name])).bytes := by
    rw [bytes_join_path place hslash, bytes_path_concat]
    cases place with
    | nil => rfl
    | cons first more => rw [if_neg (List.cons_ne_nil _ _), bytes_path_cons]
  exact congrArg Path.mk hbytes

theorem descend_path (front back : Location) :
    front.path.descend (back.map Name.bytes) = path (front ++ back) := by
  induction back generalizing front with
  | nil => rw [List.append_nil]; rfl
  | cons name rest ih =>
      rw [List.append_cons, ← ih]
      show (front.path.join ⟨name.bytes⟩).descend _ = _
      rw [join_path_name]

theorem areSteps_bytes (place : Location) : AreSteps (place.map Name.bytes) := by
  intro step hstep
  obtain ⟨name, -, rfl⟩ := List.mem_map.mp hstep
  exact ⟨name.legal.1, name.slash_not_mem⟩

/-- The path of a place, taken up at a place above it. -/
theorem join_path_names (front : Location) {back : Location} (h : back ≠ []) :
    front.path.join ⟨[slash].intercalate (back.map Name.bytes)⟩ = path (front ++ back) := by
  rw [← descend_path, (areSteps_bytes back).descend_eq_join (by simpa using h)]

theorem intercalate_bytes_ne_nil {place : Location} (h : place ≠ []) :
    [slash].intercalate (place.map Name.bytes) ≠ [] := by
  obtain ⟨name, hname⟩ := List.exists_mem_of_ne_nil place h
  obtain ⟨b, hb⟩ := List.exists_mem_of_ne_nil name.bytes name.legal.1
  have hslash : b ≠ slash := by
    rintro rfl
    exact name.slash_not_mem hb
  exact List.ne_nil_of_mem ((mem_intercalate_iff hslash _).mpr
    ⟨name.bytes, List.mem_map_of_mem hname, hb⟩)

/-- What is written after the path of a place may be written after names that lead
to the place. -/
theorem join_path_append (front : Location) {back : Location} (h : back ≠ [])
    (hrest : rest.head? ≠ some slash) :
    (path (front ++ back)).join ⟨rest⟩ =
      front.path.join ⟨[slash].intercalate (back.map Name.bytes) ++ slash :: rest⟩ := by
  have hopening := (areSteps_bytes back).head?_ne
  have hlonger : ([slash].intercalate (back.map Name.bytes) ++ slash :: rest).head? ≠
      some slash := by
    rwa [List.head?_append_of_ne_nil _ (intercalate_bytes_ne_nil h)]
  have hbytes : ((path (front ++ back)).join ⟨rest⟩).bytes =
      (front.path.join ⟨[slash].intercalate (back.map Name.bytes) ++ slash :: rest⟩).bytes := by
    rw [bytes_join_path _ hrest, if_neg (by simp [h]), ← join_path_names front h,
      bytes_join_path front hopening, bytes_join_path front hlonger]
    split <;> simp
  exact congrArg Path.mk hbytes

/-- Steps down from a place that spell another one are the names that lead there. -/
theorem descend_path_eq_iff {base place : Location} {steps : List Segment} (h : AreSteps steps) :
    base.path.descend steps = place.path ↔
      ∃ names, place = base ++ names ∧ steps = names.map Name.bytes := by
  constructor
  · intro hsame
    by_cases hne : steps = []
    · subst hne
      exact ⟨[], by rw [List.append_nil]; exact (path_injective hsame).symm, rfl⟩
    · have hsegments : place.path.segments = [] :: (base.map Name.bytes ++ steps) := by
        rw [← hsame, h.descend_eq_join hne, segments_join_path base h.head?_ne,
          List.splitOn_intercalate slash (fun step hstep => (h step hstep).2) hne]
      cases place with
      | nil =>
          rw [segments_path_nil, List.cons.injEq] at hsegments
          obtain ⟨last, hlast⟩ : ∃ last, steps.getLast? = some last :=
            ⟨_, List.getLast?_eq_some_getLast hne⟩
          have hempty : some last = some [] := by
            rw [← hlast, ← List.getLast?_append_of_ne_nil (base.map Name.bytes) hne,
              ← hsegments.2]
            rfl
          cases hempty
          exact absurd rfl (h [] (List.mem_of_getLast? hlast)).1
      | cons name rest =>
          rw [segments_path_cons, List.cons.injEq] at hsegments
          obtain ⟨front, names, hplace, hfront, hnames⟩ :=
            List.map_eq_append_iff.mp hsegments.2
          obtain rfl : front = base :=
            List.map_injective_iff.mpr (fun s t h => Name.bytes_injective h) hfront
          exact ⟨names, hplace, hnames.symm⟩
  · rintro ⟨names, rfl, rfl⟩
    exact descend_path base names

end Location

namespace Tree

variable {tree : Tree}

/-- From a place that is there only the target is left to follow, and it is
followed if there is no zero byte in it. -/
theorem locate_join {place : Location} (h : tree.Reached place) {rest : List UInt8}
    (hrest : rest.head? ≠ some slash) :
    tree.locate (place.path.join ⟨rest⟩) =
      if 0 ∈ rest then .error (.told .invalidInput "file name contained an unexpected NUL byte")
      else (tree.walk maxLinks place (rest.splitOn slash)).mapError .system := by
  have hzero : 0 ∈ (place.path.join ⟨rest⟩).bytes ↔ 0 ∈ rest := by
    rw [Location.bytes_join_path place hrest]
    split
    · simp [slash]
    · simp [slash, place.zero_not_mem_path]
  have hne : (place.path.join ⟨rest⟩).bytes ≠ [] := by
    rw [Location.bytes_join_path place hrest]
    split <;> simp
  have hwalk : tree.walk maxLinks [] (place.path.join ⟨rest⟩).segments =
      tree.walk maxLinks place (rest.splitOn slash) := by
    rw [Location.segments_join_path place hrest, walk_idle _ (get?_nil tree) rfl]
    exact walk_names_append _ h
  simp only [locate, hzero, if_neg hne, hwalk]

/-- Nothing or a dot written after the path of a directory leads to the directory. -/
theorem canonicalize_join_idle {p : Path} (h : tree.Canonical p) (hdir : tree.isDir p = true)
    {segment : Segment} (hidle : Path.isIdle segment = true) :
    tree.canonicalize (p.join ⟨segment⟩) = .ok p := by
  obtain ⟨place, hreached, rfl⟩ := canonical_iff.mp h
  obtain ⟨entries, hfind⟩ := find_of_isDir hdir
  have hentries : tree.get? place = some (.dir entries) := get?_of_find hreached hfind
  obtain ⟨hslash, hzero⟩ : slash ∉ segment ∧ 0 ∉ segment := by
    simp only [Path.isIdle, Bool.or_eq_true, beq_iff_eq] at hidle
    rcases hidle with rfl | rfl <;> decide
  have hwalk : tree.walk maxLinks place (segment.splitOn slash) = .ok place := by
    rw [List.splitOn_eq_singleton hslash, walk_idle _ hentries hidle, walk]
  rw [canonicalize, locate_join hreached fun h => hslash (List.mem_of_head? h), if_neg hzero,
    hwalk]
  rfl

/-- What stands at a place is found by its names below a place above it, if it is not
that place or that place is a directory. -/
theorem canonicalize_join_names {front back : Location}
    (h : tree.Canonical (Location.path (front ++ back)))
    (hopen : front ++ back ≠ front ∨ tree.isDir front.path = true) :
    tree.canonicalize (front.path.join ⟨[slash].intercalate (back.map Name.bytes)⟩) =
      .ok (Location.path (front ++ back)) := by
  by_cases hback : back = []
  · subst hback
    rw [List.append_nil] at h hopen ⊢
    exact canonicalize_join_idle h (hopen.resolve_left (absurd rfl)) rfl
  · rw [Location.join_path_names front hback]
    exact h

end Tree

end PassiveFtp
