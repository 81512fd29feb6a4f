import Mathlib
import PassiveFtp.Navigation
import PassiveFtp.Proofs.Separators
import PassiveFtp.Proofs.Utf8RoundTrip

/-!
# What a client names, cut at its slashes

A target is cut at slashes twice: as text, when its shape is looked at, and as
bytes, when the path it has become is walked. Both cuts give the same segments,
because encoding puts the byte of a slash where a slash is and nowhere else, and
gives two segments the same bytes only if they are the same text.

Slashes in front of a target say that it is read from the root and are gone
afterwards. What goes with them is empty segments, and those name no step: the
steps of a target, and what its last segment is, can be read off the whole of it.
-/

namespace PassiveFtp

namespace Utf8

theorem slash_mem_encode_iff {text : List Char} : slash ∈ encode text ↔ '/' ∈ text :=
  mem_encode_iff (by decide)

theorem encode_inj {s t : List Char} : encode s = encode t ↔ s = t := by
  constructor
  · intro h
    rw [← decodeLossy_encode s, h, decodeLossy_encode]
  · exact congrArg encode

theorem encode_keepsCuts : KeepsCuts encode '/' slash where
  nil := rfl
  append front rest := by
    rw [encode_append, ← List.singleton_append, encode_append]
    rfl
  apart part h := by rwa [slash_mem_encode_iff]

/-- Cutting at slashes comes to the same before encoding and after it. -/
theorem splitOn_encode (text : List Char) :
    (encode text).splitOn slash = (text.splitOn '/').map encode :=
  encode_keepsCuts.splitOn text

/-- An encoded text begins with a slash only if the text does. -/
theorem head?_encode_ne {text : List Char} (h : text.head? ≠ some '/') :
    (encode text).head? ≠ some slash := by
  cases text with
  | nil => simp [encode]
  | cons c rest =>
      obtain ⟨b, more, hc⟩ : ∃ b more, encode [c] = b :: more := by
        rw [encode, List.flatMap_singleton]
        exact List.exists_cons_of_ne_nil String.utf8EncodeChar_ne_nil
      have hencode : encode (c :: rest) = b :: more ++ encode rest := by
        rw [← hc, ← encode_append, List.singleton_append]
      rw [hencode, List.cons_append, List.head?_cons]
      rintro hb
      have hslash : slash ∈ encode [c] := by
        rw [hc, Option.some.inj hb]
        exact List.mem_cons_self
      rw [slash_mem_encode_iff, List.mem_singleton] at hslash
      exact h (by rw [List.head?_cons, ← hslash])

end Utf8

namespace Target

/-- The segments of a target, empty ones included. -/
def segments (target : String) : List (List Char) :=
  target.toList.splitOn '/'

/-- Whether a segment of a target names no step. -/
def isIdle (segment : List Char) : Bool :=
  segment == [] || segment == ['.']

/-- The steps a target names, as the bytes they are looked up by. -/
def steps (target : String) : List Segment :=
  ((segments target).filter (!isIdle ·)).map Utf8.encode

/-- Whether a target is read from the root. -/
def isRooted (target : String) : Bool :=
  target.toList.head? == some '/'

/-- The bytes of a target when the slashes in front of it are gone. -/
def unrooted (target : String) : List UInt8 :=
  Utf8.encode (target.toList.dropWhile (· == '/'))

variable {target : String}

theorem isEmpty_of_isRooted (h : isRooted target = true) : target.isEmpty = false := by
  rw [Bool.eq_false_iff, Ne, String.isEmpty_iff]
  rintro rfl
  cases h

theorem head?_ne_dot_of_isRooted (h : isRooted target = true) :
    target.toList.head? ≠ some '.' := by
  rw [beq_iff_eq.mp h]
  simp

theorem head?_unrooted_ne (target : String) : (unrooted target).head? ≠ some slash := by
  refine Utf8.head?_encode_ne fun h => ?_
  have hstop := List.head?_dropWhile_not (· == '/') target.toList
  rw [h] at hstop
  simp at hstop

theorem dropWhile_eq_self {text : List Char} (h : text.head? ≠ some '/') :
    text.dropWhile (· == '/') = text := by
  cases text with
  | nil => rfl
  | cons c rest => exact List.dropWhile_cons_of_neg (by simpa using h)

theorem unrooted_of_relative (h : target.toList.head? ≠ some '/') :
    unrooted target = Utf8.encode target.toList := by
  rw [unrooted, dropWhile_eq_self h]

/-- The slashes in front of a text cut off empty segments. -/
theorem splitOn_dropWhile (text : List Char) :
    ∃ count, text.splitOn '/' =
      List.replicate count [] ++ (text.dropWhile (· == '/')).splitOn '/' := by
  induction text with
  | nil => exact ⟨0, rfl⟩
  | cons c rest ih =>
      by_cases hc : c = '/'
      · subst hc
        obtain ⟨count, hrest⟩ := ih
        refine ⟨count + 1, ?_⟩
        rw [List.splitOn_cons_eq_if_modifyHead, if_pos (by simp), hrest,
          List.dropWhile_cons_of_pos (by simp), List.replicate_succ, List.cons_append]
      · exact ⟨0, by rw [List.dropWhile_cons_of_neg (by simpa using hc)]; rfl⟩

/-- The segments of a target are those that are walked, behind empty ones. -/
theorem segments_eq (target : String) :
    ∃ count, (segments target).map Utf8.encode =
      List.replicate count [] ++ (unrooted target).splitOn slash := by
  obtain ⟨count, hsplit⟩ := splitOn_dropWhile target.toList
  refine ⟨count, ?_⟩
  rw [segments, hsplit, List.map_append, List.map_replicate, unrooted, Utf8.splitOn_encode]
  rfl

theorem isIdle_encode (segment : List Char) :
    Path.isIdle (Utf8.encode segment) = isIdle segment := by
  have hempty : Utf8.encode segment = [] ↔ segment = [] :=
    Utf8.encode_inj (t := [])
  have hdot : Utf8.encode segment = dot ↔ segment = ['.'] :=
    Utf8.encode_inj (t := ['.'])
  rw [Bool.eq_iff_iff]
  simp only [Path.isIdle, isIdle, Bool.or_eq_true, beq_iff_eq, hempty, hdot]

/-- The steps of a target are the segments that are walked and not idle. -/
theorem steps_eq (target : String) :
    steps target = ((unrooted target).splitOn slash).filter (!Path.isIdle ·) := by
  obtain ⟨count, hsegments⟩ := segments_eq target
  have hfilter : steps target =
      ((segments target).map Utf8.encode).filter (!Path.isIdle ·) := by
    rw [steps, List.filter_map]
    refine congrArg (List.map Utf8.encode) (List.filter_congr fun segment _ => ?_)
    rw [Function.comp_apply, isIdle_encode]
  rw [hfilter, hsegments, List.filter_append, List.filter_replicate_of_neg (by simp [Path.isIdle]),
    List.nil_append]

/-- The last segment is walked. -/
theorem getLast?_segments (target : String) :
    ((segments target).map Utf8.encode).getLast? =
      ((unrooted target).splitOn slash).getLast? := by
  obtain ⟨count, hsegments⟩ := segments_eq target
  rw [hsegments, List.getLast?_append_of_ne_nil _ (List.splitOn_ne_nil _ _)]

/-- A target has a segment of two dots if one is walked. -/
theorem hasParentSegment_eq_false_iff :
    TargetShape.hasParentSegment target = false ↔ dotDot ∉ (unrooted target).splitOn slash := by
  obtain ⟨count, hsegments⟩ := segments_eq target
  have hwalked : dotDot ∈ (unrooted target).splitOn slash ↔
      dotDot ∈ (segments target).map Utf8.encode := by
    rw [hsegments, List.mem_append, List.mem_replicate]
    simp [dotDot]
  have htext : dotDot ∈ (segments target).map Utf8.encode ↔ ['.', '.'] ∈ segments target :=
    List.mem_map_of_injective (a := ['.', '.']) fun s t => Utf8.encode_inj.mp
  rw [hwalked, htext, TargetShape.hasParentSegment, List.any_eq_false]
  exact ⟨fun h hmem => h _ hmem (by simp), fun h segment hsegment => by
    rintro hdots
    exact h (by rwa [← beq_iff_eq.mp hdots])⟩

end Target

/-- A target is refused as a working directory for a dot in front or for a segment of
two dots. -/
theorem TargetShape.isTraversal_ofTarget (target : String) :
    (ofTarget target).isTraversal =
      (target.toList.head? == some '.' || hasParentSegment target) := by
  simp only [ofTarget]
  cases target.toList.head? == some '.' with
  | true => rfl
  | false =>
      cases hasParentSegment target with
      | true => rfl
      | false =>
          simp only [Bool.false_eq_true, if_false]
          split <;> rfl

theorem TargetShape.isTraversal_eq_false_iff {target : String} :
    (ofTarget target).isTraversal = false ↔
      target.toList.head? ≠ some '.' ∧ hasParentSegment target = false := by
  rw [isTraversal_ofTarget, Bool.or_eq_false_iff, beq_eq_false_iff_ne]

/-- What a client names is written after the root or the working directory, the
slashes in front of it gone. -/
theorem Navigation.clientPath_eq (root cwd : Path) (target : String) :
    clientPath root cwd target =
      (if Target.isRooted target then root else cwd).join ⟨Target.unrooted target⟩ := by
  simp only [clientPath]
  split
  · next rest htarget =>
      rw [Target.isRooted, Target.unrooted, htarget, List.dropWhile_cons_of_pos (by simp)]
      rfl
  · next hrelative =>
      have hfirst : target.toList.head? ≠ some '/' := fun h => by
        obtain ⟨more, hmore⟩ := List.head?_eq_some_iff.mp h
        exact hrelative more hmore
      rw [Target.isRooted, Target.unrooted_of_relative hfirst, if_neg (by simpa using hfirst)]

end PassiveFtp
