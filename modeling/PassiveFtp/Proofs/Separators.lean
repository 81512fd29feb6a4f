/-!
# Lists joined by a separator, and cut at it

Paths are joined by slashes, tuples by commas and lines by spaces. Whatever the
separator is, joining adds nothing but it, and what is cut out holds none of it.

Coding and decoding are done piece by piece, and make a separator of a separator
and of nothing else. Then it does not matter whether the cutting is done before or
after (`KeepsCuts.splitOn`).
-/

namespace PassiveFtp

variable {α β : Type} {a x : α}

theorem mem_intercalate_iff (h : x ≠ a) (parts : List (List α)) :
    x ∈ [a].intercalate parts ↔ ∃ part ∈ parts, x ∈ part := by
  induction parts with
  | nil => simp
  | cons first rest ih =>
      cases rest with
      | nil => simp
      | cons next more =>
          rw [List.intercalate_cons_cons, List.mem_append, List.mem_append, ih]
          simp [h]

/-- A part of a list that was cut holds no separator. -/
theorem not_mem_of_mem_splitOn [BEq α] [LawfulBEq α] {xs part : List α}
    (h : part ∈ xs.splitOn a) : a ∉ part := by
  induction xs generalizing part with
  | nil =>
      rw [show List.splitOn a [] = [[]] from rfl, List.mem_singleton] at h
      rw [h]
      exact List.not_mem_nil
  | cons x rest ih =>
      rw [List.splitOn_cons_eq_if_modifyHead] at h
      split at h
      · rcases List.mem_cons.mp h with rfl | hrest
        · exact List.not_mem_nil
        · exact ih hrest
      · next hx =>
          obtain ⟨first, others, hsplit⟩ :=
            List.exists_cons_of_ne_nil (List.splitOn_ne_nil a rest)
          rw [hsplit] at h ih
          rcases List.mem_cons.mp h with rfl | hothers
          · rw [List.mem_cons, not_or]
            exact ⟨fun hsame => hx (by simp [hsame]), ih List.mem_cons_self⟩
          · exact ih (List.mem_cons_of_mem first hothers)

/-! ## Functions that keep separators -/

/-- A function that takes what stands on either side of a separator by itself, and makes
no separator of anything else. -/
structure KeepsCuts (f : List α → List β) (a : α) (b : β) : Prop where
  nil : f [] = []
  append : ∀ front rest, f (front ++ a :: rest) = f front ++ b :: f rest
  apart : ∀ part, a ∉ part → b ∉ f part

namespace KeepsCuts

variable {f : List α → List β} {b : β}

theorem intercalate (h : KeepsCuts f a b) (parts : List (List α)) :
    f ([a].intercalate parts) = [b].intercalate (parts.map f) := by
  induction parts with
  | nil => exact h.nil
  | cons first others ih =>
      cases others with
      | nil => simp
      | cons next more =>
          rw [List.intercalate_cons_cons, List.append_assoc, List.singleton_append, h.append, ih]
          simp

/-- Cutting comes to the same before the function and after it. -/
theorem splitOn [BEq α] [LawfulBEq α] [BEq β] [LawfulBEq β] (h : KeepsCuts f a b)
    (xs : List α) : (f xs).splitOn b = (xs.splitOn a).map f := by
  have hjoined := h.intercalate (xs.splitOn a)
  rw [List.intercalate_splitOn] at hjoined
  rw [hjoined, List.splitOn_intercalate]
  · intro piece hpiece
    obtain ⟨part, hpart, rfl⟩ := List.mem_map.mp hpiece
    exact h.apart part (not_mem_of_mem_splitOn hpart)
  · simp [List.splitOn_ne_nil]

end KeepsCuts

end PassiveFtp
