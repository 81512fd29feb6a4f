import Mathlib
import PassiveFtp.Proofs.AsciiBytes
import PassiveFtp.Text.Blank
import PassiveFtp.Text.Decimal

/-!
# Numbers written in decimal, and read again

Writing gives one text for each number and reading takes many: zeros and a plus
sign may stand in front, and white space around. `Spells` is what reading takes,
said of the text alone, and the digits that are written are one such text.
-/

namespace PassiveFtp.Decimal

/-- A text spells a number with digits, if what is around it is trimmed and a plus
sign in front is not counted. -/
def Spells (text : List Char) (n : Nat) : Prop :=
  ∃ run, (Text.trim text = run ∨ Text.trim text = '+' :: run) ∧ run ≠ [] ∧
    (∀ c ∈ run, c.isDigit = true) ∧ value run = n

/-! ## Digits -/

theorem toNat_digit (n : Nat) : (digit n).toNat = 48 + n % 10 := by
  have hlt : n % 10 < 10 := Nat.mod_lt _ (by omega)
  rw [digit, Utf8.toNat_ofNat_of_valid (.inl (by simp; omega))]
  rfl

theorem toNat_of_mem_digits {n : Nat} {c : Char} (h : c ∈ digits n) :
    48 ≤ c.toNat ∧ c.toNat ≤ 57 := by
  fun_induction digits n with
  | case1 n _ =>
      obtain rfl := List.mem_singleton.mp h
      rw [toNat_digit]
      omega
  | case2 n _ ih =>
      rcases List.mem_append.mp h with hfront | hlast
      · exact ih hfront
      · obtain rfl := List.mem_singleton.mp hlast
        rw [toNat_digit]
        omega

theorem length_digits {n : Nat} (hlow : 100 ≤ n) (hhigh : n < 1000) : (digits n).length = 3 := by
  rw [digits, if_neg (by omega), digits, if_neg (by omega), digits, if_pos (by omega)]
  rfl

theorem digits_ne_nil (n : Nat) : digits n ≠ [] := by
  rw [digits]
  split
  · exact List.cons_ne_nil _ _
  · exact List.append_ne_nil_of_right_ne_nil _ (List.cons_ne_nil _ _)

theorem isDigit_iff {c : Char} : c.isDigit = true ↔ 48 ≤ c.toNat ∧ c.toNat ≤ 57 := by
  simp only [Char.isDigit, Bool.and_eq_true, decide_eq_true_eq, ge_iff_le, UInt32.le_iff_toNat_le]
  rfl

theorem isDigit_of_mem_digits {n : Nat} {c : Char} (h : c ∈ digits n) : c.isDigit = true :=
  isDigit_iff.mpr (toNat_of_mem_digits h)

/-- A character that is no digit is not among those written. -/
theorem not_mem_digits {c : Char} (h : c.isDigit = false) (n : Nat) : c ∉ digits n := by
  intro hmem
  rw [isDigit_of_mem_digits hmem] at h
  cases h

theorem value_digits (n : Nat) : value (digits n) = n := by
  fun_induction digits n with
  | case1 n hsmall =>
      show 0 * 10 + ((digit n).toNat - 48) = n
      rw [toNat_digit]
      omega
  | case2 n _ ih =>
      rw [value, List.foldl_append, ← value, ih]
      show n / 10 * 10 + ((digit n).toNat - 48) = n
      rw [toNat_digit]
      omega

/-! ## Reading -/

theorem readDigits?_eq_some_iff {bound n : Nat} {run : List Char} :
    readDigits? bound run = some n ↔
      run ≠ [] ∧ (∀ c ∈ run, c.isDigit = true) ∧ value run = n ∧ n ≤ bound := by
  simp only [readDigits?]
  split
  · next hbad =>
      simp only [Bool.or_eq_true, List.isEmpty_iff, Bool.not_eq_true', List.all_eq_false] at hbad
      refine iff_of_false (by simp) ?_
      rintro ⟨hne, hall, -⟩
      rcases hbad with hnil | ⟨c, hc, hnot⟩
      · exact hne hnil
      · exact hnot (hall c hc)
  · next hgood =>
      simp only [Bool.or_eq_true, List.isEmpty_iff, Bool.not_eq_true', not_or,
        Bool.not_eq_false, List.all_eq_true] at hgood
      split
      · next hle =>
          rw [Option.some.injEq]
          constructor
          · rintro rfl
            exact ⟨hgood.1, hgood.2, rfl, hle⟩
          · exact fun h => h.2.2.1
      · next hgt =>
          refine iff_of_false (by simp) ?_
          rintro ⟨-, -, rfl, hle⟩
          exact hgt hle

/-- A plus sign is no digit, so there is only one way to read a text. -/
theorem read?_eq_some_iff {bound n : Nat} {text : List Char} :
    read? bound text = some n ↔
      ∃ run, (text = run ∨ text = '+' :: run) ∧ readDigits? bound run = some n := by
  constructor
  · intro h
    rw [read?.eq_def] at h
    split at h
    · next run => exact ⟨run, .inr rfl, h⟩
    · exact ⟨text, .inl rfl, h⟩
  · rintro ⟨run, rfl | rfl, h⟩
    · rw [read?]
      · exact h
      · rintro rest rfl
        exact absurd ((readDigits?_eq_some_iff.mp h).2.1 '+' List.mem_cons_self) (by decide)
    · rw [read?]
      exact h

theorem read?_trim_eq_some_iff {bound n : Nat} {text : List Char} :
    read? bound (Text.trim text) = some n ↔ Spells text n ∧ n ≤ bound := by
  simp only [read?_eq_some_iff, readDigits?_eq_some_iff, Spells]
  constructor
  · rintro ⟨run, htext, hne, hall, hvalue, hle⟩
    exact ⟨⟨run, htext, hne, hall, hvalue⟩, hle⟩
  · rintro ⟨⟨run, htext, hne, hall, hvalue⟩, hle⟩
    exact ⟨run, htext, hne, hall, hvalue, hle⟩

/-! ## What is written is read -/

theorem not_isBlank_of_isDigit {c : Char} (h : c.isDigit = true) : Text.isBlank c = false := by
  obtain ⟨hlow, hhigh⟩ := isDigit_iff.mp h
  simp only [Text.isBlank, Bool.or_eq_false_iff, Bool.and_eq_false_iff, decide_eq_false_iff_not,
    beq_eq_false_iff_ne]
  omega

theorem trim_digits (n : Nat) : Text.trim (digits n) = digits n := by
  have hstart : ∀ text : List Char, (∀ c ∈ text, Text.isBlank c = false) →
      text.dropWhile Text.isBlank = text := by
    intro text htext
    cases text with
    | nil => rfl
    | cons c rest => rw [List.dropWhile_cons_of_neg (by simp [htext c List.mem_cons_self])]
  have hblank : ∀ c ∈ digits n, Text.isBlank c = false := fun c hc =>
    not_isBlank_of_isDigit (isDigit_of_mem_digits hc)
  rw [Text.trim, Text.trimStart, hstart _ hblank, Text.trimEnd, hstart _ (by simpa using hblank),
    List.reverse_reverse]

theorem spells_digits (n : Nat) : Spells (digits n) n :=
  ⟨digits n, .inl (trim_digits n), digits_ne_nil n,
    fun _ hc => isDigit_of_mem_digits hc, value_digits n⟩

end PassiveFtp.Decimal
