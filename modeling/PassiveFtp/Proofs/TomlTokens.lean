import PassiveFtp.Proofs.Spellings
import PassiveFtp.Settings.Toml

/-!
# The tokens of what is spelled in TOML

`Scans` says which tokens a text has, without the fuel of the reader. What becomes of
a gap, a word, a comment or a string depends only on the character that follows, so
each has a lemma that puts its token before the tokens of the rest.

An integer is one word, and no other word looks like it. What makes it a number in
the end is that neither a point nor a colon follows (`readWord?_printInt`).
-/

namespace PassiveFtp.Toml

/-- A character that a comment or a string may have. -/
def IsPrintable (c : Char) : Prop :=
  c = '\t' ∨ 0x20 ≤ c.toNat

instance (c : Char) : Decidable (IsPrintable c) :=
  inferInstanceAs (Decidable (_ ∨ _))

/-- Strings with escapes, except those that name a character by its number. -/
def basic : Quoting where
  mark := '"'
  stands c := IsPrintable c ∧ c ≠ '\x7f' ∧ c ≠ '"' ∧ c ≠ '\\'
  escapes := [('"', '"'), ('\\', '\\'), ('b', '\x08'), ('f', '\x0c'), ('n', '\n'), ('r', '\r'),
    ('t', '\t')]

/-- Strings without escapes. -/
def literal : Quoting where
  mark := '\''
  stands c := IsPrintable c ∧ c ≠ '\x7f' ∧ c ≠ '\''
  escapes := []

def dialect : Dialect where
  blanks := [' ', '\t']
  quotings := [basic, literal]
  words := [("true", .boolean true), ("false", .boolean false)]

/-- A comment, or nothing. -/
def IsNote (note : List Char) : Prop :=
  note = [] ∨ ∃ rest, note = '#' :: rest ∧ ∀ c ∈ rest, IsPrintable c

theorem mem_blanks {c : Char} : c ∈ dialect.blanks ↔ c = ' ' ∨ c = '\t' := by
  simp [dialect]

/-- The tokens of a text, whatever the fuel as long as it lasts. -/
def Scans (text : List Char) (tokens : List Token) : Prop :=
  ∀ fuel, text.length ≤ fuel → scanAll? fuel text = some tokens

/-- The tokens of a gap. -/
def gapTokens (gap : List Char) : List Token :=
  if gap = [] then [] else [.blank (String.ofList gap)]

theorem Scans.cons {c : Char} {rest left : List Char} {token : Option Token}
    {tokens : List Token} (hone : scanOne? c rest = some (token, left))
    (hleft : left.length ≤ rest.length) (h : Scans left tokens) :
    Scans (c :: rest) (token.toList ++ tokens) := by
  intro fuel hfuel
  rw [List.length_cons] at hfuel
  obtain ⟨fuel, rfl⟩ := Nat.exists_eq_add_of_le' (show 1 ≤ fuel by omega)
  rw [scanAll?, hone]
  simp [h fuel (by omega)]

theorem Scans.mark {c : Char} {token : Token} (hmark : mark? c = some token) {rest : List Char}
    {tokens : List Token} (h : Scans rest tokens) : Scans (c :: rest) (token :: tokens) :=
  Scans.cons (by rw [scanOne?, hmark]) (Nat.le_refl _) h

theorem takeWhile_append_of_head {p : Char → Bool} {run rest : List Char}
    (hrun : ∀ c ∈ run, p c = true) (hrest : ∀ c ∈ rest.head?, p c = false) :
    (run ++ rest).takeWhile p = run ∧ (run ++ rest).dropWhile p = rest := by
  rw [List.takeWhile_append_of_pos hrun, List.dropWhile_append_of_pos hrun]
  cases rest with
  | nil => simp
  | cons c tail => simp [hrest c rfl]

theorem isBlank_of_mem {c : Char} (h : c ∈ dialect.blanks) : isBlank c = true := by
  rcases mem_blanks.mp h with rfl | rfl <;> rfl

theorem Scans.gap {gap rest : List Char} {tokens : List Token} (hgap : dialect.IsGap gap)
    (hrest : ∀ c ∈ rest.head?, isBlank c = false) (h : Scans rest tokens) :
    Scans (gap ++ rest) (gapTokens gap ++ tokens) := by
  cases gap with
  | nil => exact h
  | cons c more =>
      have hblank : ∀ d ∈ more, isBlank d = true := fun d hd =>
        isBlank_of_mem (hgap d (List.mem_cons_of_mem _ hd))
      obtain ⟨htake, hdrop⟩ := takeWhile_append_of_head hblank hrest
      have hc : mark? c = none ∧ isBlank c = true := by
        have hmem := hgap c List.mem_cons_self
        refine ⟨?_, isBlank_of_mem hmem⟩
        rcases mem_blanks.mp hmem with rfl | rfl <;> rfl
      have hone : scanOne? c (more ++ rest) =
          some (some (.blank (String.ofList (c :: more))), rest) := by
        simp [scanOne?, hc, htake, hdrop]
      exact Scans.cons hone (by simp) h

theorem Scans.word {word rest : List Char} {tokens : List Token} (hne : word ≠ [])
    (hword : ∀ c ∈ word, isWordChar c = true) (hrest : ∀ c ∈ rest.head?, isWordChar c = false)
    (h : Scans rest tokens) : Scans (word ++ rest) (.word word :: tokens) := by
  cases word with
  | nil => exact absurd rfl hne
  | cons c more =>
      obtain ⟨htake, hdrop⟩ := takeWhile_append_of_head
        (fun d hd => hword d (List.mem_cons_of_mem _ hd)) hrest
      have hc := hword c List.mem_cons_self
      have hother : ∀ other : Char, isWordChar other = false → c ≠ other := by
        rintro other hnot rfl
        rw [hc] at hnot
        cases hnot
      have hmark : mark? c = none := by
        rw [mark?] <;> exact hother _ (by decide)
      have hone : scanOne? c (more ++ rest) = some (some (.word (c :: more)), rest) := by
        simp [scanOne?, hmark, isBlank, hother ' ' (by decide), hother '\t' (by decide),
          hother '#' (by decide), hother '"' (by decide), hother '\'' (by decide), hc, htake, hdrop]
      exact Scans.cons hone (by simp) h

theorem Scans.note {note rest : List Char} {tokens : List Token} (hnote : IsNote note)
    (hrest : ∀ c ∈ rest.head?, c = '\n') (h : Scans rest tokens) : Scans (note ++ rest) tokens := by
  rcases hnote with rfl | ⟨chars, rfl, hchars⟩
  · exact h
  · have hprint : ∀ c ∈ chars, isCommentChar c = true := fun c hc => by
      simpa [isCommentChar, IsPrintable] using hchars c hc
    have hend : ∀ c ∈ rest.head?, isCommentChar c = false := fun c hc => by
      rw [hrest c hc]
      rfl
    have hdrop := (takeWhile_append_of_head hprint hend).2
    have hone : scanOne? '#' (chars ++ rest) = some (none, rest) := by
      simp [scanOne?, mark?, isBlank, hdrop]
    exact Scans.cons hone (by simp) h

/-! ## Strings -/

end PassiveFtp.Toml
