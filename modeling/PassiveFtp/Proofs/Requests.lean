import Mathlib
import PassiveFtp.Request

/-!
# Lines with no space in them, and with one

A request keeps two words of a line and the number of its spaces. With no space
there is no argument, and the line is the verb. With one space there is an argument
only if it has a word on either side, so that a space at the end of a line, or in
front, does not pass for an argument. Other lines no verb calls for.
-/

namespace PassiveFtp

/-! ## Verbs and their words -/

namespace Verb

/-- The word for a verb, in capital letters. -/
def name? : Verb → Option String
  | .user => some "USER"
  | .quit => some "QUIT"
  | .cwd => some "CWD"
  | .cdup => some "CDUP"
  | .type => some "TYPE"
  | .mode => some "MODE"
  | .stru => some "STRU"
  | .pasv => some "PASV"
  | .retr => some "RETR"
  | .nlst => some "NLST"
  | .unknown _ => none

theorem ofWord_eq_iff (verb : Verb) {name word : String} (h : verb.name? = some name) :
    ofWord word = verb ↔ Text.upper word = name := by
  constructor
  · intro hverb
    rw [ofWord] at hverb
    subst hverb
    split at h <;> simp_all [name?]
  · intro hword
    rw [ofWord, hword]
    cases verb <;> cases h <;> rfl

/-- A word stands for a verb unless it is none of their words. -/
theorem ofWord_unknown_iff {word : String} :
    (∃ w, ofWord word = .unknown w) ↔ ∀ verb : Verb, verb.name? ≠ some (Text.upper word) := by
  constructor
  · intro hunknown verb hname
    obtain ⟨w, hw⟩ := hunknown
    rw [(ofWord_eq_iff verb hname).mpr rfl] at hw
    rw [hw] at hname
    cases hname
  · intro hnone
    have hname := hnone (ofWord word)
    cases hverb : ofWord word with
    | unknown w => exact ⟨w, rfl⟩
    | user | quit | cwd | cdup | type | mode | stru | pasv | retr | nlst =>
        rw [hverb, (ofWord_eq_iff _ rfl).mp hverb] at hname
        exact absurd rfl hname

/-- A verb is one word, in whatever case its letters are. -/
theorem isWord_of_name (verb : Verb) {name : String} {word : List Char}
    (h : verb.name? = some name) (hword : Text.upper (String.ofList word) = name) :
    ' ' ∉ word ∧ word ≠ [] := by
  have hname : ' ' ∉ name.toList ∧ name ≠ "" := by
    cases verb <;> cases h <;> decide
  refine ⟨fun hmem => hname.1 ?_, fun hnil => hname.2 ?_⟩
  · rw [← hword, Text.upper, String.toList_ofList, String.toList_ofList]
    exact List.mem_map_of_mem (f := Char.toUpper) hmem
  · rw [← hword, hnil]
    rfl

end Verb

namespace Request

theorem words_append_space (before after : List Char) :
    words (before ++ ' ' :: after) = words before ++ words after := by
  have hsplit : (before ++ ' ' :: after).splitOn ' ' =
      before.splitOn ' ' ++ after.splitOn ' ' :=
    List.splitOnP_append_cons _ _ (by simp)
  rw [words, hsplit, List.filter_append, words, words]

theorem words_of_no_space {line : List Char} (h : ' ' ∉ line) :
    words line = [line].filter (!·.isEmpty) := by
  rw [words, List.splitOn_eq_singleton h]

theorem words_of_word {word : List Char} (h : ' ' ∉ word) (hne : word ≠ []) :
    words word = [word] := by
  rw [words_of_no_space h]
  simp [hne]

/-- A line of two words with one space in between. -/
theorem parse_two_words {verb word : List Char} (hverb : ' ' ∉ verb) (hverb' : verb ≠ [])
    (hword : ' ' ∉ word) (hword' : word ≠ []) :
    parse (String.ofList (verb ++ ' ' :: word)) =
      ⟨Verb.ofWord (String.ofList verb), some (String.ofList word), 1⟩ := by
  have hwords : words (verb ++ ' ' :: word) = [verb, word] := by
    rw [words_append_space, words_of_word hverb hverb', words_of_word hword hword']
    rfl
  simp only [parse, String.toList_ofList, hwords, List.count_append, List.count_cons_self,
    List.count_eq_zero.mpr hverb, List.count_eq_zero.mpr hword]
  rfl

/-- A line with an argument and one space is two words. -/
theorem two_words_of_parse {line argument : String} (hspaces : (parse line).spaces = 1)
    (harg : (parse line).argument = some argument) :
    ∃ verb word : List Char, line.toList = verb ++ ' ' :: word ∧ String.ofList word = argument ∧
      (parse line).verb = Verb.ofWord (String.ofList verb) ∧
      (' ' ∉ verb ∧ verb ≠ []) ∧ ' ' ∉ word ∧ word ≠ [] := by
  have hone : line.toList.count ' ' = 1 := hspaces
  obtain ⟨before, after, hsplit, hbefore⟩ :=
    List.eq_append_cons_of_mem (List.count_pos_iff.mp (by omega : 0 < line.toList.count ' '))
  rw [hsplit, List.count_append, List.count_cons_self, List.count_eq_zero.mpr hbefore] at hone
  have hafter : ' ' ∉ after := List.count_eq_zero.mp (by omega)
  simp only [parse, hsplit, words_append_space, words_of_no_space hbefore,
    words_of_no_space hafter] at harg ⊢
  -- A space in front or at the end leaves one word, and so no argument.
  cases before with
  | nil => cases after <;> simp at harg
  | cons b more =>
      cases after with
      | nil => simp at harg
      | cons a rest =>
          refine ⟨b :: more, a :: rest, rfl, by simpa using harg, by simp, ⟨hbefore, ?_⟩,
            hafter, ?_⟩
          · exact List.cons_ne_nil _ _
          · exact List.cons_ne_nil _ _

/-- A line without a space is its verb. -/
theorem parse_of_no_space {line : String} (h : ' ' ∉ line.toList) :
    parse line = ⟨Verb.ofWord line, none, 0⟩ := by
  simp only [parse, words_of_no_space h, List.count_eq_zero.mpr h]
  cases hline : line.toList with
  | nil =>
      rw [← String.ofList_toList (s := line), hline]
      rfl
  | cons c rest =>
      rw [← String.ofList_toList (s := line), hline]
      rfl

end Request

end PassiveFtp
