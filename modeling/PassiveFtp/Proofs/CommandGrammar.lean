import Mathlib
import PassiveFtp.Proofs.Handled
import PassiveFtp.Proofs.Requests

/-!
# The lines that get something done

A session that is logged in can be given nine tasks, and there is one way to ask
for each: the verb alone, or the verb, one space and one word. The parser is more
generous than that. It drops empty words, takes the second word for the argument
and forgets the others; what keeps a doubled, leading or trailing space from doing
anything is that all spaces are counted. `task?` says what is left of a request
after the count and the argument are looked at, and `task?_parse_iff` which lines
leave a task.

A line that asks for nothing is answered by what its first word is, and nothing
else comes of it.
-/

namespace PassiveFtp

/-- What a session that is logged in can be asked to do. -/
inductive Task where
  | quit
  | cdup
  | pasv
  | nlst
  | cwd (target : String)
  | type (code : String)
  | mode (code : String)
  | stru (code : String)
  | retr (target : String)
deriving DecidableEq

namespace Task

/-- The verb of a task. -/
def verb : Task → Verb
  | .quit => .quit
  | .cdup => .cdup
  | .pasv => .pasv
  | .nlst => .nlst
  | .cwd _ => .cwd
  | .type _ => .type
  | .mode _ => .mode
  | .stru _ => .stru
  | .retr _ => .retr

/-- The word for the verb of a task. -/
def word : Task → String
  | .quit => "QUIT"
  | .cdup => "CDUP"
  | .pasv => "PASV"
  | .nlst => "NLST"
  | .cwd _ => "CWD"
  | .type _ => "TYPE"
  | .mode _ => "MODE"
  | .stru _ => "STRU"
  | .retr _ => "RETR"

/-- The argument of a task, if it has one. -/
def argument? : Task → Option String
  | .quit | .cdup | .pasv | .nlst => none
  | .cwd argument | .type argument | .mode argument | .stru argument | .retr argument =>
    some argument

/-- A line asks for a task with its word in any letter case, and after one space
with its argument, which is one word. -/
def IsAskedBy (task : Task) (line : String) : Prop :=
  match task.argument? with
  | none => Text.sameWord line task.word = true
  | some argument => argument ≠ "" ∧ ' ' ∉ argument.toList ∧
    ∃ word, Text.sameWord word task.word = true ∧ line = word ++ " " ++ argument

/-- The handler of a task, run with its argument. -/
def run (settings : Settings) (conditions : Conditions) (session : Session) : Task → Outcome
  | .quit => Dispatch.quit session
  | .cdup => Dispatch.cdup conditions session
  | .pasv => Dispatch.pasv settings conditions session
  | .nlst => Dispatch.nlst settings conditions session
  | .cwd target => Dispatch.cwd conditions session target
  | .type code => Dispatch.type session code
  | .mode code => .saying session (Dispatch.negotiated (TransferMode.negotiate code))
  | .stru code => .saying session (Dispatch.negotiated (FileStructure.negotiate code))
  | .retr target => Dispatch.retr settings conditions session target

end Task

/-- The task of a request whose spaces are as many as its verb calls for. -/
def Request.task? (request : Request) : Option Task :=
  match request.verb, request.spaces, request.argument with
  | .quit, 0, _ => some .quit
  | .cdup, 0, _ => some .cdup
  | .pasv, 0, _ => some .pasv
  | .nlst, 0, _ => some .nlst
  | .cwd, 1, some argument => some (.cwd argument)
  | .type, 1, some argument => some (.type argument)
  | .mode, 1, some argument => some (.mode argument)
  | .stru, 1, some argument => some (.stru argument)
  | .retr, 1, some argument => some (.retr argument)
  | _, _, _ => none

/-- The first word of a line: the first piece between its spaces that is not empty. -/
def Request.firstWord? (line : String) : Option String :=
  ((line.toList.splitOn ' ').find? (!·.isEmpty)).map String.ofList

/-- The code for a line that asks for no task, in a session that is logged in. -/
def Verb.turnedDown : Verb → ReplyCode
  | .user => .serviceReady
  | .unknown _ => .commandUnrecognized
  | _ => .syntaxErrorInArguments

/-- A line begins with a verb if its first word is the word for it, in any letter
case. -/
def Verb.Begins (verb : Verb) (line : String) : Prop :=
  ∃ name word, verb.name? = some name ∧ Request.firstWord? line = some word ∧
    Text.sameWord word name = true

/-! ## From the line to the task -/

theorem Verb.sameWord_name_iff (verb : Verb) {name word : String} (h : verb.name? = some name) :
    Text.sameWord word name = true ↔ ofWord word = verb := by
  have hupper : Text.upper name = name := by
    cases verb <;> cases h <;> decide
  rw [ofWord_eq_iff verb h, Text.sameWord, beq_iff_eq, hupper]

theorem Task.name?_verb (task : Task) : task.verb.name? = some task.word := by
  cases task <;> rfl

theorem Task.sameWord_word_iff (task : Task) {word : String} :
    Text.sameWord word task.word = true ↔ Verb.ofWord word = task.verb :=
  task.verb.sameWord_name_iff task.name?_verb

/-- Whatever asks for a task begins with one word, since the verb is one. -/
theorem Task.isWord_of_sameWord (task : Task) {word : String}
    (h : Text.sameWord word task.word = true) : ' ' ∉ word.toList ∧ word.toList ≠ [] := by
  have hupper := (Verb.ofWord_eq_iff task.verb task.name?_verb).mp (task.sameWord_word_iff.mp h)
  rw [← String.ofList_toList (s := word)] at hupper
  exact Verb.isWord_of_name task.verb task.name?_verb hupper

namespace Request

variable {settings : Settings} {conditions : Conditions} {session : Session} {request : Request}
  {line : String} {task : Task}

/-- With the argument of a task, one space; without one, none. -/
theorem task?_eq_some_iff :
    request.task? = some task ↔ request.verb = task.verb ∧
      match task.argument? with
      | none => request.spaces = 0
      | some argument => request.spaces = 1 ∧ request.argument = some argument := by
  obtain ⟨verb, argument, spaces⟩ := request
  constructor
  · intro h
    simp only [task?] at h
    split at h <;> cases h <;> simp_all [Task.verb, Task.argument?]
  · intro h
    obtain ⟨hverb, hrest⟩ := h
    cases task <;> simp_all [Task.verb, Task.argument?, task?]

theorem append_space (word argument : String) :
    word ++ " " ++ argument = String.ofList (word.toList ++ ' ' :: argument.toList) := by
  rw [← String.toList_inj, String.toList_ofList, String.toList_append, String.toList_append,
    List.append_assoc]
  rfl

theorem parse_of_asked_with {argument : String} (hne : argument ≠ "")
    (hspace : ' ' ∉ argument.toList) {word : String}
    (hword : Text.sameWord word task.word = true) :
    parse (word ++ " " ++ argument) = ⟨task.verb, some argument, 1⟩ := by
  obtain ⟨hword', hnil⟩ := task.isWord_of_sameWord hword
  have hne' : argument.toList ≠ [] := fun h => hne (String.toList_eq_nil_iff.mp h)
  rw [append_space, parse_two_words hword' hnil hspace hne', String.ofList_toList,
    String.ofList_toList, task.sameWord_word_iff.mp hword]

theorem task?_parse_iff : (parse line).task? = some task ↔ task.IsAskedBy line := by
  rw [task?_eq_some_iff, Task.IsAskedBy]
  cases task.argument? with
  | none =>
      constructor
      · intro h
        obtain ⟨hverb, hspaces⟩ := h
        have hnone : ' ' ∉ line.toList := List.count_eq_zero.mp hspaces
        rw [parse_of_no_space hnone] at hverb
        exact task.sameWord_word_iff.mpr hverb
      · intro h
        rw [parse_of_no_space (task.isWord_of_sameWord h).1]
        exact ⟨task.sameWord_word_iff.mp h, rfl⟩
  | some argument =>
      constructor
      · intro h
        obtain ⟨hverb, hspaces, hargument⟩ := h
        obtain ⟨verb, word, hline, hword, hofWord, -, hspace, hne⟩ :=
          two_words_of_parse hspaces hargument
        subst hword
        refine ⟨fun hempty => hne ?_, by rwa [String.toList_ofList], String.ofList verb,
          task.sameWord_word_iff.mpr (hofWord.symm.trans hverb), ?_⟩
        · rw [← String.toList_ofList (l := word), hempty]
          rfl
        · rw [append_space, String.toList_ofList, String.toList_ofList, ← hline,
            String.ofList_toList]
      · intro h
        obtain ⟨hne, hspace, word, hword, rfl⟩ := h
        rw [parse_of_asked_with hne hspace hword]
        exact ⟨rfl, rfl, rfl⟩

theorem verb_parse (line : String) :
    (parse line).verb = Verb.ofWord ((firstWord? line).getD "") := by
  simp only [parse, words, firstWord?, List.head?_filter]
  cases (line.toList.splitOn ' ').find? (!·.isEmpty) <;> rfl

theorem verb_parse_of_begins {verb : Verb} (h : verb.Begins line) : (parse line).verb = verb := by
  obtain ⟨name, word, hname, hfirst, hword⟩ := h
  rw [verb_parse, hfirst]
  exact (verb.sameWord_name_iff hname).mp hword

theorem verb_parse_unknown (h : ∀ verb : Verb, ¬ verb.Begins line) :
    ∃ word, (parse line).verb = .unknown word := by
  rw [verb_parse]
  cases hfirst : firstWord? line with
  | none => exact ⟨"", by decide⟩
  | some word =>
      refine Verb.ofWord_unknown_iff.mpr fun verb hname => h verb ?_
      have hword := (Verb.ofWord_eq_iff verb hname).mpr rfl
      exact ⟨_, word, hname, hfirst, (verb.sameWord_name_iff hname).mpr hword⟩

/-! ## From the task to the outcome -/

theorem dispatch_of_task (hin : session.loggedIn = true) (h : request.task? = some task) :
    dispatch settings conditions session request = task.run settings conditions session := by
  obtain ⟨hverb, hrest⟩ := task?_eq_some_iff.mp h
  have hpassed : Passed session request := by
    refine ⟨hin, ?_⟩
    rw [hverb]
    cases task <;> simp_all [Task.verb, Task.argument?, Verb.spaces?]
  rw [dispatch_of_passed hpassed, Dispatch.handle, hverb]
  cases task <;> simp_all [Task.verb, Task.argument?, Task.run, Dispatch.withArgument]

theorem dispatch_of_no_task (hin : session.loggedIn = true) (h : request.task? = none) :
    dispatch settings conditions session request =
      .saying session (.plain request.verb.turnedDown) := by
  obtain ⟨verb, argument, spaces⟩ := request
  cases verb with
  | unknown word => rfl
  | user => simp [dispatch, Dispatch.refusal?, Dispatch.handle, Dispatch.user, hin, Verb.turnedDown]
  | quit | cdup | pasv | nlst =>
      have hspaces : spaces ≠ 0 := by
        intro hzero
        subst hzero
        simp [task?] at h
      simp [dispatch, Dispatch.refusal?, hin, Verb.spaces?, hspaces.symm, Verb.turnedDown]
  | cwd | type | mode | stru | retr =>
      by_cases hspaces : spaces = 1
      · -- The spaces are right, so it can only be the argument that is missing.
        subst hspaces
        have hargument : argument = none := by
          cases argument with
          | none => rfl
          | some argument => simp [task?] at h
        subst hargument
        simp [dispatch, Dispatch.refusal?, hin, Verb.spaces?, Dispatch.handle,
          Dispatch.withArgument, Verb.turnedDown]
      · simp [dispatch, Dispatch.refusal?, hin, Verb.spaces?, Ne.symm hspaces, Verb.turnedDown]

theorem turnedDown_of_begins {verb : Verb} (h : verb.Begins line) :
    (parse line).verb.turnedDown.number = if verb = .user then 220 else 501 := by
  rw [verb_parse_of_begins h]
  obtain ⟨name, -, hname, -⟩ := h
  cases verb <;> cases hname <;> rfl

/-- In a session that is logged in, a task is carried out for the lines that spell
it and for no others; a line that spells none is answered by its first word, and
neither the session nor anything else outside is touched. -/
theorem dispatch_iff_spelled (settings : Settings) (conditions : Conditions)
    {session : Session} (hin : session.loggedIn = true) (line : String) :
    let request := parse line
    let outcome := dispatch settings conditions session request
    (∀ task, request.task? = some task ↔ task.IsAskedBy line) ∧
    (∀ task, request.task? = some task → outcome = task.run settings conditions session) ∧
    ((∀ task : Task, ¬ task.IsAskedBy line) →
      ∃ reply, outcome = .saying session reply ∧
        ((∀ verb : Verb, ¬ verb.Begins line) → reply.status? = some 500) ∧
        ∀ verb : Verb, verb.Begins line →
          reply.status? = some (if verb = .user then 220 else 501)) := by
  intro request outcome
  refine ⟨fun task => task?_parse_iff, fun task htask => dispatch_of_task hin htask, ?_⟩
  intro hnone
  have htask : request.task? = none :=
    Option.eq_none_iff_forall_ne_some.mpr fun task h => hnone task (task?_parse_iff.mp h)
  refine ⟨.plain request.verb.turnedDown, dispatch_of_no_task hin htask, fun hunknown => ?_,
    fun verb hbegins => ?_⟩
  · obtain ⟨word, hword⟩ := verb_parse_unknown hunknown
    rw [Reply.status?_plain, hword]
    rfl
  · rw [Reply.status?_plain, turnedDown_of_begins hbegins]

/-- A space in front does not stand in for the argument that is missing, and a doubled
one is one too many; nothing is done about either line. -/
theorem dispatch_iff_spelled_misspaced :
    let session : Session := { Session.start (.ofString "/r") with loggedIn := true }
    let outcome := dispatch {} { tree := ⟨[]⟩, attempts := fun _ => ⟨2000, .opened⟩ } session
    outcome (parse "Type a") = Dispatch.type session "a" ∧
      (∃ reply, outcome (parse " CWD") = .saying session reply ∧ reply.status? = some 501) ∧
      ∃ reply, outcome (parse "CWD  pub") = .saying session reply ∧ reply.status? = some 501 := by
  intro session outcome
  have hspec := dispatch_iff_spelled {} { tree := ⟨[]⟩, attempts := fun _ => ⟨2000, .opened⟩ }
    (rfl : session.loggedIn = true)
  have hmisspaced : ∀ line, (parse line).task? = none → Verb.cwd.Begins line →
      ∃ reply, outcome (parse line) = .saying session reply ∧ reply.status? = some 501 := by
    intro line htask hbegins
    obtain ⟨htasks, -, hnone⟩ := hspec line
    obtain ⟨reply, hreply, -, hstatus⟩ := hnone fun task hasked => by
      rw [(htasks task).mpr hasked] at htask
      cases htask
    exact ⟨reply, hreply, hstatus .cwd hbegins⟩
  refine ⟨(hspec "Type a").2.1 (.type "a") (by decide), hmisspaced " CWD" (by decide) ?_,
    hmisspaced "CWD  pub" (by decide) ?_⟩
  · exact ⟨"CWD", "CWD", rfl, by decide, by decide⟩
  · exact ⟨"CWD", "CWD", rfl, by decide, by decide⟩

end Request

end PassiveFtp
