import Mathlib
import PassiveFtp.Proofs.PassiveLifecycle

/-!
# The codes a request is answered with

What a client can be told is fixed by the verb alone once the checks are passed,
and by the check that fails before. That is a table (`Request.answers`), and a
request is always answered with one row of it: never with nothing, and never
with a code that belongs to another phase. The failures of an allocation and of
a connection are one type, so the rows of the two could be mixed up; they are
not, since each function fails only in the ways of its own phase.

Two rows tell the client about something that happens to a connection. The reply
that opens a transfer says that a data connection came, and the one reply that
says goodbye is the one after which the control connection is closed.
-/

namespace PassiveFtp

/-- The rows of codes for a request that no check holds back. -/
def Verb.answers : Verb → List (List Nat)
  | .user | .unknown _ => []
  | .quit => [[221]]
  | .cwd => [[250], [550], [501]]
  | .cdup => [[200], [550], [500]]
  | .type | .mode | .stru => [[200], [504], [501]]
  | .pasv => [[227], [500]]
  | .retr => [[501], [425], [150, 226], [150, 426]]
  | .nlst => [[425], [150, 226], [150, 451], [150, 450]]

/-- The rows of codes for a request, before or after a login. -/
def Request.answers (loggedIn : Bool) (request : Request) : List (List Nat) :=
  match request.verb with
  | .unknown _ => [[500]]
  | .user => if loggedIn then [[220]] else [[230], [530], [501]]
  | verb =>
    if !loggedIn then [[530]]
    else if verb.spaces? ≠ some request.spaces then [[501]]
    else verb.answers

variable {settings : Settings} {conditions : Conditions} {session : Session} {request : Request}
  {outcome : Outcome} {reply : Reply}

/-! ## Reading the table -/

theorem Request.answers_of_isChecked {loggedIn : Bool} (h : request.verb.IsChecked) :
    request.answers loggedIn =
      if !loggedIn then [[530]]
      else if request.verb.spaces? ≠ some request.spaces then [[501]]
      else request.verb.answers := by
  simp only [answers]
  split
  · next word hverb => exact absurd hverb (h.2 word)
  · next hverb => exact absurd hverb h.1
  · rfl

theorem Verb.isChecked_of_mem_answers {verb : Verb} {codes : List Nat} (h : codes ∈ verb.answers) :
    verb.IsChecked := by
  constructor
  · rintro rfl
    cases h
  · rintro word rfl
    cases h

theorem Passed.mem_answers {verb : Verb} {codes : List Nat} (h : Passed session request)
    (hverb : request.verb = verb) (hcodes : codes ∈ verb.answers) :
    codes ∈ request.answers session.loggedIn := by
  subst hverb
  rw [Request.answers_of_isChecked (Verb.isChecked_of_mem_answers hcodes), h.loggedIn, h.spaces]
  simpa using hcodes

theorem Verb.mem_answers_of_takesArgument {verb : Verb} (h : verb.takesArgument = true) :
    [501] ∈ verb.answers := by
  cases verb with
  | cwd | type | mode | stru | retr => simp [answers]
  | user | quit | cdup | pasv | nlst | unknown => cases h

/-! ## How navigation is refused -/

theorem Navigation.replyCode_of_changeDirectory {tree : Tree} {root cwd : Path} {target : String}
    {e : NavigationError} (h : changeDirectory tree root cwd target = .error e) :
    e.replyCode = .fileUnavailable := by
  simp only [changeDirectory] at h
  split at h
  · cases h
    rfl
  · split at h
    · cases h
      rfl
    · split at h
      · cases h
        rfl
      · split at h
        · cases h
          rfl
        · split at h
          · cases h
            rfl
          · cases h

theorem NavigationError.replyCode_cases (e : NavigationError) :
    e.replyCode = .fileUnavailable ∨ e.replyCode = .commandUnrecognized := by
  cases e <;> simp [replyCode]

/-! ## Every request is answered with a row -/

theorem Answered.answer (h : Answered settings conditions session request reply) :
    ∃ code, reply.status? = some code ∧ [code] ∈ request.answers session.loggedIn ∧
      code ≠ 221 := by
  cases h with
  | unknown hverb => exact ⟨500, rfl, by simp [Request.answers, hverb], by decide⟩
  | early hchecked hout =>
      exact ⟨530, rfl, by simp [Request.answers_of_isChecked hchecked, hout], by decide⟩
  | misspaced hchecked hin hspaces =>
      exact ⟨501, rfl, by simp [Request.answers_of_isChecked hchecked, hin, hspaces], by decide⟩
  | bare hpassed htakes =>
      exact ⟨501, rfl, hpassed.mem_answers rfl (Verb.mem_answers_of_takesArgument htakes),
        by decide⟩
  | userAgain hverb hin => exact ⟨220, rfl, by simp [Request.answers, hverb, hin], by decide⟩
  | userMisspelt hverb hout =>
      exact ⟨501, rfl, by simp [Request.answers, hverb, hout], by decide⟩
  | @userRefused _ e hverb hout =>
      obtain ⟨code, hreply, hcode⟩ := e.status?_reply
      refine ⟨code, hreply, ?_, ?_⟩
      · simp only [List.mem_cons, List.not_mem_nil, or_false] at hcode
        simp [Request.answers, hverb, hout, hcode]
      · rintro rfl
        simp at hcode
  | cwdRefused hpassed hverb _ hrefused =>
      rw [Navigation.replyCode_of_changeDirectory hrefused]
      exact ⟨550, rfl, hpassed.mem_answers hverb (by simp [Verb.answers]), by decide⟩
  | @cdupRefused e hpassed hverb =>
      obtain hcode | hcode := e.replyCode_cases
      · exact ⟨550, by rw [hcode]; rfl, hpassed.mem_answers hverb (by simp [Verb.answers]),
          by decide⟩
      · exact ⟨500, by rw [hcode]; rfl, hpassed.mem_answers hverb (by simp [Verb.answers]),
          by decide⟩
  | typeRefused hpassed hverb | mode hpassed hverb | stru hpassed hverb =>
      obtain ⟨code, hreply, hcode⟩ := Dispatch.status?_negotiated _
      refine ⟨code, hreply, hpassed.mem_answers hverb (by simpa [Verb.answers] using hcode), ?_⟩
      rintro rfl
      simp at hcode

theorem Handled.answer (h : Handled settings conditions session request outcome) :
    ∃ codes ∈ request.answers session.loggedIn,
      outcome.replies.map Reply.status? = codes.map some ∧
        (outcome.afterwards = .close ↔ codes = [221]) := by
  -- every case but one reads on, and has then only to give a row other than the goodbye
  have hreadOn : ∀ {codes : List Nat}, codes ≠ [221] →
      (Afterwards.readOn = .close ↔ codes = [221]) :=
    fun hcodes => iff_of_false (by simp) hcodes
  cases h with
  | answered hanswered =>
      obtain ⟨code, hreply, hmem, hcode⟩ := hanswered.answer
      exact ⟨[code], hmem, by simp [Outcome.replies, Outcome.saying, Effect.reply?, hreply],
        hreadOn (by simpa using hcode)⟩
  | admitted hverb hout =>
      exact ⟨[230], by simp [Request.answers, hverb, hout], rfl, hreadOn (by simp)⟩
  | quit hpassed hverb =>
      exact ⟨[221], hpassed.mem_answers hverb (by simp [Verb.answers]), rfl,
        iff_of_true rfl rfl⟩
  | entered hpassed hverb =>
      exact ⟨[250], hpassed.mem_answers hverb (by simp [Verb.answers]), rfl, hreadOn (by simp)⟩
  | climbed hpassed hverb | typed hpassed hverb =>
      exact ⟨[200], hpassed.mem_answers hverb (by simp [Verb.answers]), rfl, hreadOn (by simp)⟩
  | @listening channel hpassed hverb =>
      refine ⟨[227], hpassed.mem_answers hverb (by simp [Verb.answers]), ?_, hreadOn (by simp)⟩
      rw [Outcome.replies_closing_append]
      show [channel.reply.status?] = [some 227]
      rw [channel.status?_reply]
  | unallocated hpassed hverb =>
      refine ⟨[500], hpassed.mem_answers hverb (by simp [Verb.answers]), ?_, hreadOn (by simp)⟩
      rw [Outcome.replies_closing_append]
      rfl
  | unconnected hpassed hwants =>
      have hmem : [425] ∈ request.answers session.loggedIn := by
        obtain hverb | ⟨hverb, -⟩ := hwants <;>
          exact hpassed.mem_answers hverb (by simp [Verb.answers])
      refine ⟨[425], hmem, ?_, hreadOn (by simp)⟩
      rw [Outcome.replies_closing_append]
      rfl
  | @fetched target _ sink hpassed hverb =>
      obtain ⟨code, hlast, hcode⟩ :=
        Dispatch.status?_fetch settings conditions session target sink
      exact ⟨[150, code], hpassed.mem_answers hverb (by simpa [Verb.answers] using hcode),
        by simp [Outcome.replies_transfer, hlast, ReplyCode.number], hreadOn (by simp)⟩
  | @listed _ sink hpassed hverb =>
      obtain ⟨code, hlast, hcode⟩ :=
        (conditions.lister conditions.tree session.cwd sink).1.status?_reply
      exact ⟨[150, code], hpassed.mem_answers hverb (by simpa [Verb.answers] using hcode),
        by simp [Outcome.replies_transfer, Dispatch.list, hlast, ReplyCode.number],
        hreadOn (by simp)⟩

/-! ## What the opening of a transfer says -/

theorem dispatch_eq_transfer (settings : Settings) (conditions : Conditions)
    (hpassed : Passed session request) (hwants : request.WantsData) :
    ∃ carryOut, dispatch settings conditions session request =
      Dispatch.transfer settings conditions session carryOut := by
  rw [dispatch_of_passed hpassed]
  obtain hverb | ⟨hverb, hsome⟩ := hwants
  · exact ⟨Dispatch.list conditions session, by
      simp only [Dispatch.handle, hverb, Dispatch.nlst]⟩
  · obtain ⟨target, harg⟩ := Option.isSome_iff_exists.mp hsome
    exact ⟨Dispatch.fetch settings conditions session target, by
      simp only [Dispatch.handle, hverb, Dispatch.withArgument, harg, Dispatch.retr]⟩

theorem Dispatch.connection_eq_ok_iff {sink : Sink} :
    connection settings conditions session = .ok sink ↔ session.passive.isSome = true ∧
      conditions.arrival.accept settings.dataAcceptTimeout = .ok sink := by
  rw [connection]
  cases session.passive <;> simp

theorem announced_iff :
    (dispatch settings conditions session request).codes.head? = some 150 ↔
      Passed session request ∧ request.WantsData ∧
        ∃ sink, Dispatch.connection settings conditions session = .ok sink := by
  by_cases hwanted : Passed session request ∧ request.WantsData
  · obtain ⟨hpassed, hwants⟩ := hwanted
    obtain ⟨carryOut, hdispatch⟩ := dispatch_eq_transfer settings conditions hpassed hwants
    rw [hdispatch]
    cases hconnection : Dispatch.connection settings conditions session with
    | error e =>
        rw [Dispatch.transfer_eq_of_error hconnection, codes_closing_append]
        simp [Outcome.codes, Outcome.replies, Effect.reply?, ReplyCode.number]
    | ok sink =>
        obtain ⟨channel, hpassive, -⟩ := Dispatch.connection_eq_ok hconnection
        rw [Dispatch.transfer_eq_of_ok hconnection hpassive]
        simp [Outcome.codes, Outcome.replies_transfer, ReplyCode.number, hpassed, hwants]
  · -- without a wish for data there is no 150, whichever way the request goes
    refine iff_of_false (fun hhead => ?_) fun h => hwanted ⟨h.1, h.2.1⟩
    have htold := (dispatch_handled settings conditions session request).channelStep.told
    generalize (dispatch settings conditions session request).codes = codes at hhead htold
    generalize (dispatch settings conditions session request).session.passive = after at htold
    cases htold with
    | untouched _ hcode =>
        rw [List.head?_cons, Option.some.injEq] at hhead
        exact hcode (by rw [hhead]; decide)
    | opened | unopened => cases hhead
    | unconnected hreaches hwants => exact hwanted ⟨hreaches.passed, hwants⟩
    | used hreaches hwants => exact hwanted ⟨hreaches.passed, hwants⟩

/-- Whatever the session, the settings and the outside, a request is answered
with one row of the table. The row begins with 150 exactly if the request gets
as far as a data connection and one comes to the pending channel, and the
control connection is closed exactly if the row is the goodbye. -/
theorem dispatch_answers (settings : Settings) (conditions : Conditions) (session : Session)
    (request : Request) :
    let outcome := dispatch settings conditions session request
    ∃ codes ∈ request.answers session.loggedIn,
      outcome.replies.map Reply.status? = codes.map some ∧
      (codes.head? = some 150 ↔ Passed session request ∧ request.WantsData ∧
        session.passive.isSome = true ∧
          ∃ sink, conditions.arrival.accept settings.dataAcceptTimeout = .ok sink) ∧
      (outcome.afterwards = .close ↔ codes = [221]) := by
  intro outcome
  obtain ⟨codes, hmem, hreplies, hclose⟩ :=
    (dispatch_handled settings conditions session request).answer
  have hcodes : outcome.codes = codes :=
    calc outcome.codes = (outcome.replies.map Reply.status?).filterMap id := by
          rw [List.filterMap_map]
          rfl
      _ = codes := by
          rw [hreplies, List.filterMap_map]
          exact List.filterMap_some
  refine ⟨codes, hmem, hreplies, ?_, hclose⟩
  rw [← hcodes, announced_iff]
  simp only [Dispatch.connection_eq_ok_iff, exists_and_left]

end PassiveFtp
