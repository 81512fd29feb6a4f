import PassiveFtp.Dispatch

/-!
# What a request can come to

Dispatch goes through two checks, eleven verbs and a failure exit or two in
each handler. All of that is read off here once: `dispatch_handled` puts every
outcome under one case of `Handled`, and a case carries the guards that lead to
it, the session that is left and every effect in order. Whatever is to hold of
each request is then a case analysis, and nothing later unfolds a handler.

Most requests come to a single reply and leave the session alone. Those share
one case, and `Answered` tells them apart by the reply they get.
-/

namespace PassiveFtp

/-- A request that both checks let through. -/
structure Passed (session : Session) (request : Request) : Prop where
  loggedIn : session.loggedIn = true
  spaces : request.verb.spaces? = some request.spaces

/-- The requests that want a data connection: a file by its name, or the
listing. -/
def Request.WantsData (request : Request) : Prop :=
  request.verb = .nlst ∨ request.verb = .retr ∧ request.argument.isSome = true

/-- The verbs that both checks look at. -/
def Verb.IsChecked (verb : Verb) : Prop :=
  verb ≠ .user ∧ ∀ word, verb ≠ .unknown word

/-- The verbs whose argument may turn out to be missing. -/
def Verb.takesArgument : Verb → Bool
  | .cwd | .type | .mode | .stru | .retr => true
  | _ => false

section
variable (settings : Settings) (conditions : Conditions) (session : Session) (request : Request)

/-- The requests that come to nothing but a reply, with that reply. -/
inductive Answered : Reply → Prop
  | unknown {word : String} :
      request.verb = .unknown word → Answered (.plain .commandUnrecognized)
  | early :
      request.verb.IsChecked → session.loggedIn = false → Answered (.plain .notLoggedIn)
  | misspaced :
      request.verb.IsChecked → session.loggedIn = true →
      request.verb.spaces? ≠ some request.spaces → Answered (.plain .syntaxErrorInArguments)
  | bare :
      Passed session request → request.verb.takesArgument = true → request.argument = none →
      Answered (.plain .syntaxErrorInArguments)
  | userAgain :
      request.verb = .user → session.loggedIn = true → Answered (.plain .serviceReady)
  | userMisspelt :
      request.verb = .user → session.loggedIn = false →
      (∀ name, request.argument = some name → request.spaces ≠ 1) →
      Answered (.plain .syntaxErrorInArguments)
  | userRefused {name : String} {e : LoginError} :
      request.verb = .user → session.loggedIn = false → request.argument = some name →
      request.spaces = 1 → Login.check settings name = .error e → Answered e.reply
  | cwdRefused {target : String} {e : NavigationError} :
      Passed session request → request.verb = .cwd → request.argument = some target →
      Navigation.changeDirectory conditions.tree session.root session.cwd target = .error e →
      Answered (.plain e.replyCode)
  | cdupRefused {e : NavigationError} :
      Passed session request → request.verb = .cdup →
      Navigation.parentDirectory conditions.tree session.root session.cwd = .error e →
      Answered (.coded e.replyCode (Navigation.virtualPath session.root session.cwd))
  | typeRefused {code : String} :
      Passed session request → request.verb = .type → request.argument = some code →
      (∀ representation, Representation.negotiate code ≠ .accepted representation) →
      Answered (Dispatch.negotiated (Representation.negotiate code))
  | mode {code : String} :
      Passed session request → request.verb = .mode → request.argument = some code →
      Answered (Dispatch.negotiated (TransferMode.negotiate code))
  | stru {code : String} :
      Passed session request → request.verb = .stru → request.argument = some code →
      Answered (Dispatch.negotiated (FileStructure.negotiate code))

/-- Every way a request can go, with what it leaves behind. -/
inductive Handled : Outcome → Prop
  | answered {reply : Reply} :
      Answered settings conditions session request reply → Handled (.saying session reply)
  | admitted {name : String} :
      request.verb = .user → session.loggedIn = false → request.argument = some name →
      request.spaces = 1 → Login.check settings name = .ok () →
      Handled (.saying { session with loggedIn := true } (.plain .loggedIn))
  | quit :
      Passed session request → request.verb = .quit → Handled (Dispatch.quit session)
  | entered {target : String} {found : Path} :
      Passed session request → request.verb = .cwd → request.argument = some target →
      Navigation.changeDirectory conditions.tree session.root session.cwd target = .ok found →
      Handled (.saying { session with cwd := found } (.plain .fileActionOk))
  | climbed {parent : Path} :
      Passed session request → request.verb = .cdup →
      Navigation.parentDirectory conditions.tree session.root session.cwd = .ok parent →
      Handled (.saying { session with cwd := parent }
        (.coded .commandOk (Navigation.virtualPath session.root session.cwd)))
  | typed {code : String} {representation : Representation} :
      Passed session request → request.verb = .type → request.argument = some code →
      Representation.negotiate code = .accepted representation →
      Handled (.saying { session with representation } (.plain .commandOk))
  | listening {channel : PassiveChannel} :
      Passed session request → request.verb = .pasv →
      Dispatch.allocation settings conditions = .ok channel →
      Handled
        { session := { session with passive := some channel }
          effects :=
            Dispatch.closing session.passive ++ [.listening channel, .reply channel.reply] }
  | unallocated {e : TransferError} :
      Passed session request → request.verb = .pasv →
      Dispatch.allocation settings conditions = .error e →
      Handled
        { session := { session with passive := none }
          effects := Dispatch.closing session.passive ++ [.reply (.plain .commandUnrecognized)] }
  | unconnected {e : TransferError} :
      Passed session request → request.WantsData →
      Dispatch.connection settings conditions session = .error e →
      Handled
        { session := { session with passive := none }
          effects :=
            Dispatch.closing session.passive ++ [.reply (.plain .cannotOpenDataConnection)] }
  | fetched {target : String} {channel : PassiveChannel} {sink : Sink} :
      Passed session request → request.verb = .retr → request.argument = some target →
      session.passive = some channel → conditions.arrival = .connected sink →
      Handled
        { session := { session with passive := none }
          effects := [.listenerClosed channel, .reply (.plain .aboutToOpenDataConnection),
            .sent (Dispatch.fetch settings conditions session target sink).2.received,
            .dataClosed, .reply (Dispatch.fetch settings conditions session target sink).1] }
  | listed {channel : PassiveChannel} {sink : Sink} :
      Passed session request → request.verb = .nlst →
      session.passive = some channel → conditions.arrival = .connected sink →
      Handled
        { session := { session with passive := none }
          effects := [.listenerClosed channel, .reply (.plain .aboutToOpenDataConnection),
            .sent (Dispatch.list conditions session sink).2.received,
            .dataClosed, .reply (Dispatch.list conditions session sink).1] }

end

/-! ## Failures keep to their phase

An allocation fails with errors of its own and accepting with others, so the
two codes never get mixed up. -/

theorem PassiveChannel.replyCode_of_allocateFrom {ip : Ipv4} {attempts : Nat → Attempt}
    {next more : Nat} {e : TransferError}
    (h : allocateFrom ip attempts next more = .error e) : e.replyCode = .commandUnrecognized := by
  have hlisten : ∀ {attempt : Attempt} {e : TransferError},
      listen ip attempt = .error e → e.replyCode = .commandUnrecognized := by
    intro attempt e h
    simp only [listen] at h
    split at h <;> cases h <;> rfl
  induction more generalizing next with
  | zero => exact hlisten h
  | succ more ih =>
      simp only [allocateFrom] at h
      split at h
      · exact ih h
      · exact hlisten h

namespace Dispatch

variable {settings : Settings} {conditions : Conditions} {session : Session} {request : Request}

theorem replyCode_of_allocation {e : TransferError}
    (h : allocation settings conditions = .error e) : e.replyCode = .commandUnrecognized := by
  simp only [allocation] at h
  split at h
  · exact PassiveChannel.replyCode_of_allocateFrom h
  · cases h
    rfl

theorem replyCode_of_connection {e : TransferError}
    (h : connection settings conditions session = .error e) :
    e.replyCode = .cannotOpenDataConnection := by
  simp only [connection] at h
  split at h
  · cases harrival : conditions.arrival with
    | connected sink => rw [harrival] at h; cases h
    | nobody => rw [harrival] at h; cases h; rfl
    | failed error => rw [harrival] at h; cases h; rfl
  · cases h
    rfl

/-- A data connection is the arrival at a listener that was pending. -/
theorem connection_eq_ok {sink : Sink} (h : connection settings conditions session = .ok sink) :
    ∃ channel, session.passive = some channel ∧ conditions.arrival = .connected sink := by
  simp only [connection] at h
  split at h
  · next channel hpassive =>
      cases harrival : conditions.arrival with
      | connected sink' => rw [harrival] at h; cases h; exact ⟨channel, hpassive, rfl⟩
      | nobody => rw [harrival] at h; cases h
      | failed error => rw [harrival] at h; cases h
  · cases h

/-! ## Transfers -/

theorem transfer_eq_of_error {carryOut : Sink → Reply × Sink} {e : TransferError}
    (h : connection settings conditions session = .error e) :
    transfer settings conditions session carryOut =
      { session := { session with passive := none }
        effects := closing session.passive ++ [.reply (.plain .cannotOpenDataConnection)] } := by
  rw [transfer, h, ← replyCode_of_connection h]

theorem transfer_eq_of_ok {carryOut : Sink → Reply × Sink} {sink : Sink}
    {channel : PassiveChannel} (h : connection settings conditions session = .ok sink)
    (hpassive : session.passive = some channel) :
    transfer settings conditions session carryOut =
      { session := { session with passive := none }
        effects := [.listenerClosed channel, .reply (.plain .aboutToOpenDataConnection),
          .sent (carryOut sink).2.received, .dataClosed, .reply (carryOut sink).1] } := by
  rw [transfer, h, hpassive]
  rfl

/-! ## The checks -/

theorem refusal?_of_isChecked (hchecked : request.verb.IsChecked) :
    refusal? session request =
      if !session.loggedIn then some (.plain .notLoggedIn)
      else if request.verb.spaces? ≠ some request.spaces then some (.plain .syntaxErrorInArguments)
      else none := by
  simp only [refusal?]
  split
  · next hverb => exact absurd hverb hchecked.1
  · next word hverb => exact absurd hverb (hchecked.2 word)
  · rfl

theorem isChecked_of_refusal? {refusal : Reply}
    (h : refusal? session request = some refusal) : request.verb.IsChecked := by
  simp only [refusal?] at h
  split at h
  · cases h
  · cases h
  · next huser hunknown => exact ⟨huser, hunknown⟩

theorem refusal?_eq_some {refusal : Reply} (h : refusal? session request = some refusal) :
    Answered settings conditions session request refusal := by
  have hchecked := isChecked_of_refusal? h
  rw [refusal?_of_isChecked hchecked] at h
  split at h
  · next hout =>
      cases h
      exact .early hchecked (by simpa using hout)
  · next hin =>
      split at h
      · next hspaces =>
          cases h
          exact .misspaced hchecked (by simpa using hin) hspaces
      · cases h

theorem refusal?_eq_none (h : refusal? session request = none)
    (hchecked : request.verb.IsChecked) : Passed session request := by
  rw [refusal?_of_isChecked hchecked] at h
  split at h
  · cases h
  · next hin =>
      split at h
      · cases h
      · next hspaces => exact ⟨by simpa using hin, Decidable.not_not.mp hspaces⟩

theorem refusal?_of_passed (h : Passed session request) : refusal? session request = none := by
  simp only [refusal?]
  split
  · rfl
  · rfl
  · rw [h.loggedIn, h.spaces]
    simp

/-! ## The handlers -/

theorem user_handled (hverb : request.verb = .user) :
    Handled settings conditions session request (user settings session request) := by
  simp only [user]
  split
  · next hin => exact .answered (.userAgain hverb hin)
  · next hout =>
      have hout : session.loggedIn = false := by simpa using hout
      split
      · next name harg hspaces =>
          split
          · next hcheck => exact .admitted hverb hout harg hspaces hcheck
          · next e hcheck => exact .answered (.userRefused hverb hout harg hspaces hcheck)
      · next hshape =>
          exact .answered (.userMisspelt hverb hout fun name harg hone => hshape name harg hone)

theorem pasv_handled (hpassed : Passed session request) (hverb : request.verb = .pasv) :
    Handled settings conditions session request (pasv settings conditions session) := by
  simp only [pasv]
  split
  · next channel h => exact .listening hpassed hverb h
  · next e h =>
      rw [replyCode_of_allocation h]
      exact .unallocated hpassed hverb h

theorem retr_handled (hpassed : Passed session request) (hverb : request.verb = .retr)
    {target : String} (harg : request.argument = some target) :
    Handled settings conditions session request (retr settings conditions session target) := by
  rw [retr]
  cases h : connection settings conditions session with
  | error e =>
      rw [transfer_eq_of_error h]
      exact .unconnected hpassed (.inr ⟨hverb, by rw [harg]; rfl⟩) h
  | ok sink =>
      obtain ⟨channel, hpassive, harrival⟩ := connection_eq_ok h
      rw [transfer_eq_of_ok h hpassive]
      exact .fetched hpassed hverb harg hpassive harrival

theorem nlst_handled (hpassed : Passed session request) (hverb : request.verb = .nlst) :
    Handled settings conditions session request (nlst settings conditions session) := by
  rw [nlst]
  cases h : connection settings conditions session with
  | error e =>
      rw [transfer_eq_of_error h]
      exact .unconnected hpassed (.inl hverb) h
  | ok sink =>
      obtain ⟨channel, hpassive, harrival⟩ := connection_eq_ok h
      rw [transfer_eq_of_ok h hpassive]
      exact .listed hpassed hverb hpassive harrival

/-- An argument that may be missing: without one, only a reply. -/
theorem withArgument_handled {act : String → Outcome} (hpassed : Passed session request)
    (htakes : request.verb.takesArgument = true)
    (h : ∀ argument, request.argument = some argument →
      Handled settings conditions session request (act argument)) :
    Handled settings conditions session request (withArgument session request act) := by
  simp only [withArgument]
  split
  · next argument harg => exact h argument harg
  · next harg => exact .answered (.bare hpassed htakes harg)

theorem cwd_handled (hpassed : Passed session request) (hverb : request.verb = .cwd)
    {target : String} (harg : request.argument = some target) :
    Handled settings conditions session request (cwd conditions session target) := by
  simp only [cwd]
  split
  · next found h => exact .entered hpassed hverb harg h
  · next e h => exact .answered (.cwdRefused hpassed hverb harg h)

theorem cdup_handled (hpassed : Passed session request) (hverb : request.verb = .cdup) :
    Handled settings conditions session request (cdup conditions session) := by
  simp only [cdup]
  split
  · next parent h => exact .climbed hpassed hverb h
  · next e h => exact .answered (.cdupRefused hpassed hverb h)

theorem type_handled (hpassed : Passed session request) (hverb : request.verb = .type)
    {code : String} (harg : request.argument = some code) :
    Handled settings conditions session request (type session code) := by
  simp only [type]
  split
  · next representation h =>
      rw [h]
      exact .typed hpassed hverb harg h
  · next h => exact .answered (.typeRefused hpassed hverb harg h)

theorem handle_handled (hpassed : request.verb.IsChecked → Passed session request) :
    Handled settings conditions session request (handle settings conditions session request) := by
  have hpassed : ∀ {verb : Verb}, request.verb = verb → verb.IsChecked →
      Passed session request := fun hverb hchecked => hpassed (hverb ▸ hchecked)
  simp only [handle]
  split
  · next hverb => exact user_handled hverb
  · next hverb => exact .quit (hpassed hverb (by simp [Verb.IsChecked])) hverb
  · next hverb =>
      have hpassed := hpassed hverb (by simp [Verb.IsChecked])
      exact withArgument_handled hpassed (by rw [hverb]; rfl) fun _ harg =>
        cwd_handled hpassed hverb harg
  · next hverb => exact cdup_handled (hpassed hverb (by simp [Verb.IsChecked])) hverb
  · next hverb =>
      have hpassed := hpassed hverb (by simp [Verb.IsChecked])
      exact withArgument_handled hpassed (by rw [hverb]; rfl) fun _ harg =>
        type_handled hpassed hverb harg
  · next hverb =>
      have hpassed := hpassed hverb (by simp [Verb.IsChecked])
      exact withArgument_handled hpassed (by rw [hverb]; rfl) fun _ harg =>
        .answered (.mode hpassed hverb harg)
  · next hverb =>
      have hpassed := hpassed hverb (by simp [Verb.IsChecked])
      exact withArgument_handled hpassed (by rw [hverb]; rfl) fun _ harg =>
        .answered (.stru hpassed hverb harg)
  · next hverb => exact pasv_handled (hpassed hverb (by simp [Verb.IsChecked])) hverb
  · next hverb =>
      have hpassed := hpassed hverb (by simp [Verb.IsChecked])
      exact withArgument_handled hpassed (by rw [hverb]; rfl) fun _ harg =>
        retr_handled hpassed hverb harg
  · next hverb => exact nlst_handled (hpassed hverb (by simp [Verb.IsChecked])) hverb
  · next word hverb => exact .answered (.unknown hverb)

end Dispatch

/-- Every request comes to one of the cases. -/
theorem dispatch_handled (settings : Settings) (conditions : Conditions) (session : Session)
    (request : Request) :
    Handled settings conditions session request
      (dispatch settings conditions session request) := by
  simp only [dispatch]
  cases hrefusal : Dispatch.refusal? session request with
  | some refusal => exact .answered (Dispatch.refusal?_eq_some hrefusal)
  | none => exact Dispatch.handle_handled (Dispatch.refusal?_eq_none hrefusal)

/-- What both checks let through is handled. -/
theorem dispatch_of_passed {settings : Settings} {conditions : Conditions} {session : Session}
    {request : Request} (h : Passed session request) :
    dispatch settings conditions session request =
      Dispatch.handle settings conditions session request := by
  rw [dispatch, Dispatch.refusal?_of_passed h]

/-! ## The replies among the effects -/

namespace Outcome

theorem replies_closing_append (next : Session) (pending : Option PassiveChannel)
    (effects : List Effect) :
    replies { session := next, effects := Dispatch.closing pending ++ effects } =
      replies { session := next, effects } := by
  cases pending <;> rfl

theorem replies_transfer (next : Session) (channel : PassiveChannel) (opening last : Reply)
    (sent : List UInt8) :
    replies
      { session := next
        effects := [.listenerClosed channel, .reply opening, .sent sent, .dataClosed,
          .reply last] } = [opening, last] := rfl

end Outcome

end PassiveFtp
