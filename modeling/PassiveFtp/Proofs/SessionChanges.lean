import Mathlib
import PassiveFtp.Proofs.ReplyTable

/-!
# A request changes one field of the session, or none

Whatever the session, and whatever happens outside, a request sets at most one field,
and the client is told which: by 230 that it is logged in, by 250 or 200 that it is
elsewhere, by 200 that the type is the one it named. Only a request that gets as far
as the passive channel disposes of one. A request that is turned down is turned down
whole, and leaves the session as it was.

There is one case of `Change` for each field and one for none. A case carries the
codes of the reply, because it is the reply that tells the cases apart. Each of the
statements is then a case analysis of its own, and `dispatch_changes_one_field` puts
them together.
-/

namespace PassiveFtp

/-- The codes of the requests that leave a session alone, whatever their verb. -/
def turnedDown : List Nat :=
  [220, 221, 501, 504, 530, 550]

/-- What a request can make of a session, with the codes that it is answered with. -/
inductive Change (session : Session) (request : Request) : Session → List Nat → Prop
  | none {code : Nat} :
      (request.verb = .type → code ≠ 200) → Change session request session [code]
  | login :
      request.verb = .user → session.loggedIn = false →
      Change session request { session with loggedIn := true } [230]
  | place {found : Path} {code : Nat} :
      request.verb = .cwd ∧ code = 250 ∨ request.verb = .cdup ∧ code = 200 →
      Change session request { session with cwd := found } [code]
  | type {code : String} {representation : Representation} :
      request.verb = .type → request.argument = some code →
      Representation.negotiate code = .accepted representation →
      Change session request { session with representation } [200]
  | channel {passive : Option PassiveChannel} {codes : List Nat} :
      request.Reaches session →
      (∀ code ∈ codes, code ∉ turnedDown ∧ (code = 500 → request.verb = .pasv)) →
      Change session request { session with passive } codes

/-! ## Every request is in one of the cases -/

theorem codes_saying {next : Session} {reply : Reply} {code : Nat}
    (h : reply.status? = some code) : (Outcome.saying next reply).codes = [code] := by
  simp [Outcome.codes, Outcome.replies, Outcome.saying, Effect.reply?, h]

section
variable {settings : Settings} {conditions : Conditions} {session : Session} {request : Request}
  {outcome : Outcome} {reply : Reply}

/-- A type that comes to nothing but a reply is not accepted. -/
theorem Answered.status?_ne_of_type (h : Answered settings conditions session request reply)
    (htype : request.verb = .type) : reply.status? ≠ some 200 := by
  intro hreply
  cases h with
  | unknown | early | misspaced | bare | userAgain | userMisspelt =>
      simp [ReplyCode.number] at hreply
  | userRefused hverb | cwdRefused _ hverb | cdupRefused _ hverb | mode _ hverb | stru _ hverb =>
      rw [hverb] at htype
      cases htype
  | @typeRefused code _ _ _ hrefused =>
      cases hanswer : Representation.negotiate code with
      | accepted representation => exact hrefused representation hanswer
      | unimplemented | invalid =>
          rw [hanswer] at hreply
          simp [Dispatch.negotiated, ReplyCode.number] at hreply

/-- A request that reaches the channel is not turned down, or it asked for a channel
that is not to be had. -/
theorem ChannelTold.not_turnedDown {after : Option PassiveChannel} {codes : List Nat}
    (h : ChannelTold session request after codes) (hreaches : request.Reaches session) :
    ∀ code ∈ codes, code ∉ turnedDown ∧ (code = 500 → request.verb = .pasv) := by
  intro code hcode
  cases h with
  | untouched hout => exact absurd hreaches hout
  | opened _ hverb | unopened _ hverb =>
      obtain rfl := List.mem_singleton.mp hcode
      exact ⟨by decide, fun _ => hverb⟩
  | unconnected =>
      obtain rfl := List.mem_singleton.mp hcode
      exact ⟨by decide, nofun⟩
  | used _ _ _ hlast =>
      simp only [List.mem_cons, List.not_mem_nil, or_false] at hcode hlast
      rcases hcode with rfl | rfl
      · exact ⟨by decide, nofun⟩
      · rcases hlast with rfl | rfl | rfl | rfl <;> exact ⟨by decide, nofun⟩

theorem Handled.change (h : Handled settings conditions session request outcome) :
    Change session request outcome.session outcome.codes := by
  have htold := h.channelStep.told
  cases h with
  | answered hanswered =>
      obtain ⟨code, hreply, -⟩ := hanswered.answer
      rw [codes_saying hreply]
      refine .none fun htype hcode => hanswered.status?_ne_of_type htype ?_
      rw [hreply, hcode]
  | admitted hverb hout => exact .login hverb hout
  | quit _ hverb => exact .none fun htype => by simp [hverb] at htype
  | entered _ hverb => exact .place (.inl ⟨hverb, rfl⟩)
  | climbed _ hverb => exact .place (.inr ⟨hverb, rfl⟩)
  | typed _ hverb harg haccepted => exact .type hverb harg haccepted
  | listening hpassed hverb | unallocated hpassed hverb =>
      have hreaches : request.Reaches session := ⟨hpassed, .inl hverb⟩
      exact .channel hreaches (htold.not_turnedDown hreaches)
  | unconnected hpassed hwants =>
      have hreaches : request.Reaches session := ⟨hpassed, .inr hwants⟩
      exact .channel hreaches (htold.not_turnedDown hreaches)
  | fetched hpassed hverb harg =>
      have hreaches : request.Reaches session :=
        ⟨hpassed, .inr (.inr ⟨hverb, by rw [harg]; rfl⟩)⟩
      exact .channel hreaches (htold.not_turnedDown hreaches)
  | listed hpassed hverb =>
      have hreaches : request.Reaches session := ⟨hpassed, .inr (.inl hverb)⟩
      exact .channel hreaches (htold.not_turnedDown hreaches)

end

/-! ## Field by field -/

namespace Change

variable {session next : Session} {request : Request} {codes : List Nat}

theorem one_field (h : Change session request next codes) :
    (∃ loggedIn, next = { session with loggedIn }) ∨ (∃ cwd, next = { session with cwd }) ∨
      (∃ representation, next = { session with representation }) ∨
      ∃ passive, next = { session with passive } := by
  cases h with
  | none => exact .inl ⟨session.loggedIn, rfl⟩
  | login => exact .inl ⟨true, rfl⟩
  | place => exact .inr (.inl ⟨_, rfl⟩)
  | type => exact .inr (.inr (.inl ⟨_, rfl⟩))
  | channel => exact .inr (.inr (.inr ⟨_, rfl⟩))

theorem root_eq (h : Change session request next codes) : next.root = session.root := by
  cases h <;> rfl

theorem of_loggedIn_ne (h : Change session request next codes)
    (hne : next.loggedIn ≠ session.loggedIn) :
    session.loggedIn = false ∧ next.loggedIn = true ∧ request.verb = .user ∧ codes = [230] := by
  cases h with
  | login hverb hout => exact ⟨hout, rfl, hverb, rfl⟩
  | none | place | type | channel => exact absurd rfl hne

theorem of_cwd_ne (h : Change session request next codes) (hne : next.cwd ≠ session.cwd) :
    request.verb = .cwd ∧ codes = [250] ∨ request.verb = .cdup ∧ codes = [200] := by
  cases h with
  | place htold =>
      rcases htold with ⟨hverb, rfl⟩ | ⟨hverb, rfl⟩
      · exact .inl ⟨hverb, rfl⟩
      · exact .inr ⟨hverb, rfl⟩
  | none | login | type | channel => exact absurd rfl hne

theorem of_representation_ne (h : Change session request next codes)
    (hne : next.representation ≠ session.representation) :
    request.verb = .type ∧ codes = [200] := by
  cases h with
  | type hverb => exact ⟨hverb, rfl⟩
  | none | login | place | channel => exact absurd rfl hne

theorem of_passive_ne (h : Change session request next codes)
    (hne : next.passive ≠ session.passive) : request.Reaches session := by
  cases h with
  | channel hreaches => exact hreaches
  | none | login | place | type => exact absurd rfl hne

theorem negotiated_of_type (h : Change session request next codes)
    (hverb : request.verb = .type) (hcodes : codes = [200]) :
    ∃ code, request.argument = some code ∧
      Representation.negotiate code = .accepted next.representation := by
  cases h with
  | type _ harg haccepted => exact ⟨_, harg, haccepted⟩
  | none hcode => exact absurd (List.singleton_injective hcodes) (hcode hverb)
  | login hother =>
      rw [hverb] at hother
      cases hother
  | place htold =>
      rcases htold with ⟨hother, -⟩ | ⟨hother, -⟩
      · rw [hverb] at hother
        cases hother
      · rw [hverb] at hother
        cases hother
  | channel hreaches =>
      have habout := Verb.isAboutData_of_reaches hreaches
      simp [Verb.IsAboutData, hverb] at habout

theorem not_turnedDown_of_done {code : Nat} (h : code ∈ [200, 230, 250]) (verb : Verb) :
    ¬ (code ∈ turnedDown ∨ code = 500 ∧ verb ≠ .pasv) := by
  simp only [List.mem_cons, List.not_mem_nil, or_false] at h
  rcases h with rfl | rfl | rfl <;> simp [turnedDown]

theorem eq_of_turnedDown (h : Change session request next codes) {code : Nat}
    (hcode : code ∈ codes) (hdown : code ∈ turnedDown ∨ code = 500 ∧ request.verb ≠ .pasv) :
    next = session := by
  cases h with
  | none => rfl
  | login | type =>
      obtain rfl := List.mem_singleton.mp hcode
      exact absurd hdown (not_turnedDown_of_done (by decide) _)
  | place htold =>
      obtain rfl := List.mem_singleton.mp hcode
      refine absurd hdown (not_turnedDown_of_done ?_ _)
      rcases htold with ⟨-, rfl⟩ | ⟨-, rfl⟩ <;> decide
  | channel _ hcodes =>
      obtain ⟨hnot, hpasv⟩ := hcodes code hcode
      rcases hdown with hdown | ⟨hfive, hverb⟩
      · exact absurd hdown hnot
      · exact absurd (hpasv hfive) hverb

end Change

/-- The types that are accepted are two, and their letters may be small. -/
theorem Representation.of_negotiate {code : String} {representation : Representation}
    (h : negotiate code = .accepted representation) :
    Text.upper code = "A" ∧ representation = .ascii ∨
      Text.upper code = "I" ∧ representation = .image := by
  simp only [negotiate] at h
  split at h
  · next hcode => exact .inl ⟨hcode, by cases h; rfl⟩
  · next hcode => exact .inr ⟨hcode, by cases h; rfl⟩
  all_goals cases h

/-- Whatever the session is, and whatever becomes of listeners, connections and
transfers, a request changes one field of the session or none, and never the root.
The login comes with a USER that is answered with 230 and does not go again; the
working directory changes with the CWD and CDUP that succeed, and the type with the
TYPE that does, to the one that was named; the channel changes only with a request
that gets as far as it. A request that is turned down changes nothing at all. -/
theorem dispatch_changes_one_field (settings : Settings) (conditions : Conditions)
    (session : Session) (request : Request) :
    let outcome := dispatch settings conditions session request
    let next := outcome.session
    next.root = session.root ∧
    ((∃ loggedIn, next = { session with loggedIn }) ∨ (∃ cwd, next = { session with cwd }) ∨
      (∃ representation, next = { session with representation }) ∨
      ∃ passive, next = { session with passive }) ∧
    (next.loggedIn ≠ session.loggedIn →
      session.loggedIn = false ∧ next.loggedIn = true ∧ request.verb = .user ∧
        outcome.codes = [230]) ∧
    (next.cwd ≠ session.cwd →
      request.verb = .cwd ∧ outcome.codes = [250] ∨
        request.verb = .cdup ∧ outcome.codes = [200]) ∧
    (next.representation ≠ session.representation →
      request.verb = .type ∧ outcome.codes = [200]) ∧
    (request.verb = .type → outcome.codes = [200] → ∃ code, request.argument = some code ∧
      (Text.upper code = "A" ∧ next.representation = .ascii ∨
        Text.upper code = "I" ∧ next.representation = .image)) ∧
    (next.passive ≠ session.passive → request.Reaches session) ∧
    ∀ code ∈ outcome.codes,
      code ∈ [220, 221, 501, 504, 530, 550] ∨ code = 500 ∧ request.verb ≠ .pasv →
        next = session := by
  intro outcome next
  have hchange : Change session request next outcome.codes :=
    (dispatch_handled settings conditions session request).change
  refine ⟨hchange.root_eq, hchange.one_field, hchange.of_loggedIn_ne, hchange.of_cwd_ne,
    hchange.of_representation_ne, fun hverb hcodes => ?_, hchange.of_passive_ne,
    fun code hcode hdown => hchange.eq_of_turnedDown hcode hdown⟩
  obtain ⟨code, harg, haccepted⟩ := hchange.negotiated_of_type hverb hcodes
  exact ⟨code, harg, Representation.of_negotiate haccepted⟩

/-- In a session that no conversation comes to, with a working directory outside its
root, one type is accepted and another turned down. -/
theorem dispatch_changes_one_field_of_types :
    let conditions : Conditions := { tree := ⟨[]⟩, attempts := fun _ => ⟨2000, .opened⟩ }
    let session : Session :=
      { root := .ofString "/r", cwd := .ofString "/o", loggedIn := true }
    let accepted := dispatch {} conditions session ⟨.type, some "a", 1⟩
    let refused := dispatch {} conditions session ⟨.type, some "E", 1⟩
    accepted.codes = [200] ∧ accepted.session.representation = .ascii ∧
      accepted.session.cwd = session.cwd ∧ refused.codes = [504] ∧ refused.session = session := by
  intro conditions session accepted refused
  have hcodes : accepted.codes = [200] := by cbv
  have hrefused : refused.codes = [504] := by cbv
  have hletter : Text.upper "a" = "A" := by cbv
  obtain ⟨-, -, -, hcwd, -, htype, -, -⟩ :=
    dispatch_changes_one_field {} conditions session ⟨.type, some "a", 1⟩
  obtain ⟨-, -, -, -, -, -, -, hkept⟩ :=
    dispatch_changes_one_field {} conditions session ⟨.type, some "E", 1⟩
  refine ⟨hcodes, ?_, ?_, hrefused, hkept 504 ?_ (.inl (by decide))⟩
  · obtain ⟨code, harg, hnamed⟩ := htype rfl hcodes
    obtain rfl : "a" = code := Option.some.inj harg
    rw [hletter] at hnamed
    exact (hnamed.resolve_right fun h => absurd h.1 (by decide)).2
  · by_contra hne
    rcases hcwd hne with ⟨hverb, -⟩ | ⟨hverb, -⟩
    · cases hverb
    · cases hverb
  · rw [hrefused]
    exact List.mem_singleton_self 504

end PassiveFtp
