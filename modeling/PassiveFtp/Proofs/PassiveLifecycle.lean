import Mathlib
import PassiveFtp.Proofs.Runs

/-!
# A passive channel lives from one 227 to the next transfer

A request either leaves the pending channel alone or disposes of it, and only a
passive request that succeeds puts another in its place. That is one relation
with five cases (`ChannelStep`), and every request is in one of them. The first
case is all there is to know of the requests that do not reach the channel; the
other four say what becomes of it and what the client is told, in this order:
the old listener is closed before anything else happens.

From the cases two things follow by going along a run. Listeners are opened only
when none is open, so there is never more than one. And a channel that is
pending goes back to the last request that reached it, which must have opened
it; so the reply that announces a transfer has a 227 of its own.
-/

namespace PassiveFtp

/-- A request that gets as far as the passive channel: no check holds it back,
and it asks for a channel or for data over one. -/
structure Request.Reaches (session : Session) (request : Request) : Prop where
  passed : Passed session request
  wants : request.verb = .pasv ∨ request.WantsData

/-- The verbs of the requests that can reach the channel. -/
def Verb.IsAboutData (verb : Verb) : Prop :=
  verb = .pasv ∨ verb = .retr ∨ verb = .nlst

/-- The codes that only requests that reach the channel are answered with. -/
def dataCodes : List Nat :=
  [150, 226, 227, 425, 426, 450, 451]

/-- The codes of the replies, in order. -/
def Outcome.codes (outcome : Outcome) : List Nat :=
  outcome.replies.filterMap Reply.status?

/-- What a request can do to the passive channel. -/
inductive ChannelStep (session : Session) (request : Request) : Outcome → Prop
  | untouched {next : Session} {reply : Reply} {afterwards : Afterwards} {code : Nat} :
      ¬ request.Reaches session → next.passive = session.passive →
      reply.status? = some code → code ∉ dataCodes →
      (request.verb.IsAboutData → code = 501 ∨ code = 530) →
      ChannelStep session request { session := next, effects := [.reply reply], afterwards }
  | opened {next : Session} {channel : PassiveChannel} :
      request.Reaches session → request.verb = .pasv → next.passive = some channel →
      ChannelStep session request
        { session := next
          effects :=
            Dispatch.closing session.passive ++ [.listening channel, .reply channel.reply] }
  | unopened {next : Session} {reply : Reply} :
      request.Reaches session → request.verb = .pasv → next.passive = none →
      reply.status? = some 500 →
      ChannelStep session request
        { session := next, effects := Dispatch.closing session.passive ++ [.reply reply] }
  | unconnected {next : Session} {reply : Reply} :
      request.Reaches session → request.WantsData → next.passive = none →
      reply.status? = some 425 →
      ChannelStep session request
        { session := next, effects := Dispatch.closing session.passive ++ [.reply reply] }
  | used {next : Session} {channel : PassiveChannel} {opening last : Reply} {sent : List UInt8}
      {code : Nat} :
      request.Reaches session → request.WantsData → session.passive = some channel →
      next.passive = none → opening.status? = some 150 → last.status? = some code →
      code ∈ [226, 426, 450, 451] →
      ChannelStep session request
        { session := next
          effects := [.listenerClosed channel, .reply opening, .sent sent, .dataClosed,
            .reply last] }

/-! ## Codes -/

theorem PassiveChannel.status?_reply (channel : PassiveChannel) :
    channel.reply.status? = some 227 := by
  simp only [reply, Reply.status?, String.toList_append]
  rfl

theorem FileOutcome.status?_reply (outcome : FileOutcome) :
    ∃ code, outcome.reply.status? = some code ∧ code ∈ [226, 426] := by
  cases outcome <;> exact ⟨_, rfl, by decide⟩

theorem ListOutcome.status?_reply (outcome : ListOutcome) :
    ∃ code, outcome.reply.status? = some code ∧ code ∈ [226, 451, 450] := by
  cases outcome <;> exact ⟨_, rfl, by decide⟩

theorem NavigationError.number_replyCode (e : NavigationError) :
    e.replyCode.number ∉ dataCodes := by
  cases e <;> simp only [replyCode] <;> decide

theorem Dispatch.status?_negotiated {α : Type} (answer : Negotiation α) :
    ∃ code, (negotiated answer).status? = some code ∧ code ∈ [200, 504, 501] := by
  cases answer <;> exact ⟨_, rfl, by decide⟩

theorem LoginError.status?_reply (e : LoginError) :
    ∃ code, e.reply.status? = some code ∧ code ∈ [530, 501] := by
  cases e <;> exact ⟨_, rfl, by decide⟩

theorem Dispatch.status?_fetch (settings : Settings) (conditions : Conditions) (session : Session)
    (target : String) (sink : Sink) :
    ∃ code, (fetch settings conditions session target sink).1.status? = some code ∧
      code ∈ [226, 426] := by
  simp only [fetch]
  split
  · exact FileOutcome.status?_reply _
  · next e _ => exact FileOutcome.status?_reply (.openFailed e)

/-! ## Every request is in one of the cases

Most are in the first, because their verb is not about data. -/

section
variable {settings : Settings} {conditions : Conditions} {session : Session} {request : Request}
  {outcome : Outcome} {reply : Reply}

theorem Verb.isAboutData_of_reaches (h : request.Reaches session) : request.verb.IsAboutData := by
  obtain hpasv | hnlst | ⟨hretr, -⟩ := h.wants
  · exact .inl hpasv
  · exact .inr (.inr hnlst)
  · exact .inr (.inl hretr)

theorem channelStep_of_verb {next : Session} {afterwards : Afterwards} {code : Nat}
    (hverb : ¬ request.verb.IsAboutData) (hnext : next.passive = session.passive)
    (hreply : reply.status? = some code) (hcode : code ∉ dataCodes) :
    ChannelStep session request { session := next, effects := [.reply reply], afterwards } :=
  .untouched (fun h => hverb (Verb.isAboutData_of_reaches h)) hnext hreply hcode
    fun h => absurd h hverb

theorem Answered.channelStep (h : Answered settings conditions session request reply) :
    ChannelStep session request (.saying session reply) := by
  cases h with
  | unknown hverb =>
      exact channelStep_of_verb (by simp [Verb.IsAboutData, hverb]) rfl rfl (by decide)
  | early _ hout =>
      refine .untouched (fun h => ?_) rfl rfl (by decide) fun _ => .inr rfl
      rw [h.passed.loggedIn] at hout
      cases hout
  | misspaced _ _ hspaces =>
      exact .untouched (fun h => hspaces h.passed.spaces) rfl rfl (by decide) fun _ => .inl rfl
  | bare _ htakes harg =>
      refine .untouched (fun h => ?_) rfl rfl (by decide) fun _ => .inl rfl
      obtain hpasv | hnlst | ⟨-, hsome⟩ := h.wants
      · rw [hpasv] at htakes
        cases htakes
      · rw [hnlst] at htakes
        cases htakes
      · rw [harg] at hsome
        cases hsome
  | userAgain hverb | userMisspelt hverb =>
      exact channelStep_of_verb (by simp [Verb.IsAboutData, hverb]) rfl rfl (by decide)
  | @userRefused _ e hverb =>
      obtain ⟨code, hreply, hcode⟩ := LoginError.status?_reply e
      have hother : ∀ code ∈ [530, 501], code ∉ dataCodes := by decide
      exact channelStep_of_verb (by simp [Verb.IsAboutData, hverb]) rfl hreply (hother code hcode)
  | @cwdRefused _ e _ hverb =>
      exact channelStep_of_verb (by simp [Verb.IsAboutData, hverb]) rfl rfl e.number_replyCode
  | @cdupRefused e _ hverb =>
      exact channelStep_of_verb (by simp [Verb.IsAboutData, hverb]) rfl rfl e.number_replyCode
  | typeRefused _ hverb | mode _ hverb | stru _ hverb =>
      obtain ⟨code, hreply, hcode⟩ := Dispatch.status?_negotiated _
      have hother : ∀ code ∈ [200, 504, 501], code ∉ dataCodes := by decide
      exact channelStep_of_verb (by simp [Verb.IsAboutData, hverb]) rfl hreply (hother code hcode)

theorem Handled.channelStep (h : Handled settings conditions session request outcome) :
    ChannelStep session request outcome := by
  cases h with
  | answered hanswered => exact hanswered.channelStep
  | admitted hverb =>
      exact channelStep_of_verb (by simp [Verb.IsAboutData, hverb]) rfl rfl (by decide)
  | quit _ hverb | entered _ hverb | climbed _ hverb | typed _ hverb =>
      exact channelStep_of_verb (by simp [Verb.IsAboutData, hverb]) rfl rfl (by decide)
  | listening hpassed hverb => exact .opened ⟨hpassed, .inl hverb⟩ hverb rfl
  | unallocated hpassed hverb => exact .unopened ⟨hpassed, .inl hverb⟩ hverb rfl rfl
  | unconnected hpassed hwants => exact .unconnected ⟨hpassed, .inr hwants⟩ hwants rfl rfl
  | @fetched target _ sink hpassed hverb harg hpassive =>
      have hwants : request.WantsData := .inr ⟨hverb, by rw [harg]; rfl⟩
      obtain ⟨code, hreply, hcode⟩ :=
        Dispatch.status?_fetch settings conditions session target sink
      have hsome : [226, 426] ⊆ [226, 426, 450, 451] := by decide
      exact .used ⟨hpassed, .inr hwants⟩ hwants hpassive rfl rfl hreply (hsome hcode)
  | listed hpassed hverb hpassive =>
      obtain ⟨code, hreply, hcode⟩ := ListOutcome.status?_reply _
      have hsome : [226, 451, 450] ⊆ [226, 426, 450, 451] := by decide
      exact .used ⟨hpassed, .inr (.inl hverb)⟩ (.inl hverb) hpassive rfl rfl hreply (hsome hcode)

end

/-! ## Listeners

What is open is counted from the effects alone, without asking the session. -/

/-- The listeners that are open after an effect. -/
def listenersAfter (opened : List PassiveChannel) : Effect → List PassiveChannel
  | .listening channel => channel :: opened
  | .listenerClosed channel => opened.erase channel
  | _ => opened

/-- At every moment of a row of effects, at most one listener is open. -/
def SingleThroughout (opened : List PassiveChannel) (effects : List Effect) : Prop :=
  ∀ moment, moment <+: effects → (moment.foldl listenersAfter opened).length ≤ 1

theorem singleThroughout_nil {opened : List PassiveChannel} :
    SingleThroughout opened [] ↔ opened.length ≤ 1 := by
  constructor
  · exact fun h => h [] List.nil_prefix
  · intro h moment hmoment
    rw [List.prefix_nil.mp hmoment]
    exact h

theorem singleThroughout_cons {opened : List PassiveChannel} {effect : Effect}
    {rest : List Effect} :
    SingleThroughout opened (effect :: rest) ↔
      opened.length ≤ 1 ∧ SingleThroughout (listenersAfter opened effect) rest := by
  constructor
  · intro h
    refine ⟨h [] List.nil_prefix, fun moment hmoment => ?_⟩
    exact h (effect :: moment) ((List.prefix_cons_inj effect).mpr hmoment)
  · rintro ⟨hfirst, hrest⟩ moment hmoment
    cases moment with
    | nil => exact hfirst
    | cons other more =>
        obtain ⟨rfl, hmore⟩ := List.cons_prefix_cons.mp hmoment
        exact hrest more hmore

theorem singleThroughout_append {opened : List PassiveChannel} {effects more : List Effect} :
    SingleThroughout opened (effects ++ more) ↔
      SingleThroughout opened effects ∧
        SingleThroughout (effects.foldl listenersAfter opened) more := by
  induction effects generalizing opened with
  | nil =>
      rw [List.nil_append, singleThroughout_nil, List.foldl_nil]
      exact ⟨fun h => ⟨h [] List.nil_prefix, h⟩, fun h => h.2⟩
  | cons effect rest ih =>
      rw [List.cons_append, singleThroughout_cons, singleThroughout_cons, ih, List.foldl_cons,
        and_assoc]

section
variable {session : Session} {request : Request} {outcome : Outcome}

/-- A request opens and closes listeners so that the pending channel's is the
one that is open. -/
theorem ChannelStep.listeners (h : ChannelStep session request outcome) :
    SingleThroughout session.passive.toList outcome.effects ∧
      outcome.effects.foldl listenersAfter session.passive.toList =
        outcome.session.passive.toList := by
  cases h with
  | untouched _ hnext =>
      cases hpassive : session.passive <;>
        simp [singleThroughout_cons, singleThroughout_nil, listenersAfter, hnext, hpassive]
  | opened _ _ hnext | unopened _ _ hnext | unconnected _ _ hnext =>
      cases session.passive <;>
        simp [singleThroughout_cons, singleThroughout_nil, listenersAfter, Dispatch.closing, hnext]
  | used _ _ hpassive hnext =>
      simp [singleThroughout_cons, singleThroughout_nil, listenersAfter, hpassive, hnext]

end

/-! ## What the client is told

The five cases again, with the effects read as codes. A code alone often tells
which case it is: only a listener that waits is told with 227, only a connection
that came with 150, and a refusal for the form or for want of a login is told
with codes of its own. -/

theorem codes_closing_append (next : Session) (pending : Option PassiveChannel)
    (effects : List Effect) :
    Outcome.codes { session := next, effects := Dispatch.closing pending ++ effects } =
      Outcome.codes { session := next, effects } := by
  cases pending <;> rfl

/-- The channel after a request, and the codes the request was answered with. -/
inductive ChannelTold (session : Session) (request : Request) :
    Option PassiveChannel → List Nat → Prop
  | untouched {code : Nat} :
      ¬ request.Reaches session → code ∉ dataCodes →
      (request.verb.IsAboutData → code = 501 ∨ code = 530) →
      ChannelTold session request session.passive [code]
  | opened {channel : PassiveChannel} :
      request.Reaches session → request.verb = .pasv →
      ChannelTold session request (some channel) [227]
  | unopened :
      request.Reaches session → request.verb = .pasv → ChannelTold session request none [500]
  | unconnected :
      request.Reaches session → request.WantsData → ChannelTold session request none [425]
  | used {channel : PassiveChannel} {code : Nat} :
      request.Reaches session → request.WantsData → session.passive = some channel →
      code ∈ [226, 426, 450, 451] → ChannelTold session request none [150, code]

section
variable {session : Session} {request : Request} {outcome : Outcome}

theorem ChannelStep.told (h : ChannelStep session request outcome) :
    ChannelTold session request outcome.session.passive outcome.codes := by
  cases h with
  | untouched hreaches hnext hreply hcode habout =>
      simp only [Outcome.codes, Outcome.replies, List.filterMap_cons, Effect.reply?, hreply,
        List.filterMap_nil, hnext]
      exact .untouched hreaches hcode habout
  | @opened _ channel hreaches hverb hnext =>
      rw [codes_closing_append]
      simp only [Outcome.codes, Outcome.replies, List.filterMap_cons, Effect.reply?,
        channel.status?_reply, List.filterMap_nil, hnext]
      exact .opened hreaches hverb
  | unopened hreaches hverb hnext hreply =>
      rw [codes_closing_append]
      simp only [Outcome.codes, Outcome.replies, List.filterMap_cons, Effect.reply?, hreply,
        List.filterMap_nil, hnext]
      exact .unopened hreaches hverb
  | unconnected hreaches hwants hnext hreply =>
      rw [codes_closing_append]
      simp only [Outcome.codes, Outcome.replies, List.filterMap_cons, Effect.reply?, hreply,
        List.filterMap_nil, hnext]
      exact .unconnected hreaches hwants
  | used hreaches hwants hpassive hnext hopening hlast hcode =>
      simp only [Outcome.codes, Outcome.replies, List.filterMap_cons, Effect.reply?, hopening,
        hlast, List.filterMap_nil, hnext]
      exact .used hreaches hwants hpassive hcode

theorem ChannelStep.announced_of_dataClosed (h : ChannelStep session request outcome)
    (hclosed : .dataClosed ∈ outcome.effects) : 150 ∈ outcome.codes := by
  cases h with
  | untouched => simp at hclosed
  | opened | unopened | unconnected => cases session.passive <;> simp [Dispatch.closing] at hclosed
  | used _ _ _ _ hopening hlast =>
      simp [Outcome.codes, Outcome.replies, List.filterMap_cons, Effect.reply?, hopening]

end

namespace ChannelTold

variable {session : Session} {request : Request} {after : Option PassiveChannel}
  {codes : List Nat}

theorem after_of_pasv (h : ChannelTold session request after codes) (hverb : request.verb = .pasv)
    (hcode : 500 ∈ codes) : after = none := by
  cases h with
  | untouched _ _ habout =>
      obtain rfl : 500 = _ := List.mem_singleton.mp hcode
      rcases habout (.inl hverb) with h | h <;> cases h
  | opened => exact absurd hcode (by decide)
  | unopened | unconnected | used => rfl

theorem not_pasv_of_transfer (hverb : request.verb = .retr ∨ request.verb = .nlst) :
    request.verb ≠ .pasv := by
  rcases hverb with h | h <;> simp [h]

theorem after_of_transfer (h : ChannelTold session request after codes)
    (hverb : request.verb = .retr ∨ request.verb = .nlst) {code : Nat} (hcode : code ∈ codes)
    (hdata : code ∈ dataCodes) : after = none := by
  cases h with
  | untouched _ hother => exact absurd (List.mem_singleton.mp hcode ▸ hdata) hother
  | opened _ hpasv => exact absurd hpasv (not_pasv_of_transfer hverb)
  | unopened | unconnected | used => rfl

theorem after_of_refusal (h : ChannelTold session request after codes)
    (hverb : request.verb = .retr ∨ request.verb = .nlst) (hcode : 501 ∈ codes ∨ 530 ∈ codes) :
    after = session.passive := by
  cases h with
  | untouched => rfl
  | opened _ hpasv | unopened _ hpasv => exact absurd hpasv (not_pasv_of_transfer hverb)
  | unconnected => exact absurd hcode (by decide)
  | used _ _ _ hlast =>
      simp only [List.mem_cons, List.not_mem_nil, or_false] at hlast hcode
      omega

theorem of_announced (h : ChannelTold session request after codes) (hcode : 150 ∈ codes) :
    (∃ channel, session.passive = some channel) ∧ after = none := by
  cases h with
  | untouched _ hother => exact absurd (List.mem_singleton.mp hcode ▸ by decide) hother
  | opened | unopened | unconnected => exact absurd hcode (by decide)
  | used _ _ hpassive => exact ⟨⟨_, hpassive⟩, rfl⟩

theorem of_opened (h : ChannelTold session request after codes) (hcode : 227 ∈ codes) :
    ∃ channel, after = some channel := by
  cases h with
  | untouched _ hother => exact absurd (List.mem_singleton.mp hcode ▸ by decide) hother
  | @opened channel => exact ⟨channel, rfl⟩
  | unopened | unconnected => exact absurd hcode (by decide)
  | used _ _ _ hlast =>
      simp only [List.mem_cons, List.not_mem_nil, or_false] at hlast hcode
      omega

/-- A request that does not reach the channel says nothing of a transfer, and if
it asks for a channel, says no. -/
theorem of_not_reaches (h : ChannelTold session request after codes)
    (hreaches : ¬ request.Reaches session) :
    150 ∉ codes ∧ 425 ∉ codes ∧
      (request.verb = .pasv → codes = [501] ∨ codes = [530]) := by
  cases h with
  | untouched _ hcode habout =>
      refine ⟨?_, ?_, fun hverb => ?_⟩
      · rw [List.mem_singleton]
        exact fun h => hcode (h ▸ by decide)
      · rw [List.mem_singleton]
        exact fun h => hcode (h ▸ by decide)
      · rcases habout (.inl hverb) with rfl | rfl
        · exact .inl rfl
        · exact .inr rfl
  | opened hin | unopened hin | unconnected hin | used hin => exact absurd hin hreaches

/-- A channel that is pending after a request was opened by it, or was pending
before and not reached. -/
theorem after_eq_some (h : ChannelTold session request after codes) {channel : PassiveChannel} :
    after = some channel ↔
      (request.Reaches session ∧ request.verb = .pasv ∧ 227 ∈ codes ∧ after = some channel) ∨
      (¬ request.Reaches session ∧ session.passive = some channel) := by
  cases h with
  | untouched hreaches => simp [hreaches]
  | opened hreaches hverb => simp [hreaches, hverb]
  | unopened hreaches | unconnected hreaches | used hreaches => simp [hreaches]

end ChannelTold

/-! ## Going along a run -/

/-- A request in a run: the session it was made in and what it came to. -/
structure Exchange where
  before : Session
  request : Request
  outcome : Outcome

/-- The exchanges of a run, in order. -/
def Session.exchanges (settings : Settings) : Session → List Turn → List Exchange
  | _, [] => []
  | session, turn :: rest =>
    let outcome := turn.outcome settings session
    { before := session, request := turn.request, outcome } ::
      outcome.session.exchanges settings rest

namespace Exchange

/-- Whether the request got as far as the passive channel. -/
def Reaches (x : Exchange) : Prop :=
  x.request.Reaches x.before

/-- Whether the request put a channel in the place of the one that may have been
pending. -/
def Opens (x : Exchange) (channel : PassiveChannel) : Prop :=
  x.Reaches ∧ x.request.verb = .pasv ∧ 227 ∈ x.outcome.codes ∧
    x.outcome.session.passive = some channel

end Exchange

/-- A channel was opened some time ago, and no request has reached it since. -/
def PendingSince (past : List Exchange) (channel : PassiveChannel) : Prop :=
  ∃ (older : List Exchange) (opening : Exchange) (newer : List Exchange),
    past = older ++ opening :: newer ∧ opening.Opens channel ∧ ∀ x ∈ newer, ¬ x.Reaches

section
variable {settings : Settings} {session : Session} {turns : List Turn} {channel : PassiveChannel}

theorem Turn.channelStep (settings : Settings) (session : Session) (turn : Turn) :
    ChannelStep session turn.request (turn.outcome settings session) :=
  (dispatch_handled settings turn.conditions session turn.request).channelStep

theorem Session.channelStep_of_mem {x : Exchange} (hx : x ∈ session.exchanges settings turns) :
    ChannelStep x.before x.request x.outcome := by
  induction turns generalizing session with
  | nil => cases hx
  | cons turn rest ih =>
      rw [exchanges] at hx
      rcases List.mem_cons.mp hx with rfl | hrest
      · exact turn.channelStep settings session
      · exact ih hrest

/-- Along a run there is at most one listener, and in the end the one that is
pending. -/
theorem Session.listeners_exchanges (settings : Settings) (session : Session)
    (turns : List Turn) :
    let effects := (session.exchanges settings turns).flatMap (·.outcome.effects)
    SingleThroughout session.passive.toList effects ∧
      effects.foldl listenersAfter session.passive.toList =
        (session.after settings turns).passive.toList := by
  induction turns generalizing session with
  | nil => exact ⟨singleThroughout_nil.mpr (by cases session.passive <;> simp), rfl⟩
  | cons turn rest ih =>
      obtain ⟨hsingle, hopen⟩ := (turn.channelStep settings session).listeners
      obtain ⟨ihsingle, ihopen⟩ := ih (turn.outcome settings session).session
      simp only [exchanges, List.flatMap_cons]
      rw [singleThroughout_append, List.foldl_append, hopen, after_cons]
      exact ⟨⟨hsingle, ihsingle⟩, ihopen⟩

theorem pendingSince_cons {x : Exchange} {rest : List Exchange} :
    PendingSince (x :: rest) channel ↔
      PendingSince rest channel ∨ (x.Opens channel ∧ ∀ y ∈ rest, ¬ y.Reaches) := by
  constructor
  · rintro ⟨older, opening, newer, hsplit, hopens, hnewer⟩
    cases older with
    | nil =>
        cases hsplit
        exact .inr ⟨hopens, hnewer⟩
    | cons first more =>
        cases hsplit
        exact .inl ⟨more, opening, newer, rfl, hopens, hnewer⟩
  · rintro (⟨older, opening, newer, rfl, hopens, hnewer⟩ | ⟨hopens, hrest⟩)
    · exact ⟨x :: older, opening, newer, rfl, hopens, hnewer⟩
    · exact ⟨[], x, rest, rfl, hopens, hrest⟩

/-- A channel is pending after a run if some request opened it and none has
reached it since, or if it was pending before and none has at all. -/
theorem Session.passive_after_eq_some :
    (session.after settings turns).passive = some channel ↔
      PendingSince (session.exchanges settings turns) channel ∨
        ((∀ x ∈ session.exchanges settings turns, ¬ x.Reaches) ∧
          session.passive = some channel) := by
  -- A run is followed from its first turn on, so it may begin in any session.
  induction turns generalizing session with
  | nil => simp [after_nil, exchanges, PendingSince]
  | cons turn rest ih =>
      rw [after_cons, ih, exchanges, pendingSince_cons,
        (turn.channelStep settings session).told.after_eq_some]
      simp only [List.forall_mem_cons, Exchange.Opens, Exchange.Reaches]
      constructor
      · rintro (hold | ⟨hrest, hopened | ⟨hreaches, hsame⟩⟩)
        · exact .inl (.inl hold)
        · exact .inl (.inr ⟨hopened, hrest⟩)
        · exact .inr ⟨⟨hreaches, hrest⟩, hsame⟩
      · rintro ((hold | ⟨hopened, hrest⟩) | ⟨⟨hreaches, hrest⟩, hsame⟩)
        · exact .inl hold
        · exact .inr ⟨hrest, .inl hopened⟩
        · exact .inr ⟨hrest, .inr ⟨hreaches, hsame⟩⟩

end

/-- The life of a passive channel in a session that begins anew. There is never
more than one listener. A channel is pending exactly if the last request that
reached the channel was a passive one and was answered 227. And for whatever
comes next: a passive request that is answered 500 and a transfer that is
answered at all leave no channel, a transfer that is refused leaves it as it is,
and one that is announced uses up a channel that was opened by a 227 since which
nothing has been announced, no channel has been missed and no passive request
has got past the checks. -/
theorem passive_lifecycle (settings : Settings) (root : Path) (turns : List Turn) :
    let past := (Session.start root).exchanges settings turns
    let session := (Session.start root).after settings turns
    (∀ moment, moment <+: past.flatMap (·.outcome.effects) →
      (moment.foldl listenersAfter []).length ≤ 1) ∧
    (past.flatMap (·.outcome.effects)).foldl listenersAfter [] = session.passive.toList ∧
    (session.passive.isSome = true ↔
      ∃ (older : List Exchange) (last : Exchange) (newer : List Exchange),
        past = older ++ last :: newer ∧ last.Reaches ∧ (∀ x ∈ newer, ¬ x.Reaches) ∧
        last.request.verb = .pasv ∧ 227 ∈ last.outcome.codes) ∧
    ∀ turn : Turn,
      let outcome := turn.outcome settings session
      (turn.request.verb = .pasv → 500 ∈ outcome.codes → outcome.session.passive = none) ∧
      (turn.request.verb = .retr ∨ turn.request.verb = .nlst →
        (∃ code ∈ [425, 226, 426, 450, 451], code ∈ outcome.codes) →
          outcome.session.passive = none) ∧
      (turn.request.verb = .retr ∨ turn.request.verb = .nlst →
        501 ∈ outcome.codes ∨ 530 ∈ outcome.codes →
          outcome.session.passive = session.passive) ∧
      (.dataClosed ∈ outcome.effects → 150 ∈ outcome.codes) ∧
      (150 ∈ outcome.codes →
        outcome.session.passive = none ∧
        ∃ (older : List Exchange) (opening : Exchange) (newer : List Exchange)
          (channel : PassiveChannel), past = older ++ opening :: newer ∧
          session.passive = some channel ∧ opening.outcome.session.passive = some channel ∧
          opening.request.verb = .pasv ∧ 227 ∈ opening.outcome.codes ∧
          ∀ x ∈ newer, 150 ∉ x.outcome.codes ∧ 425 ∉ x.outcome.codes ∧
            (x.request.verb = .pasv → x.outcome.codes = [501] ∨ x.outcome.codes = [530])) := by
  intro past session
  obtain ⟨hsingle, hopen⟩ := Session.listeners_exchanges settings (.start root) turns
  have hpending : ∀ {channel : PassiveChannel}, session.passive = some channel ↔
      PendingSince past channel := by
    intro channel
    rw [show session.passive = some channel ↔ _ from Session.passive_after_eq_some]
    simp [Session.start, past]
  refine ⟨hsingle, hopen, ?_, fun turn => ?_⟩
  · rw [Option.isSome_iff_exists]
    constructor
    · rintro ⟨channel, hchannel⟩
      obtain ⟨older, last, newer, hsplit, ⟨hreaches, hverb, hcode, -⟩, hnewer⟩ :=
        hpending.mp hchannel
      exact ⟨older, last, newer, hsplit, hreaches, hnewer, hverb, hcode⟩
    · rintro ⟨older, last, newer, hsplit, hreaches, hnewer, hverb, hcode⟩
      have hmem : last ∈ past := by
        rw [hsplit]
        exact List.mem_append_right _ List.mem_cons_self
      obtain ⟨channel, hchannel⟩ := (Session.channelStep_of_mem hmem).told.of_opened hcode
      exact ⟨channel, hpending.mpr
        ⟨older, last, newer, hsplit, ⟨hreaches, hverb, hcode, hchannel⟩, hnewer⟩⟩
  · have hstep := turn.channelStep settings session
    have htold := hstep.told
    refine ⟨htold.after_of_pasv, ?_, htold.after_of_refusal, hstep.announced_of_dataClosed, ?_⟩
    · rintro hverb ⟨code, hlast, hcode⟩
      have hdata : code ∈ dataCodes := by
        simp only [dataCodes, List.mem_cons, List.not_mem_nil, or_false] at hlast ⊢
        omega
      exact htold.after_of_transfer hverb hcode hdata
    · intro hcode
      obtain ⟨⟨channel, hchannel⟩, hnone⟩ := htold.of_announced hcode
      obtain ⟨older, opening, newer, hsplit, ⟨-, hverb, h227, hopened⟩, hnewer⟩ :=
        hpending.mp hchannel
      refine ⟨hnone, older, opening, newer, channel, hsplit, hchannel, hopened, hverb, h227, ?_⟩
      intro x hx
      have hmem : x ∈ past := by
        rw [hsplit]
        exact List.mem_append_right _ (List.mem_cons_of_mem _ hx)
      exact (Session.channelStep_of_mem hmem).told.of_not_reaches (hnewer x hx)

/-- Turns over an empty tree in which listeners open and clients come. -/
def promptTurn (verb : Verb) (argument : Option String) (spaces : Nat) : Turn where
  conditions :=
    { tree := ⟨[]⟩
      interface := some ⟨127, 0, 0, 1⟩
      attempts := fun _ => ⟨2000, .opened⟩
      arrival := .connected {} }
  request := { verb, argument, spaces }

/-- A passive request with a space too many comes between a channel and the
listing that uses it up, and changes nothing. -/
theorem passive_lifecycle_misspaced :
    let turns := [promptTurn .user (some "cs317") 1, promptTurn .pasv none 0,
      promptTurn .pasv none 1]
    let past := (Session.start (.ofString "/r")).exchanges {} turns
    let session := (Session.start (.ofString "/r")).after {} turns
    let next := (promptTurn .nlst none 0).outcome {} session
    session.passive.isSome = true ∧ 150 ∈ next.codes ∧ next.session.passive = none ∧
      ∃ (older : List Exchange) (opening : Exchange) (newer : List Exchange),
        past = older ++ opening :: newer ∧ opening.request.verb = .pasv ∧
        227 ∈ opening.outcome.codes := by
  intro turns past session next
  obtain ⟨-, -, -, hnext⟩ := passive_lifecycle {} (.ofString "/r") turns
  obtain ⟨-, -, -, -, hused⟩ := hnext (promptTurn .nlst none 0)
  have hsession : session = { Session.start (.ofString "/r") with
      loggedIn := true, passive := some ⟨⟨127, 0, 0, 1⟩, 2000⟩ } := rfl
  have hcode : 150 ∈ next.codes := by
    have hcodes : next.codes = [150, 451] := by
      simp only [next, hsession]
      cbv
    rw [hcodes]
    decide
  obtain ⟨hnone, older, opening, newer, -, hsplit, -, -, hverb, h227, -⟩ := hused hcode
  exact ⟨by rw [hsession]; rfl, hcode, hnone, older, opening, newer, hsplit, hverb, h227⟩

end PassiveFtp
