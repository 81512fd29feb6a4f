import Mathlib
import PassiveFtp.Proofs.Conversations
import PassiveFtp.Proofs.Handled
import PassiveFtp.Proofs.Requests

/-!
# Nothing happens before the login

A session is logged in from the first line on that asks for it in exactly the
right form, and from no other. Up to that line it is the session it began as,
and all that has gone out is refusals.

Both facts are one invariant, because each needs the other: the session can
only be known not to have changed while it is known not to be logged in, and a
request is only known to log in when it is not. What makes them hold of every
line is that the cases in which a request gets anything done all start with the
two checks being passed, and logging in is the one way past them.
-/

namespace PassiveFtp

/-- What a line has to be to log in: the verb in any letter case, one space, and
the name of the account, which is one word and could be a name. -/
def Login.Admits (settings : Settings) (line : String) : Prop :=
  ∃ verb name : List Char, line.toList = verb ++ ' ' :: name ∧
    Text.upper (String.ofList verb) = "USER" ∧ String.ofList name = settings.username ∧
    (∀ c ∈ name, c ≠ ' ' ∧ c.toNat ≠ 0) ∧ Text.allBlank (String.ofList name) = false

/-- The replies that let nothing happen. -/
def Reply.IsRefusal (reply : Reply) : Prop :=
  reply.status? ∈ [some 500, some 501, some 530]

/-- What a request has to be to log in. -/
def Request.LogsIn (settings : Settings) (request : Request) : Prop :=
  request.verb = .user ∧ request.spaces = 1 ∧
    ∃ name, request.argument = some name ∧ Login.check settings name = .ok ()

/-! ## The line and the request -/

theorem Login.check_eq_ok {settings : Settings} {name : String} :
    check settings name = .ok () ↔ isWellFormed name = true ∧ name = settings.username := by
  simp only [check]
  split
  · next hbad => simp_all
  · next hgood =>
      split
      · next hname => simp_all
      · next hname => simp_all

theorem Login.isWellFormed_ofList {name : List Char}
    (hname : ∀ c ∈ name, Request.endsLine c = false) :
    Login.isWellFormed (String.ofList name) = true ↔
      Text.allBlank (String.ofList name) = false ∧ ∀ c ∈ name, c.toNat ≠ 0 := by
  simp only [Request.endsLine, Bool.or_eq_false_iff, beq_eq_false_iff_ne] at hname
  simp only [Login.isWellFormed, Bool.and_eq_true, Bool.not_eq_true', String.toList_ofList,
    List.any_eq_false, Bool.or_eq_true, beq_iff_eq, not_or]
  constructor
  · rintro ⟨hblank, hall⟩
    exact ⟨hblank, fun c hc => (hall c hc).2⟩
  · rintro ⟨hblank, hall⟩
    exact ⟨hblank, fun c hc => ⟨hname c hc, hall c hc⟩⟩

/-- A line without a line end in it admits if its request logs in. -/
theorem Request.logsIn_parse {settings : Settings} {line : String}
    (hline : ∀ c ∈ line.toList, endsLine c = false) :
    (parse line).LogsIn settings ↔ Login.Admits settings line := by
  constructor
  · rintro ⟨hverb, hspaces, name, harg, hcheck⟩
    obtain ⟨before, after, hsplit, rfl, hword, -, hafter, -⟩ := two_words_of_parse hspaces harg
    have hends : ∀ c ∈ after, endsLine c = false := fun c hc =>
      hline c (by rw [hsplit]; exact List.mem_append_right _ (List.mem_cons_of_mem _ hc))
    obtain ⟨hgood, hname⟩ := Login.check_eq_ok.mp hcheck
    obtain ⟨hblank, hzero⟩ := (Login.isWellFormed_ofList hends).mp hgood
    rw [hword, Verb.ofWord_eq_iff .user rfl] at hverb
    refine ⟨before, after, hsplit, hverb, hname, ?_, hblank⟩
    exact fun c hc => ⟨fun h => hafter (h ▸ hc), hzero c hc⟩
  · rintro ⟨verb, name, hsplit, hverb, hname, hall, hblank⟩
    have hafter : ' ' ∉ name := fun h => (hall ' ' h).1 rfl
    have hends : ∀ c ∈ name, endsLine c = false := fun c hc =>
      hline c (by rw [hsplit]; exact List.mem_append_right _ (List.mem_cons_of_mem _ hc))
    have hname' : name ≠ [] := by
      rintro rfl
      exact absurd hblank (by decide)
    obtain ⟨hbefore, hverb'⟩ := Verb.isWord_of_name .user rfl hverb
    have hparse : parse line = ⟨.user, some (String.ofList name), 1⟩ := by
      rw [← String.ofList_toList (s := line), hsplit, parse_two_words hbefore hverb' hafter hname',
        (Verb.ofWord_eq_iff .user rfl).mpr hverb]
    have hgood := (Login.isWellFormed_ofList hends).mpr ⟨hblank, fun c hc => (hall c hc).2⟩
    rw [hparse]
    exact ⟨rfl, rfl, _, rfl, Login.check_eq_ok.mpr ⟨hgood, hname⟩⟩

/-! ## One request -/

section
variable {settings : Settings} {conditions : Conditions} {session : Session} {request : Request}
  {outcome : Outcome} {reply : Reply}

theorem Answered.isRefusal (h : Answered settings conditions session request reply)
    (hshut : session.loggedIn = false) : reply.IsRefusal := by
  cases h with
  | unknown | early | userMisspelt => simp [Reply.IsRefusal, Reply.status?, Reply.plain,
      ReplyCode.number]
  | @userRefused _ e =>
      cases e <;> simp [Reply.IsRefusal, Reply.status?, LoginError.reply, Reply.plain,
        ReplyCode.number]
  | misspaced _ hin | userAgain _ hin =>
      rw [hshut] at hin
      cases hin
  | bare hpassed | cwdRefused hpassed | cdupRefused hpassed | typeRefused hpassed | mode hpassed
  | stru hpassed =>
      rw [hpassed.loggedIn] at hshut
      cases hshut

/-- A request that logs in is answered without effect only in a session that is
logged in already. -/
theorem Answered.loggedIn_of_logsIn (h : Answered settings conditions session request reply)
    (hlogs : request.LogsIn settings) : session.loggedIn = true := by
  obtain ⟨huser, hspaces, name, harg, hcheck⟩ := hlogs
  cases h with
  | unknown hverb =>
      rw [huser] at hverb
      cases hverb
  | early hchecked => exact absurd huser hchecked.1
  | userMisspelt _ _ hshape => exact absurd hspaces (hshape name harg)
  | userRefused _ _ harg' _ herror =>
      rw [harg] at harg'
      cases harg'
      rw [hcheck] at herror
      cases herror
  | misspaced _ hin | userAgain _ hin => exact hin
  | bare hpassed | cwdRefused hpassed | cdupRefused hpassed | typeRefused hpassed | mode hpassed
  | stru hpassed => exact hpassed.loggedIn

/-- A session is logged in after a request if it was before, or if the request
logs in. -/
theorem Handled.loggedIn_iff (h : Handled settings conditions session request outcome) :
    outcome.session.loggedIn = true ↔ session.loggedIn = true ∨ request.LogsIn settings := by
  cases h with
  | answered hanswered =>
      constructor
      · exact .inl
      · rintro (hin | hlogs)
        · exact hin
        · exact hanswered.loggedIn_of_logsIn hlogs
  | @admitted name hverb _ harg hspaces hcheck =>
      constructor
      · exact fun _ => .inr ⟨hverb, hspaces, name, harg, hcheck⟩
      · exact fun _ => rfl
  | quit hpassed | entered hpassed | climbed hpassed | typed hpassed | listening hpassed
  | unallocated hpassed | unconnected hpassed | fetched hpassed | listed hpassed =>
      constructor
      · exact .inl
      · exact fun _ => hpassed.loggedIn

/-- A request that leaves a session without a login does nothing but refuse. -/
theorem Handled.of_shut (h : Handled settings conditions session request outcome)
    (hshut : outcome.session.loggedIn = false) :
    outcome.session = session ∧
      ∃ reply : Reply, outcome.effects = [.reply reply] ∧ reply.IsRefusal := by
  cases h with
  | answered hanswered => exact ⟨rfl, _, rfl, hanswered.isRefusal hshut⟩
  | admitted => cases hshut
  | quit hpassed | entered hpassed | climbed hpassed | typed hpassed | listening hpassed
  | unallocated hpassed | unconnected hpassed | fetched hpassed | listed hpassed =>
      have hout : session.loggedIn = false := hshut
      rw [hpassed.loggedIn] at hout
      cases hout

end

/-! ## Whole conversations -/

/-- A session as new, and after the greeting nothing but refusals. -/
def OnlyRefused (root : Path) (session : Session) (trace : Array Effect) : Prop :=
  session = .start root ∧ ∃ replies : List Reply,
    trace.toList = .reply (.plain .serviceReady) :: replies.map .reply ∧
    ∀ reply ∈ replies, reply.IsRefusal

/-- What holds of a conversation that began without a login: it has one if a
line was dispatched that admits, and has done nothing if it has none. -/
structure Conversation.Gated (settings : Settings) (root : Path) (c : Conversation) : Prop where
  loggedIn_iff :
    c.session.loggedIn = true ↔ ∃ line ∈ c.requests, Login.Admits settings line
  shut : c.session.loggedIn = false → OnlyRefused root c.session c.trace

namespace Conversation

variable {settings : Settings} {root : Path} {c : Conversation}

theorem gated_greet (settings : Settings) (root : Path) (writer : Sink) :
    (greet (.start root) writer).Gated settings root := by
  obtain ⟨hsession, htrace, -, hrequests⟩ := greet_keeps (.start root) writer
  constructor
  · rw [hsession, hrequests]
    simp [Session.start]
  · rw [hsession, htrace]
    exact fun _ => ⟨rfl, [], rfl, by simp⟩

theorem isRefusal_tooLong : tooLong.IsRefusal := by
  simp [Reply.IsRefusal, Reply.status?, tooLong, ReplyCode.number]

theorem onlyRefused_push {session : Session} {trace : Array Effect} {reply : Reply}
    (h : OnlyRefused root session trace) (hreply : reply.IsRefusal) :
    OnlyRefused root session (trace.push (.reply reply)) := by
  obtain ⟨hsession, replies, htrace, hreplies⟩ := h
  refine ⟨hsession, replies ++ [reply], by simp [htrace], ?_⟩
  intro other hother
  rcases List.mem_append.mp hother with hold | hnew
  · exact hreplies other hold
  · rw [List.mem_singleton.mp hnew]
    exact hreply

theorem endsLine_of_mem_lineOf {bytes : List UInt8} :
    ∀ c ∈ (lineOf bytes).toList, Request.endsLine c = false := by
  intro c hc
  rw [lineOf, Request.stripEnd, String.toList_ofList] at hc
  simpa using List.all_eq_true.mp List.all_takeWhile c hc

theorem Gated.answer (h : c.Gated settings root) (client : SocketAddress)
    (world : Nat → Conditions) (frame : Frame) :
    (c.answer settings client world frame).Gated settings root := by
  cases frame with
  | overlong kept =>
      obtain ⟨hsession, htrace, -, -, hrequests⟩ := answer_overlong settings client world c kept
      constructor
      · rw [hsession, hrequests]
        exact h.loggedIn_iff
      · rw [hsession, htrace]
        exact fun hshut => onlyRefused_push (h.shut hshut) isRefusal_tooLong
  | line bytes =>
      obtain ⟨hsession, htrace, -, -, hrequests⟩ := answer_line settings client world c bytes
      have hhandled := dispatch_handled settings (world c.dispatched) c.session
        (Request.parse (lineOf bytes))
      constructor
      · rw [hsession, hrequests, hhandled.loggedIn_iff, h.loggedIn_iff,
          Request.logsIn_parse endsLine_of_mem_lineOf]
        simp only [List.mem_append, List.mem_singleton, or_and_right, exists_or, exists_eq_left]
      · rw [hsession, htrace]
        intro hshut
        obtain ⟨hsame, reply, heffects, hrefusal⟩ := hhandled.of_shut hshut
        rw [hsame] at hshut ⊢
        rw [heffects]
        exact onlyRefused_push (h.shut hshut) hrefusal

theorem loggedIn_answer (h : c.session.loggedIn = true) (client : SocketAddress)
    (world : Nat → Conditions) (frame : Frame) :
    (c.answer settings client world frame).session.loggedIn = true := by
  cases frame with
  | overlong kept =>
      rw [(answer_overlong settings client world c kept).1]
      exact h
  | line bytes =>
      rw [(answer_line settings client world c bytes).1]
      exact (dispatch_handled _ _ _ _).loggedIn_iff.mpr (.inl h)

theorem loggedIn_answerAll_append (hopen : c.afterwards = .readOn) (client : SocketAddress)
    (world : Nat → Conditions) (frames more : List Frame)
    (h : (c.answerAll settings client world frames).session.loggedIn = true) :
    (c.answerAll settings client world (frames ++ more)).session.loggedIn = true := by
  rw [answerAll, answerAllBy_append (dispatch settings) client world hopen]
  split
  · exact @answerAll_invariant settings client world (·.session.loggedIn = true) _ more h
      fun _ frame hin => loggedIn_answer hin client world frame
  · exact h

/-- After any number of lines, a conversation is logged in exactly if a line was
dispatched that admits, and then for good; as long as it is not, its session is
as new and it has only greeted and refused. -/
theorem loggedIn_iff_admitted (settings : Settings) (client : SocketAddress)
    (world : Nat → Conditions) (root : Path) (writer : Sink) (incoming : Incoming) (count : Nat) :
    let frames := incoming.frames settings.maxCommandLength
    let heard := frames.take count
    let c := (greet (.start root) writer).answerAll settings client world heard
    (c.requests <+: heard.filterMap Frame.line? ∧
      (c.afterwards = .readOn → c.requests = heard.filterMap Frame.line?)) ∧
    (c.session.loggedIn = true ↔ ∃ line ∈ c.requests, Login.Admits settings line) ∧
    (c.session.loggedIn = false →
      c.session = .start root ∧ ∃ replies : List Reply,
        c.trace.toList = .reply (.plain .serviceReady) :: replies.map .reply ∧
        ∀ reply ∈ replies, reply.IsRefusal) ∧
    (c.session.loggedIn = true → ∀ more : Nat,
      ((greet (.start root) writer).answerAll settings client world
        (frames.take (count + more))).session.loggedIn = true) := by
  intro frames heard c
  obtain ⟨-, -, hopen, hnone⟩ := greet_keeps (.start root) writer
  obtain ⟨lines, hlines, hfirst, hall⟩ := requests_answerAll settings client world hopen heard
  rw [hnone, List.nil_append] at hlines
  have hgated : c.Gated settings root :=
    answerAll_invariant settings client world (gated_greet settings root writer)
      fun _ frame h => h.answer client world frame
  refine ⟨?_, hgated.loggedIn_iff, hgated.shut, fun hin more => ?_⟩
  · rw [show c.requests = lines from hlines]
    exact ⟨hfirst, hall⟩
  · rw [List.take_add]
    exact loggedIn_answerAll_append hopen client world heard _ hin

/-- A client that gives the name of the default account, in one line. -/
def knocking : Incoming where
  reads := [[0x75, 0x73, 0x65, 0x72, 0x20, 0x63, 0x73, 0x33, 0x31, 0x37, 0x0D, 0x0A]]

/-- That client is outside before its line and inside after it, and stays there
when nothing more comes. -/
theorem loggedIn_iff_admitted_knocking :
    let settings : Settings := {}
    let client : SocketAddress := .v4 ⟨127, 0, 0, 1⟩ 5000
    let world : Nat → Conditions := fun _ => { tree := ⟨[]⟩, attempts := fun _ => ⟨2000, .opened⟩ }
    let begun := greet (.start (.ofString "/r")) {}
    let frames := knocking.frames settings.maxCommandLength
    (begun.answerAll settings client world (frames.take 0)).session = .start (.ofString "/r") ∧
      (begun.answerAll settings client world (frames.take 1)).session.loggedIn = true ∧
      (begun.answerAll settings client world (frames.take (1 + 1))).session.loggedIn = true := by
  intro settings client world begun frames
  obtain ⟨-, -, hshut, -⟩ :=
    loggedIn_iff_admitted settings client world (.ofString "/r") {} knocking 0
  obtain ⟨-, hiff, -, hstays⟩ :=
    loggedIn_iff_admitted settings client world (.ofString "/r") {} knocking 1
  have hframes : frames.take 1 = [.line knocking.reads.flatten] := by
    rw [show frames = _ from Framing.frames_eq_pieces (by decide)]
    decide
  have hline : lineOf knocking.reads.flatten = "user cs317" := by cbv
  have hadmits : Login.Admits settings "user cs317" :=
    ⟨['u', 's', 'e', 'r'], ['c', 's', '3', '1', '7'], by decide, by decide, by decide, by simp,
      by decide⟩
  have hrequests : (begun.answerAll settings client world (frames.take 1)).requests =
      ["user cs317"] := by
    rw [hframes, answerAll_singleton, (answer_line settings client world begun _).2.2.2.2, hline,
      show begun.requests = [] from (greet_keeps _ _).2.2.2, List.nil_append]
  have hin := hiff.mpr ⟨"user cs317", by rw [hrequests]; exact List.mem_singleton_self _, hadmits⟩
  have hout : begun.session.loggedIn = false := by
    rw [show begun.session = .start (.ofString "/r") from (greet_keeps _ _).1]
    rfl
  exact ⟨(hshut hout).1, hin, hstays hin 1⟩

end Conversation

end PassiveFtp
