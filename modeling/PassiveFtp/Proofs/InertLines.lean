import Mathlib
import PassiveFtp.Proofs.ControlLines
import PassiveFtp.Proofs.PassiveLifecycle
import PassiveFtp.Proofs.Places

/-!
# Lines that might as well not have been sent

A line that is turned down is answered, and that is all that comes of it. Nor
does anything come of a negotiated type, except that the session remembers it and
never asks. So such lines can be taken out of a stream, any number of them, and
no other line is answered differently.

Two facts carry this. What a request does to a session shows in its codes: one
that changes more than the type, or ends the conversation, is answered with codes
that no refusal of its verb has (`Verb.Marks`). And sessions that differ in the type alone
answer every request alike (`dispatch_sameButType`). The two conversations then
go in step, the one waiting while the other is told of a line that is not there
(`answerAll_erased`).

What happens outside while a line is dispatched goes with the line, not with its
number, since the numbers shift when lines are taken out.
-/

namespace PassiveFtp

/-- Two moments that are the same for a request: the tree, and what becomes of
the listeners it opens or waits at and of the file it asks for, if it does. -/
structure Conditions.AlikeFor (verb : Verb) (conditions other : Conditions) : Prop where
  tree : conditions.tree = other.tree
  lister : conditions.lister = other.lister
  listening : verb = .pasv →
    conditions.interface = other.interface ∧ conditions.attempts = other.attempts
  arrival : verb = .retr ∨ verb = .nlst → conditions.arrival = other.arrival
  fault : verb = .retr → conditions.fault = other.fault

/-- A line of a stream, with what happens outside while it is dispatched, and
whether it stays when others are taken out. -/
structure StreamLine where
  /-- the bytes before the line feed -/
  body : List UInt8
  single : lineFeed ∉ body
  conditions : Conditions
  stays : Bool := true

namespace StreamLine

def bytes (line : StreamLine) : List UInt8 :=
  line.body ++ [lineFeed]

def request (line : StreamLine) : Request :=
  .parse (Conversation.lineOf line.bytes)

def IsOverlong (settings : Settings) (line : StreamLine) : Prop :=
  settings.maxCommandLength < line.bytes.length

instance (settings : Settings) (line : StreamLine) : Decidable (line.IsOverlong settings) :=
  inferInstanceAs (Decidable (_ < _))

def frame (settings : Settings) (line : StreamLine) : Frame :=
  Framing.ofLine settings.maxCommandLength line.bytes

/-- What a line comes to in a session. -/
def outcome (settings : Settings) (session : Session) (line : StreamLine) : Outcome :=
  if line.IsOverlong settings then .saying session Conversation.tooLong
  else dispatch settings line.conditions session line.request

end StreamLine

/-- A line that has been heard, and what it came to. -/
structure HeardLine where
  line : StreamLine
  outcome : Outcome

/-- The exchanges that some lines make, up to one that ends them. -/
def Session.heard (settings : Settings) : Session → List StreamLine → List HeardLine
  | _, [] => []
  | session, line :: rest =>
    let outcome := line.outcome settings session
    { line, outcome } ::
      match outcome.afterwards with
      | .readOn => outcome.session.heard settings rest
      | .close | .breakOff => []

/-- A line that was turned down, or negotiated a parameter. -/
inductive HeardLine.IsInert (settings : Settings) (e : HeardLine) : Prop
  | overlong : e.line.IsOverlong settings → IsInert settings e
  | unknown {word : String} : e.line.request.verb = .unknown word → IsInert settings e
  | rejected : 501 ∈ e.outcome.codes ∨ 530 ∈ e.outcome.codes → IsInert settings e
  | userAgain : e.line.request.verb = .user → 220 ∈ e.outcome.codes → IsInert settings e
  | cwdRefused : e.line.request.verb = .cwd → 550 ∈ e.outcome.codes → IsInert settings e
  | cdupRefused : e.line.request.verb = .cdup → 550 ∈ e.outcome.codes ∨ 500 ∈ e.outcome.codes →
      IsInert settings e
  | negotiation : e.line.request.verb ∈ [.type, .mode, .stru] → IsInert settings e

/-- Sessions that agree but for the type. -/
structure Session.SameButType (s t : Session) : Prop where
  root : s.root = t.root
  cwd : s.cwd = t.cwd
  loggedIn : s.loggedIn = t.loggedIn
  passive : s.passive = t.passive

/-- Outcomes that agree but for the type that the session remembers. -/
structure Outcome.SameButType (o p : Outcome) : Prop where
  session : o.session.SameButType p.session
  effects : o.effects = p.effects
  afterwards : o.afterwards = p.afterwards

/-- Exchanges over the same line that agree but for the type. -/
structure HeardLine.SameButType (e f : HeardLine) : Prop where
  line : e.line = f.line
  outcome : e.outcome.SameButType f.outcome

/-- A stream of some lines, however it is read. -/
structure Incoming.Delivers (incoming : Incoming) (lines : List StreamLine) : Prop where
  reads : [] ∉ incoming.reads
  bytes : incoming.reads.flatten = lines.flatMap StreamLine.bytes

/-- The outside as lines find it, the first that is dispatched being number `n`. -/
inductive Awaits (settings : Settings) (world : Nat → Conditions) : Nat → List StreamLine → Prop
  | nil {n : Nat} : Awaits settings world n []
  | overlong {n : Nat} {line : StreamLine} {rest : List StreamLine} :
      line.IsOverlong settings → Awaits settings world n rest →
      Awaits settings world n (line :: rest)
  | dispatched {n : Nat} {line : StreamLine} {rest : List StreamLine} :
      ¬ line.IsOverlong settings → (world n).AlikeFor line.request.verb line.conditions →
      Awaits settings world (n + 1) rest → Awaits settings world n (line :: rest)

/-! ## Only the type is not asked for -/

theorem dispatch_eq_of_alikeFor {settings : Settings} {session : Session} {request : Request}
    {conditions other : Conditions} (h : conditions.AlikeFor request.verb other) :
    dispatch settings conditions session request = dispatch settings other session request := by
  obtain ⟨htree, hlister, hlistening, harrival, hfault⟩ := h
  have hhandle : Dispatch.handle settings conditions session request =
      Dispatch.handle settings other session request := by
    rw [Dispatch.handle, Dispatch.handle]
    cases hverb : request.verb with
    | user | quit | type | mode | stru => rfl
    | unknown word => rfl
    | cwd =>
        have hcwd : Dispatch.cwd conditions session = Dispatch.cwd other session := by
          funext target
          rw [Dispatch.cwd, Dispatch.cwd, htree]
        simp only [hcwd]
    | cdup => simp only [Dispatch.cdup, htree]
    | pasv =>
        obtain ⟨hinterface, hattempts⟩ := hlistening hverb
        simp only [Dispatch.pasv, Dispatch.allocation, hinterface, hattempts]
    | retr =>
        have hretr : Dispatch.retr settings conditions session =
            Dispatch.retr settings other session := by
          funext target
          simp only [Dispatch.retr, Dispatch.transfer, Dispatch.connection, Dispatch.fetch, htree,
            harrival (.inl hverb), hfault hverb]
        simp only [hretr]
    | nlst =>
        simp only [Dispatch.nlst, Dispatch.transfer, Dispatch.connection, Dispatch.list, htree,
          hlister, harrival (.inr hverb)]
  rw [dispatch, dispatch, hhandle]

theorem Session.SameButType.refl (s : Session) : s.SameButType s :=
  ⟨rfl, rfl, rfl, rfl⟩

theorem Session.SameButType.trans {s t u : Session} (h : s.SameButType t) (h' : t.SameButType u) :
    s.SameButType u :=
  ⟨h.root.trans h'.root, h.cwd.trans h'.cwd, h.loggedIn.trans h'.loggedIn,
    h.passive.trans h'.passive⟩

section
variable {s t : Session} (h : s.SameButType t)
include h

theorem Outcome.sameButType_saying (reply : Reply) :
    (saying s reply).SameButType (saying t reply) :=
  ⟨h, rfl, rfl⟩

namespace Dispatch

variable (settings : Settings) (conditions : Conditions) (request : Request)

theorem user_sameButType : (user settings s request).SameButType (user settings t request) := by
  simp only [user, ← h.loggedIn]
  split
  · exact Outcome.sameButType_saying h _
  · split
    · split
      · exact ⟨⟨h.root, h.cwd, rfl, h.passive⟩, rfl, rfl⟩
      · exact Outcome.sameButType_saying h _
    · exact Outcome.sameButType_saying h _

theorem cwd_sameButType (target : String) :
    (cwd conditions s target).SameButType (cwd conditions t target) := by
  simp only [cwd, ← h.root, ← h.cwd]
  split
  · exact ⟨⟨rfl, rfl, h.loggedIn, h.passive⟩, rfl, rfl⟩
  · exact Outcome.sameButType_saying h _

theorem cdup_sameButType : (cdup conditions s).SameButType (cdup conditions t) := by
  simp only [cdup, ← h.root, ← h.cwd]
  split
  · exact ⟨⟨rfl, rfl, h.loggedIn, h.passive⟩, rfl, rfl⟩
  · exact Outcome.sameButType_saying h _

theorem type_sameButType (code : String) : (type s code).SameButType (type t code) := by
  simp only [type]
  split
  · exact ⟨⟨h.root, h.cwd, h.loggedIn, h.passive⟩, rfl, rfl⟩
  · exact Outcome.sameButType_saying h _

theorem pasv_sameButType :
    (pasv settings conditions s).SameButType (pasv settings conditions t) := by
  simp only [pasv, ← h.passive]
  split
  · exact ⟨⟨h.root, h.cwd, h.loggedIn, rfl⟩, rfl, rfl⟩
  · exact ⟨⟨h.root, h.cwd, h.loggedIn, rfl⟩, rfl, rfl⟩

theorem transfer_sameButType (carryOut : Sink → Reply × Sink) :
    (transfer settings conditions s carryOut).SameButType
      (transfer settings conditions t carryOut) := by
  simp only [transfer, connection, ← h.passive]
  split
  · exact ⟨⟨h.root, h.cwd, h.loggedIn, rfl⟩, rfl, rfl⟩
  · exact ⟨⟨h.root, h.cwd, h.loggedIn, rfl⟩, rfl, rfl⟩

theorem retr_sameButType (target : String) :
    (retr settings conditions s target).SameButType (retr settings conditions t target) := by
  have hfetch : fetch settings conditions s target = fetch settings conditions t target := by
    funext sink
    simp only [fetch, h.root, h.cwd]
  rw [retr, retr, ← hfetch]
  exact transfer_sameButType h settings conditions _

theorem nlst_sameButType :
    (nlst settings conditions s).SameButType (nlst settings conditions t) := by
  have hlist : list conditions s = list conditions t := by
    funext sink
    simp only [list, h.cwd]
  rw [nlst, nlst, ← hlist]
  exact transfer_sameButType h settings conditions _

theorem withArgument_sameButType {act act' : String → Outcome}
    (hact : ∀ argument, (act argument).SameButType (act' argument)) :
    (withArgument s request act).SameButType (withArgument t request act') := by
  simp only [withArgument]
  split
  · exact hact _
  · exact Outcome.sameButType_saying h _

theorem handle_sameButType :
    (handle settings conditions s request).SameButType (handle settings conditions t request) := by
  rw [handle, handle]
  cases request.verb with
  | user => exact user_sameButType h settings request
  | quit => exact ⟨h, rfl, rfl⟩
  | cwd =>
      exact withArgument_sameButType h request fun target => cwd_sameButType h conditions target
  | cdup => exact cdup_sameButType h conditions
  | type => exact withArgument_sameButType h request fun code => type_sameButType h code
  | mode | stru => exact withArgument_sameButType h request fun _ => Outcome.sameButType_saying h _
  | pasv => exact pasv_sameButType h settings conditions
  | retr =>
      exact withArgument_sameButType h request fun target =>
        retr_sameButType h settings conditions target
  | nlst => exact nlst_sameButType h settings conditions
  | unknown word => exact Outcome.sameButType_saying h _

end Dispatch

/-- Nothing that is done or said depends on the type. -/
theorem dispatch_sameButType (settings : Settings) (conditions : Conditions) (request : Request) :
    (dispatch settings conditions s request).SameButType
      (dispatch settings conditions t request) := by
  have hrefusal : Dispatch.refusal? s request = Dispatch.refusal? t request := by
    simp only [Dispatch.refusal?, h.loggedIn]
  rw [dispatch, dispatch, ← hrefusal]
  cases Dispatch.refusal? s request with
  | some refusal => exact Outcome.sameButType_saying h refusal
  | none => exact Dispatch.handle_sameButType h settings conditions request

theorem StreamLine.outcome_sameButType (settings : Settings) (line : StreamLine) :
    (line.outcome settings s).SameButType (line.outcome settings t) := by
  simp only [outcome]
  split
  · exact Outcome.sameButType_saying h _
  · exact dispatch_sameButType h settings line.conditions line.request

end

/-! ## What changes a session shows -/

/-- The codes of the requests that do more to a session than set its type. -/
inductive Verb.Marks : Verb → List Nat → Prop
  | login : Marks .user [230]
  | quit : Marks .quit [221]
  | entered : Marks .cwd [250]
  | climbed : Marks .cdup [200]
  | passive {code : Nat} : code ∈ [227, 500] → Marks .pasv [code]
  | unconnected {verb : Verb} : verb = .retr ∨ verb = .nlst → Marks verb [425]
  | transferred {verb : Verb} {code : Nat} : verb = .retr ∨ verb = .nlst →
      code ∈ [226, 426, 450, 451] → Marks verb [150, code]

theorem Request.WantsData.verb {request : Request} (h : request.WantsData) :
    request.verb = .retr ∨ request.verb = .nlst := by
  obtain hnlst | ⟨hretr, -⟩ := h
  · exact .inr hnlst
  · exact .inl hretr

theorem codes_transfer (next : Session) (channel : PassiveChannel) (sent : List UInt8)
    {last : Reply} {code : Nat} (h : last.status? = some code) :
    Outcome.codes
      { session := next
        effects := [.listenerClosed channel, .reply (.plain .aboutToOpenDataConnection),
          .sent sent, .dataClosed, .reply last] } = [150, code] := by
  rw [Outcome.codes, Outcome.replies_transfer]
  simp only [List.filterMap_cons, Reply.status?_plain, h, List.filterMap_nil, ReplyCode.number]

section
variable {settings : Settings} {conditions : Conditions} {session : Session} {request : Request}
  {outcome : Outcome}

theorem Handled.keeps_or_marks (h : Handled settings conditions session request outcome) :
    (outcome.session.SameButType session ∧ outcome.afterwards = .readOn) ∨
      request.verb.Marks outcome.codes := by
  cases h with
  | answered => exact .inl ⟨.refl session, rfl⟩
  | typed => exact .inl ⟨⟨rfl, rfl, rfl, rfl⟩, rfl⟩
  | admitted hverb => exact .inr (hverb ▸ .login)
  | quit _ hverb => exact .inr (hverb ▸ .quit)
  | entered _ hverb => exact .inr (hverb ▸ .entered)
  | climbed _ hverb => exact .inr (hverb ▸ .climbed)
  | @listening channel _ hverb =>
      rw [codes_closing_append, hverb]
      simp only [Outcome.codes, Outcome.replies, List.filterMap_cons, Effect.reply?,
        channel.status?_reply, List.filterMap_nil]
      exact .inr (.passive (by decide))
  | unallocated _ hverb =>
      rw [codes_closing_append, hverb]
      exact .inr (.passive (by decide))
  | unconnected _ hwants =>
      rw [codes_closing_append]
      exact .inr (.unconnected hwants.verb)
  | @fetched target _ sink _ hverb =>
      obtain ⟨code, hreply, hcode⟩ :=
        Dispatch.status?_fetch settings conditions session target sink
      have hsome : [226, 426] ⊆ [226, 426, 450, 451] := by decide
      rw [codes_transfer _ _ _ hreply]
      exact .inr (.transferred (.inl hverb) (hsome hcode))
  | @listed _ sink _ hverb =>
      obtain ⟨code, hreply, hcode⟩ :
          ∃ code, (Dispatch.list conditions session sink).1.status? = some code ∧
            code ∈ [226, 451, 450] :=
        ListOutcome.status?_reply _
      have hsome : [226, 451, 450] ⊆ [226, 426, 450, 451] := by decide
      rw [codes_transfer _ _ _ hreply]
      exact .inr (.transferred (.inr hverb) (hsome hcode))

end

section
variable {settings : Settings} {session : Session} {line : StreamLine}

theorem Verb.Marks.not_inert {verb : Verb} {codes : List Nat} (h : verb.Marks codes) :
    (∀ word, verb ≠ .unknown word) ∧ 501 ∉ codes ∧ 530 ∉ codes ∧ (verb = .user → 220 ∉ codes) ∧
      (verb = .cwd → 550 ∉ codes) ∧ (verb = .cdup → 550 ∉ codes ∧ 500 ∉ codes) ∧
      verb ∉ [.type, .mode, .stru] := by
  cases h with
  | login | quit | entered | climbed => simp
  | passive hcode =>
      simp only [List.mem_cons, List.not_mem_nil, or_false] at hcode
      rcases hcode with rfl | rfl <;> simp
  | unconnected hverb => rcases hverb with rfl | rfl <;> simp
  | transferred hverb hcode =>
      simp only [List.mem_cons, List.not_mem_nil, or_false] at hcode
      rcases hverb with rfl | rfl <;> rcases hcode with rfl | rfl | rfl | rfl <;> simp

/-- After an inert line everything is as before, save for the type. -/
theorem StreamLine.outcome_of_isInert
    (h : HeardLine.IsInert settings { line, outcome := line.outcome settings session }) :
    (line.outcome settings session).session.SameButType session ∧
      (line.outcome settings session).afterwards = .readOn := by
  by_cases hlong : line.IsOverlong settings
  · rw [outcome, if_pos hlong]
    exact ⟨.refl session, rfl⟩
  · have hdispatched : line.outcome settings session =
        dispatch settings line.conditions session line.request := if_neg hlong
    have hkeeps := (dispatch_handled settings line.conditions session line.request).keeps_or_marks
    rw [← hdispatched] at hkeeps
    refine hkeeps.resolve_right fun hmarks => ?_
    obtain ⟨hknown, h501, h530, huser, hcwd, hcdup, hnegotiation⟩ := hmarks.not_inert
    cases h with
    | overlong h => exact hlong h
    | unknown hverb => exact hknown _ hverb
    | rejected h => exact h.elim h501 h530
    | userAgain hverb h => exact huser hverb h
    | cwdRefused hverb h => exact hcwd hverb h
    | cdupRefused hverb h => exact h.elim (hcdup hverb).1 (hcdup hverb).2
    | negotiation hverb => exact hnegotiation hverb

end

/-! ## Conversations in step -/

section
variable {settings : Settings} {session : Session} {line : StreamLine}

theorem Session.heard_cons_of_readOn (h : (line.outcome settings session).afterwards = .readOn)
    (rest : List StreamLine) :
    session.heard settings (line :: rest) =
      { line, outcome := line.outcome settings session } ::
        (line.outcome settings session).session.heard settings rest := by
  rw [heard]
  simp only [h]

theorem Session.heard_cons_of_over (h : (line.outcome settings session).afterwards ≠ .readOn)
    (rest : List StreamLine) :
    session.heard settings (line :: rest) =
      [{ line, outcome := line.outcome settings session }] := by
  rw [heard]
  cases hafter : (line.outcome settings session).afterwards with
  | readOn => exact absurd hafter h
  | close | breakOff => rfl

end

namespace Conversation

open Framing

section
variable {settings : Settings} (client : SocketAddress) {world world' : Nat → Conditions}

theorem answer_streamLine {c : Conversation} (hopen : c.afterwards = .readOn) {line : StreamLine}
    {rest : List StreamLine} (h : Awaits settings world c.dispatched (line :: rest)) :
    let outcome := line.outcome settings c.session
    let next := c.answer settings client world (line.frame settings)
    next.session = outcome.session ∧ next.trace = c.trace ++ outcome.effects.toArray ∧
      next.afterwards = outcome.afterwards ∧ Awaits settings world next.dispatched rest := by
  intro outcome next
  cases h with
  | overlong hlong hrest =>
      have houtcome : outcome = .saying c.session tooLong := if_pos hlong
      have hframe : line.frame settings =
          .overlong (line.bytes.take (settings.maxCommandLength + 1)) := if_pos hlong
      obtain ⟨hsession, htrace, hdispatched, hafter, -⟩ :=
        answer_overlong settings client world c (line.bytes.take (settings.maxCommandLength + 1))
      rw [← hframe] at hsession htrace hdispatched hafter
      rw [houtcome]
      refine ⟨hsession, ?_, hafter.trans hopen, ?_⟩
      · rw [htrace]
        simp [Outcome.saying]
      · rw [hdispatched]
        exact hrest
  | dispatched hshort hworld hrest =>
      have houtcome : outcome = dispatch settings (world c.dispatched) c.session line.request :=
        (if_neg hshort).trans (dispatch_eq_of_alikeFor hworld).symm
      have hframe : line.frame settings = .line line.bytes := if_neg hshort
      obtain ⟨hsession, htrace, hdispatched, hafter, -⟩ :=
        answer_line settings client world c line.bytes
      rw [← hframe] at hsession htrace hdispatched hafter
      rw [houtcome]
      refine ⟨hsession, htrace, hafter, ?_⟩
      rw [hdispatched]
      exact hrest

/-- What is done over a row of lines is what their exchanges do. -/
theorem trace_answerAll {c : Conversation} (hopen : c.afterwards = .readOn)
    {lines : List StreamLine} (h : Awaits settings world c.dispatched lines) :
    (c.answerAll settings client world (lines.map (·.frame settings))).trace =
      c.trace ++ ((c.session.heard settings lines).flatMap (·.outcome.effects)).toArray := by
  induction lines generalizing c with
  | nil => simp [answerAll_nil, Session.heard]
  | cons line rest ih =>
      obtain ⟨hsession, htrace, hafter, hrest⟩ := answer_streamLine client hopen h
      rw [List.map_cons]
      by_cases hgoes : (line.outcome settings c.session).afterwards = .readOn
      · rw [answerAll_cons_of_readOn settings client world (hafter.trans hgoes),
          ih (hafter.trans hgoes) hrest, htrace, hsession, Session.heard_cons_of_readOn hgoes]
        simp
      · rw [answerAll_cons_of_over settings client world (hafter ▸ hgoes), htrace,
          Session.heard_cons_of_over hgoes]
        simp

/-- Two conversations that agree but for the type still do so when the one has
answered a row of lines and the other those of them that stay. -/
theorem answerAll_erased {c d : Conversation} (hsame : c.session.SameButType d.session)
    (hopen : c.afterwards = .readOn) (hopen' : d.afterwards = .readOn) {lines : List StreamLine}
    (h : Awaits settings world c.dispatched lines)
    (h' : Awaits settings world' d.dispatched (lines.filter (·.stays)))
    (hinert : ∀ e ∈ c.session.heard settings lines, e.line.stays = false → e.IsInert settings) :
    let told := c.answerAll settings client world (lines.map (·.frame settings))
    let kept := d.answerAll settings client world' ((lines.filter (·.stays)).map (·.frame settings))
    List.Forall₂ HeardLine.SameButType
        ((c.session.heard settings lines).filter (·.line.stays))
        (d.session.heard settings (lines.filter (·.stays))) ∧
      told.session.SameButType kept.session ∧ told.afterwards = kept.afterwards := by
  -- the sessions agree but for the type before each line; a line that stays moves both
  induction lines generalizing c d with
  | nil => exact ⟨.nil, hsame, hopen.trans hopen'.symm⟩
  | cons line rest ih =>
      obtain ⟨hsession, -, hafter, hrest⟩ := answer_streamLine client hopen h
      cases hstays : line.stays with
      | false =>
          -- the one is told of a line that comes to nothing, and the other waits
          obtain ⟨hleft, hreadOn⟩ :=
            StreamLine.outcome_of_isInert (hinert _ List.mem_cons_self hstays)
          rw [List.filter_cons_of_neg (by simp [hstays])] at h'
          rw [Session.heard_cons_of_readOn hreadOn, ← hsession] at hinert
          simp only [List.map_cons, List.filter_cons, hstays, Bool.false_eq_true, if_false,
            answerAll_cons_of_readOn settings client world (hafter.trans hreadOn),
            Session.heard_cons_of_readOn hreadOn, ← hsession]
          refine ih ?_ (hafter.trans hreadOn) hopen' hrest h' ?_
          · rw [hsession]
            exact hleft.trans hsame
          · intro e he
            exact hinert e (List.mem_cons_of_mem _ he)
      | true =>
          have hline := line.outcome_sameButType hsame settings
          rw [List.filter_cons_of_pos hstays] at h'
          obtain ⟨hsession', -, hafter', hrest'⟩ := answer_streamLine client hopen' h'
          by_cases hgoes : (line.outcome settings c.session).afterwards = .readOn
          · have hgoes' := hline.afterwards.symm.trans hgoes
            have hnext :
                (c.answer settings client world (line.frame settings)).session.SameButType
                  (d.answer settings client world' (line.frame settings)).session := by
              rw [hsession, hsession']
              exact hline.session
            rw [Session.heard_cons_of_readOn hgoes, ← hsession] at hinert
            obtain ⟨hheard, hend⟩ := ih hnext (hafter.trans hgoes) (hafter'.trans hgoes')
              hrest hrest' fun e he => hinert e (List.mem_cons_of_mem _ he)
            simp only [List.map_cons, List.filter_cons, hstays, if_true,
              answerAll_cons_of_readOn settings client world (hafter.trans hgoes),
              answerAll_cons_of_readOn settings client world' (hafter'.trans hgoes'),
              Session.heard_cons_of_readOn hgoes, Session.heard_cons_of_readOn hgoes',
              ← hsession, ← hsession']
            exact ⟨.cons ⟨rfl, hline⟩ hheard, hend⟩
          · have hgoes' := hline.afterwards ▸ hgoes
            simp only [List.map_cons, List.filter_cons, hstays, if_true, List.filter_nil,
              answerAll_cons_of_over settings client world (hafter ▸ hgoes),
              answerAll_cons_of_over settings client world' (hafter' ▸ hgoes'),
              Session.heard_cons_of_over hgoes, Session.heard_cons_of_over hgoes', hsession,
              hsession', hafter, hafter']
            exact ⟨.cons ⟨rfl, hline⟩ .nil, hline.session, hline.afterwards⟩

theorem dispatched_greet (session : Session) (writer : Sink) :
    (greet session writer).dispatched = 0 :=
  (perform_keeps _ _).2.2.1

/-- A stream of lines is answered line by line, and a failure after them is not
noticed. -/
theorem run_of_delivers {incoming : Incoming} {lines : List StreamLine}
    (h : incoming.Delivers lines) (session : Session) (writer : Sink) :
    run settings client world session writer incoming =
      (greet session writer).answerAll settings client world (lines.map (·.frame settings)) := by
  have hbodies : ∀ body ∈ lines.map StreamLine.body, lineFeed ∉ body := by
    intro body hbody
    obtain ⟨line, -, rfl⟩ := List.mem_map.mp hbody
    exact line.single
  have hframes := filterMap_pieces_ended hbodies incoming.failure.isSome settings.maxCommandLength
  rw [List.flatMap_map, List.map_map] at hframes
  rw [run, frames_eq_pieces h.reads, h.bytes]
  exact congrArg _ hframes

end

end Conversation

/-- Take from a stream of whole lines any that are inert when they are heard, and
however the rest is read, every line that is left comes to the same: the same
replies, and the same bytes on its data connection. So does the conversation as a
whole, save that its session may remember another type.

Lines that stay must find the same outside as before, as far as they ask. -/
theorem inert_lines_erased {settings : Settings} {session : Session} {lines : List StreamLine}
    (hinert : ∀ e ∈ session.heard settings lines, e.line.stays = false → e.IsInert settings)
    {incoming incoming' : Incoming} (hwhole : incoming.Delivers lines)
    (hrest : incoming'.Delivers (lines.filter (·.stays))) {world world' : Nat → Conditions}
    (hworld : Awaits settings world 0 lines)
    (hworld' : Awaits settings world' 0 (lines.filter (·.stays))) (client : SocketAddress)
    (writer writer' : Sink) :
    let told := session.heard settings lines
    let kept := session.heard settings (lines.filter (·.stays))
    let c := Conversation.run settings client world session writer incoming
    let d := Conversation.run settings client world' session writer' incoming'
    c.trace.toList = .reply (.plain .serviceReady) :: told.flatMap (·.outcome.effects) ∧
      d.trace.toList = .reply (.plain .serviceReady) :: kept.flatMap (·.outcome.effects) ∧
      List.Forall₂ HeardLine.SameButType (told.filter (·.line.stays)) kept ∧
      c.session.SameButType d.session ∧ c.afterwards = d.afterwards := by
  intro told kept c d
  have hc : c = _ := Conversation.run_of_delivers client hwhole session writer
  have hd : d = _ := Conversation.run_of_delivers client hrest session writer'
  obtain ⟨hsession, htrace, hopen, -⟩ := Conversation.greet_keeps session writer
  obtain ⟨hsession', htrace', hopen', -⟩ := Conversation.greet_keeps session writer'
  rw [← Conversation.dispatched_greet session writer] at hworld
  rw [← Conversation.dispatched_greet session writer'] at hworld'
  refine ⟨?_, ?_, ?_⟩
  · rw [hc, Conversation.trace_answerAll client hopen hworld, htrace, hsession]
    simp [told]
  · rw [hd, Conversation.trace_answerAll client hopen' hworld', htrace', hsession']
    simp [kept]
  · have hsame : (Conversation.greet session writer).session.SameButType
        (Conversation.greet session writer').session := by
      rw [hsession, hsession']
      exact .refl session
    have hstep := Conversation.answerAll_erased client hsame hopen hopen' hworld hworld'
      (by rwa [hsession])
    rw [hsession, hsession'] at hstep
    rw [hc, hd]
    exact hstep

/-- A line that is dispatched over a directory `/r` with a file `f`, when a listener
opens and a client comes to it. -/
def idleLine (line : String) (single : lineFeed ∉ Utf8.ofString line) (stays : Bool) :
    StreamLine where
  body := Utf8.ofString line
  single := single
  conditions :=
    { tree := ⟨[(.letter 'r', .dir [(.letter 'f', .file [7])])]⟩
      interface := some ⟨127, 0, 0, 1⟩
      attempts := fun _ => ⟨2000, .opened⟩
      arrival := .connected {} }
  stays := stays

/-- A login and a transfer, and two lines in between that may go: one asks for a
directory that is not there, the other for a type. -/
def idleLines : List StreamLine :=
  [idleLine "USER cs317" (by decide) true, idleLine "CWD d" (by decide) false,
    idleLine "PASV" (by decide) true, idleLine "TYPE A" (by decide) false,
    idleLine "RETR f" (by decide) true]

/-- Without the two lines the others are answered as before, and the same file is
sent. -/
theorem inert_lines_erased_idle :
    let session : Session := .start (.ofString "/r")
    let client : SocketAddress := .v4 ⟨127, 0, 0, 1⟩ 5000
    let world : Nat → Conditions := fun _ => (idleLine "" (by decide) true).conditions
    let run := Conversation.run {} client world session {}
    let c := run { reads := [idleLines.flatMap StreamLine.bytes] }
    let d := run { reads := [Utf8.ofString "USER cs317\nPASV\nRETR f\n"] }
    let channel : PassiveChannel := ⟨⟨127, 0, 0, 1⟩, 2000⟩
    let opening : List Effect := [.listening channel, .reply channel.reply]
    let transfer : List Effect :=
      [.listenerClosed channel, .reply (.plain .aboutToOpenDataConnection), .sent [7], .dataClosed,
        .reply (.plain .closingDataConnection)]
    c.trace.toList =
        [.reply (.plain .serviceReady), .reply (.plain .loggedIn),
          .reply (.plain .fileUnavailable)] ++ opening ++ .reply (.plain .commandOk) :: transfer ∧
      d.trace.toList =
        [.reply (.plain .serviceReady), .reply (.plain .loggedIn)] ++ opening ++ transfer ∧
      c.session.SameButType d.session ∧ c.afterwards = d.afterwards := by
  intro session client world run c d channel opening transfer
  let admitted : Session := { session with loggedIn := true }
  let waiting : Session := { admitted with passive := some channel }
  have huser : (idleLine "USER cs317" (by decide) true).outcome {} session =
      .saying admitted (.plain .loggedIn) := by cbv
  have hcwd : (idleLine "CWD d" (by decide) false).outcome {} admitted =
      .saying admitted (.plain .fileUnavailable) := by cbv
  have hpasv : (idleLine "PASV" (by decide) true).outcome {} admitted =
      { session := waiting, effects := opening } := by
    have hrequest : (idleLine "PASV" (by decide) true).request = ⟨.pasv, none, 0⟩ := by cbv
    rw [StreamLine.outcome, if_neg (by decide), hrequest, dispatch_of_passed ⟨rfl, rfl⟩]
    rfl
  have htype : (idleLine "TYPE A" (by decide) false).outcome {} waiting =
      .saying { waiting with representation := .ascii } (.plain .commandOk) := by cbv
  have hascii : (idleLine "RETR f" (by decide) true).outcome {}
      { waiting with representation := .ascii } =
      { session := { admitted with representation := .ascii }, effects := transfer } := by cbv
  have hretr : (idleLine "RETR f" (by decide) true).outcome {} waiting =
      { session := admitted, effects := transfer } := by cbv
  have hkept : idleLines.filter (·.stays) = [idleLine "USER cs317" (by decide) true,
      idleLine "PASV" (by decide) true, idleLine "RETR f" (by decide) true] := rfl
  have hinert : ∀ e ∈ session.heard {} idleLines, e.line.stays = false → e.IsInert {} := by
    simp only [idleLines, Session.heard, huser, hcwd, hpasv, htype, hascii, Outcome.saying]
    intro e he hgone
    rcases List.mem_cons.mp he with rfl | he
    · cases hgone
    rcases List.mem_cons.mp he with rfl | he
    · exact .cwdRefused (by cbv) (by decide)
    rcases List.mem_cons.mp he with rfl | he
    · cases hgone
    rcases List.mem_cons.mp he with rfl | he
    · have hverb : (idleLine "TYPE A" (by decide) false).request.verb = .type := by cbv
      exact .negotiation (by simp [hverb])
    · rw [List.mem_singleton.mp he] at hgone
      cases hgone
  have halike : ∀ n verb, (world n).AlikeFor verb (world 0) :=
    fun _ _ => ⟨rfl, rfl, fun _ => ⟨rfl, rfl⟩, fun _ => rfl, fun _ => rfl⟩
  have hawaits : ∀ {n text single stays rest}, Awaits {} world (n + 1) rest →
      ¬ (idleLine text single stays).IsOverlong {} →
      Awaits {} world n (idleLine text single stays :: rest) := by
    intro n text single stays rest hrest hshort
    exact .dispatched hshort (halike n _) hrest
  have hworld : Awaits {} world 0 idleLines :=
    hawaits (hawaits (hawaits (hawaits (hawaits .nil (by decide)) (by decide)) (by decide))
      (by decide)) (by decide)
  have hworld' : Awaits {} world 0 (idleLines.filter (·.stays)) := by
    rw [hkept]
    exact hawaits (hawaits (hawaits .nil (by decide)) (by decide)) (by decide)
  have hwhole : Incoming.Delivers { reads := [idleLines.flatMap StreamLine.bytes] } idleLines :=
    ⟨by decide, by decide⟩
  have hrest : Incoming.Delivers { reads := [Utf8.ofString "USER cs317\nPASV\nRETR f\n"] }
      (idleLines.filter (·.stays)) := ⟨by decide, by decide⟩
  obtain ⟨htold, htrace, -, hsame⟩ :=
    inert_lines_erased hinert hwhole hrest hworld hworld' client {} {}
  refine ⟨htold.trans ?_, htrace.trans ?_, hsame⟩
  · simp [idleLines, Session.heard, huser, hcwd, hpasv, htype, hascii, Outcome.saying]
  · simp [hkept, Session.heard, huser, hpasv, hretr, Outcome.saying]

end PassiveFtp
