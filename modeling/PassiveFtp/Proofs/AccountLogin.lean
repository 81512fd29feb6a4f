import Mathlib
import PassiveFtp.Proofs.ControlLines
import PassiveFtp.Proofs.FailingWriter

/-!
# Whether the account can log in at all

The check of the settings and the login have each their own idea of a name. The
check wants more than white space in it. The login gets the name as the one argument
of a line, so a space ends it, and the line may be no longer than the settings let
lines be. Settings that pass the check may therefore have an account that nobody can
log in to, and which ones do is told by the name and the limit alone.
-/

namespace PassiveFtp

/-- The line that logs the account in, if any does. -/
def Settings.loginLine (settings : Settings) : String :=
  "USER " ++ settings.username

/-- A name that is one line, and that a login could take for a name. -/
def Login.IsPlain (name : String) : Prop :=
  ∀ c ∈ name.toList, Request.endsLine c = false ∧ c.toNat ≠ 0

/-- The default settings with another account and another limit. -/
def Settings.ofAccount (username : String) (limit : Nat) : Settings :=
  { username, maxCommandLength := limit }

theorem Settings.valid_ofAccount {username : String} {limit : Nat}
    (hname : Text.allBlank username = false) (hlimit : limit ≠ 0) :
    (ofAccount username limit).Valid := by
  obtain ⟨hbind, hpasv, hroot, -, hbuffer, htimeout, hattempts, -⟩ :=
    valid_iff.mp valid_default
  exact valid_iff.mpr ⟨hbind, hpasv, hroot, hname, hbuffer, htimeout, hattempts, hlimit⟩

section
variable {settings : Settings} {conditions : Conditions} {root : Path}

theorem Settings.toList_loginLine (settings : Settings) :
    settings.loginLine.toList = ['U', 'S', 'E', 'R'] ++ ' ' :: settings.username.toList := by
  rw [loginLine, String.toList_append]
  rfl

theorem Settings.endsLine_loginLine (h : Login.IsPlain settings.username) :
    ∀ c ∈ settings.loginLine.toList, Request.endsLine c = false := by
  have hverb : ∀ c ∈ ['U', 'S', 'E', 'R'], Request.endsLine c = false := by
    simp [Request.endsLine]
  intro c hc
  rw [toList_loginLine] at hc
  rcases List.mem_append.mp hc with hfirst | hrest
  · exact hverb c hfirst
  · rcases List.mem_cons.mp hrest with hspace | hname
    · rw [hspace]
      decide
    · exact (h c hname).1

/-! ## The request -/

theorem Login.check_username (hvalid : settings.Valid) (h : IsPlain settings.username) :
    check settings settings.username = .ok () := by
  have hblank := (Settings.valid_iff.mp hvalid).2.2.2.1
  refine check_eq_ok.mpr ⟨?_, rfl⟩
  rw [← String.ofList_toList (s := settings.username)] at hblank ⊢
  exact (isWellFormed_ofList fun c hc => (h c hc).1).mpr ⟨hblank, fun c hc => (h c hc).2⟩

/-- The verb is one word and the name is all that follows. -/
theorem parse_loginLine (settings : Settings) :
    Request.parse settings.loginLine =
      ⟨.user, (Request.words settings.username.toList).head?.map String.ofList,
        settings.username.toList.count ' ' + 1⟩ := by
  have hverb : Request.words ['U', 'S', 'E', 'R'] = [['U', 'S', 'E', 'R']] := by decide
  simp only [Request.parse, Settings.toList_loginLine, Request.words_append_space, hverb,
    List.count_append, List.count_cons_self]
  rw [List.singleton_append, List.getElem?_cons_succ, ← List.head?_eq_getElem?]
  simp only [Request.mk.injEq, true_and]
  refine ⟨?_, ?_⟩
  · rw [List.head?_cons, Option.getD_some]
    decide
  · rw [show List.count ' ' ['U', 'S', 'E', 'R'] = 0 by decide, Nat.zero_add]

theorem dispatch_loginLine (hvalid : settings.Valid) (h : Login.IsPlain settings.username) :
    dispatch settings conditions (.start root) (Request.parse settings.loginLine) =
      if ' ' ∈ settings.username.toList then
        .saying (.start root) (.plain .syntaxErrorInArguments)
      else .saying { Session.start root with loggedIn := true } (.plain .loggedIn) := by
  have huser : ∀ {request : Request}, request.verb = .user →
      dispatch settings conditions (.start root) request =
        Dispatch.user settings (.start root) request := by
    intro request hverb
    simp only [dispatch, Dispatch.refusal?, Dispatch.handle, hverb]
  have hshut : (Session.start root).loggedIn = false := rfl
  rw [parse_loginLine, huser rfl]
  split
  · next hspace =>
      obtain ⟨more, hmore⟩ := Nat.exists_eq_succ_of_ne_zero
        (Nat.ne_of_gt (List.count_pos_iff.mpr hspace))
      rw [Dispatch.user, hshut, hmore]
      cases (Request.words settings.username.toList).head? <;> rfl
  · next hword =>
      have hne : settings.username.toList ≠ [] := by
        intro hnil
        have hblank := (Settings.valid_iff.mp hvalid).2.2.2.1
        rw [Text.allBlank, hnil] at hblank
        cases hblank
      simp only [Dispatch.user, hshut, Request.words_of_word hword hne,
        List.count_eq_zero.mpr hword, List.head?_cons, Option.map_some, String.ofList_toList,
        Login.check_username hvalid h]
      rfl

/-! ## The conversation -/

namespace Conversation

open Framing

/-- A conversation that is still open and has come to some replies and nothing else. -/
structure OnlySaid (c : Conversation) (session : Session) (replies : List Reply) : Prop where
  session : c.session = session
  trace : c.trace.toList = replies.map .reply
  afterwards : c.afterwards = .readOn

variable {client : SocketAddress} {world : Nat → Conditions}

theorem onlySaid_greet {session : Session} {writer : Sink} :
    (greet session writer).OnlySaid session [.plain .serviceReady] := by
  obtain ⟨hsession, htrace, hopen, -⟩ := greet_keeps session writer
  exact ⟨hsession, by rw [htrace]; rfl, hopen⟩

theorem OnlySaid.answer_overlong {c : Conversation} {session : Session} {replies : List Reply}
    (h : c.OnlySaid session replies) (kept : List UInt8) :
    (c.answer settings client world (.overlong kept)).OnlySaid session (replies ++ [tooLong]) := by
  obtain ⟨hsession, htrace, -, hopen, -⟩ :=
    Conversation.answer_overlong settings client world c kept
  refine ⟨hsession.trans h.session, ?_, hopen.trans h.afterwards⟩
  rw [htrace, Array.toList_push, h.trace, List.map_append, List.map_singleton]

theorem OnlySaid.answer_line {c : Conversation} {session next : Session} {replies : List Reply}
    {reply : Reply} (h : c.OnlySaid session replies) {bytes : List UInt8}
    (hdispatch : dispatch settings (world c.dispatched) session (Request.parse (lineOf bytes)) =
      .saying next reply) :
    (c.answer settings client world (.line bytes)).OnlySaid next (replies ++ [reply]) := by
  obtain ⟨hsession, htrace, -, hopen, -⟩ :=
    Conversation.answer_line settings client world c bytes
  rw [h.session, hdispatch] at hsession htrace hopen
  refine ⟨hsession, ?_, hopen⟩
  rw [htrace, Array.toList_append, h.trace, List.map_append, List.map_singleton]
  rfl

/-- A stream that is one line gets one answer. -/
theorem run_of_line {line : String} (hline : ∀ c ∈ line.toList, Request.endsLine c = false)
    {incoming : Incoming} (hreads : [] ∉ incoming.reads)
    (hstream : incoming.reads.flatten = controlLine line) (session : Session) (writer : Sink) :
    run settings client world session writer incoming =
      (greet session writer).answer settings client world
        (ofLine settings.maxCommandLength (controlLine line)) := by
  have hbody := lineFeed_not_mem_ofString hline
  have hended : isUnfinished (controlLine line) = false := by
    rw [controlLine_eq, isUnfinished_append]
    rfl
  have hframed := filterMap_pieces_ended (List.forall_mem_singleton.mpr hbody) false
    settings.maxCommandLength
  rw [List.flatMap_singleton, ← controlLine_eq, List.map_singleton, ← controlLine_eq] at hframed
  rw [run_of_finished hreads (hstream ▸ hended), hstream,
    follow_eq_answerAllBy (greet_keeps session writer).2.2.1, hframed]
  exact answerAll_singleton settings client world _ _

theorem onlySaid_of_long {line : String} (hline : ∀ c ∈ line.toList, Request.endsLine c = false)
    (hlong : ¬ (controlLine line).length ≤ settings.maxCommandLength) {incoming : Incoming}
    (hreads : [] ∉ incoming.reads) (hstream : incoming.reads.flatten = controlLine line)
    (session : Session) (writer : Sink) :
    (run settings client world session writer incoming).OnlySaid session
      [.plain .serviceReady, tooLong] := by
  rw [run_of_line hline hreads hstream, ofLine, if_pos (Nat.lt_of_not_le hlong)]
  exact onlySaid_greet.answer_overlong _

theorem onlySaid_of_short {line : String} (hline : ∀ c ∈ line.toList, Request.endsLine c = false)
    (hshort : (controlLine line).length ≤ settings.maxCommandLength) {incoming : Incoming}
    (hreads : [] ∉ incoming.reads) (hstream : incoming.reads.flatten = controlLine line)
    {session next : Session} {reply : Reply} (writer : Sink)
    (hdispatch : ∀ conditions, dispatch settings conditions session (Request.parse line) =
      .saying next reply) :
    (run settings client world session writer incoming).OnlySaid next
      [.plain .serviceReady, reply] := by
  rw [run_of_line hline hreads hstream, ofLine, if_neg (Nat.not_lt_of_le hshort)]
  refine onlySaid_greet.answer_line ?_
  rw [lineOf_controlLine hline]
  exact hdispatch _

/-- Every valid configuration whose account has a name that is one plain line lets the
account in exactly if there is no space in the name and the line that gives it is not
too long. What is said to that line is the greeting and one reply, and unless the
account is let in the session is as new. -/
theorem account_logs_in_iff (hvalid : settings.Valid)
    (hplain : Login.IsPlain settings.username) (client : SocketAddress)
    (world : Nat → Conditions) (root : Path) (writer : Sink) {incoming : Incoming}
    (hreads : [] ∉ incoming.reads)
    (hstream : incoming.reads.flatten = controlLine settings.loginLine) :
    let c := run settings client world (.start root) writer incoming
    let fits := (controlLine settings.loginLine).length ≤ settings.maxCommandLength
    let isWord := ' ' ∉ settings.username.toList
    (c.session.loggedIn = true ↔ isWord ∧ fits) ∧
      (isWord → fits → c.OnlySaid { Session.start root with loggedIn := true }
        [.plain .serviceReady, .plain .loggedIn]) ∧
      (¬ isWord → fits → c.OnlySaid (.start root)
        [.plain .serviceReady, .plain .syntaxErrorInArguments]) ∧
      (¬ fits → c.OnlySaid (.start root) [.plain .serviceReady, tooLong]) ∧
      c.writer = writer.sendAll (c.replies.map Reply.bytes) := by
  intro c fits isWord
  have hline := Settings.endsLine_loginLine hplain
  have hlong : ¬ fits → c.OnlySaid (.start root) [.plain .serviceReady, tooLong] :=
    fun hlong => onlySaid_of_long hline hlong hreads hstream _ writer
  have hword : isWord → fits → c.OnlySaid { Session.start root with loggedIn := true }
      [.plain .serviceReady, .plain .loggedIn] := by
    intro hword hfits
    refine onlySaid_of_short hline hfits hreads hstream writer fun _ => ?_
    rw [dispatch_loginLine hvalid hplain, if_neg hword]
  have hspaced : ¬ isWord → fits → c.OnlySaid (.start root)
      [.plain .serviceReady, .plain .syntaxErrorInArguments] := by
    intro hspaced hfits
    refine onlySaid_of_short hline hfits hreads hstream writer fun _ => ?_
    rw [dispatch_loginLine hvalid hplain, if_pos (Decidable.not_not.mp hspaced)]
  refine ⟨⟨fun hin => ?_, fun h => ?_⟩, hword, hspaced, hlong, ?_⟩
  · by_contra hnot
    have hshut : c.session = .start root := by
      by_cases hfits : fits
      · exact (hspaced (fun hword => hnot ⟨hword, hfits⟩) hfits).session
      · exact (hlong hfits).session
    rw [hshut] at hin
    cases hin
  · rw [(hword h.1 h.2).session]
  · exact (givenReplies_run settings client world (.start root) writer incoming).writer

/-- Somebody gives the name of the account, and nothing more, to a server with nothing
in it. -/
def knock (settings : Settings) : Conversation :=
  run settings (.v4 ⟨127, 0, 0, 1⟩ 40000)
    (fun _ => { tree := ⟨[]⟩, attempts := fun _ => ⟨2000, .opened⟩ }) (.start (.ofString "/")) {}
    { reads := [controlLine settings.loginLine] }

theorem nil_not_mem_controlLine (line : String) : [] ∉ [controlLine line] := by
  simp [controlLine]

/-- A line that fits exactly, and one that does not by one byte. -/
theorem account_logs_in_iff_at_limit :
    let settings := Settings.ofAccount "anna"
    ((settings 10).Valid ∧ (settings 11).Valid ∧ Login.IsPlain "anna") ∧
      (knock (settings 10)).OnlySaid (.start (.ofString "/")) [.plain .serviceReady, tooLong] ∧
      (knock (settings 11)).OnlySaid { Session.start (.ofString "/") with loggedIn := true }
        [.plain .serviceReady, .plain .loggedIn] := by
  intro settings
  have hshort : (settings 10).Valid := Settings.valid_ofAccount (by decide) (by decide)
  have hlong : (settings 11).Valid := Settings.valid_ofAccount (by decide) (by decide)
  have hplain : Login.IsPlain "anna" := by simp [Login.IsPlain, Request.endsLine]
  have hlogin := fun limit (hvalid : (settings limit).Valid) =>
    @account_logs_in_iff (settings limit) hvalid hplain (.v4 ⟨127, 0, 0, 1⟩ 40000)
      (fun _ => { tree := ⟨[]⟩, attempts := fun _ => ⟨2000, .opened⟩ }) (.ofString "/") {}
      { reads := [controlLine (settings limit).loginLine] } (nil_not_mem_controlLine _)
      List.flatten_singleton
  obtain ⟨-, -, -, hrefused, -⟩ := hlogin 10 hshort
  obtain ⟨-, hword, -⟩ := hlogin 11 hlong
  exact ⟨⟨hshort, hlong, hplain⟩, hrefused (by cbv), hword (by decide) (by cbv)⟩

/-- Valid settings, each with an account that its own line does not let in: the name
has a space in it, or a zero, or a line end, or the line is longer than lines may be. -/
theorem account_not_let_in :
    let turnedDown (settings : Settings) (reply : Reply) : Prop :=
      settings.Valid ∧ (knock settings).session.loggedIn = false ∧
        (knock settings).replies = [.plain .serviceReady, reply]
    turnedDown (.ofAccount "anna maria" 1024) (.plain .syntaxErrorInArguments) ∧
      turnedDown (.ofAccount "an\x00na" 1024) (.plain .syntaxErrorInArguments) ∧
      turnedDown (.ofAccount "\ranna" 1024) (.plain .syntaxErrorInArguments) ∧
      turnedDown (.ofAccount "cs317" 5) tooLong := by
  have hvalid := @Settings.valid_ofAccount
  have hplain : Login.IsPlain "cs317" := by simp [Login.IsPlain, Request.endsLine]
  have hlong : (knock (.ofAccount "cs317" 5)).OnlySaid (.start (.ofString "/"))
      [.plain .serviceReady, tooLong] :=
    onlySaid_of_long (Settings.endsLine_loginLine hplain) (by cbv) (nil_not_mem_controlLine _)
      List.flatten_singleton _ _
  refine ⟨⟨hvalid (by decide) (by decide), ?_⟩, ⟨hvalid (by decide) (by decide), ?_⟩,
    ⟨hvalid (by decide) (by decide), ?_⟩, ⟨hvalid (by decide) (by decide), ?_⟩⟩
  · exact ⟨by cbv, by cbv⟩
  · exact ⟨by cbv, by cbv⟩
  · exact ⟨by cbv, by cbv⟩
  · rw [hlong.session, replies, hlong.trace]
    exact ⟨rfl, rfl⟩

end Conversation

end

end PassiveFtp
