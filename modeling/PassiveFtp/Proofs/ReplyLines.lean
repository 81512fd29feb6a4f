import Mathlib
import PassiveFtp.Proofs.Conversations
import PassiveFtp.Proofs.ReplyEncoding
import PassiveFtp.Proofs.ShownPaths
import PassiveFtp.Proofs.WorkingDirectory

/-!
# When a reply is one line

A client finds the end of a reply by its line end, so a reply that holds another
one is two replies to it, and the second can be made to say anything. Every text
the server has of its own is free of line ends, and an address is digits and
commas. The one text that comes from elsewhere is the working directory, which
the replies to a change to the directory above show as it is.

A line a client sends cannot hold a line end. That does not keep one out of the
working directory: names come from the tree, and a link with a plain name leads
to a directory with any. So the replies to a request are lines unless it is that
request, and then exactly if the names from the root down have no line end in
them. Such a name has to be borne by some tree of the run, whoever puts it there.
-/

namespace PassiveFtp

/-- A reply that is one line of the control connection: three digits, a space, a
text without a line end in it, and a line end. -/
def Reply.IsLine (reply : Reply) : Prop :=
  ∃ code text : List UInt8,
    Utf8.ofString reply.encode = code ++ 0x20 :: text ++ [0x0D, 0x0A] ∧
    code.length = 3 ∧ (∀ b ∈ code, 0x30 ≤ b ∧ b ≤ 0x39) ∧ 0x0D ∉ text ∧ 0x0A ∉ text

/-- A text without a line end in it. -/
def Text.Unbroken (text : List Char) : Prop :=
  ∀ c ∈ text, Request.endsLine c = false

/-- A name without a line end in it. -/
def Name.Unbroken (name : Name) : Prop :=
  0x0D ∉ name.bytes ∧ 0x0A ∉ name.bytes

/-! ## Texts and their bytes -/

namespace Text

theorem unbroken_iff {text : List Char} : Unbroken text ↔ '\r' ∉ text ∧ '\n' ∉ text := by
  simp only [Unbroken, Request.endsLine, Bool.or_eq_false_iff, beq_eq_false_iff_ne]
  constructor
  · exact fun h => ⟨fun hr => (h _ hr).1 rfl, fun hn => (h _ hn).2 rfl⟩
  · rintro ⟨hr, hn⟩ c hc
    exact ⟨fun h => hr (h ▸ hc), fun h => hn (h ▸ hc)⟩

theorem unbroken_append {text more : List Char} :
    Unbroken (text ++ more) ↔ Unbroken text ∧ Unbroken more := by
  simp only [Unbroken, List.forall_mem_append]

theorem unbroken_encode {text : List Char} :
    0x0D ∉ Utf8.encode text ∧ 0x0A ∉ Utf8.encode text ↔ Unbroken text := by
  rw [Utf8.mem_encode_iff (by decide), Utf8.mem_encode_iff (by decide), unbroken_iff]
  rfl

end Text

theorem Utf8.encode_eq_map {text : List Char} (h : ∀ c ∈ text, c.toNat < 0x80) :
    encode text = text.map fun c => UInt8.ofNat c.toNat := by
  induction text with
  | nil => rfl
  | cons c rest ih =>
      obtain ⟨hc, hrest⟩ := List.forall_mem_cons.mp h
      have hsmall : c.val.toNat ≤ 127 := Nat.le_of_lt_succ hc
      rw [encode, List.flatMap_cons, ← encode, ih hrest, String.utf8EncodeChar]
      simp only [hsmall, if_true]
      rfl

/-! ## Replies

A reply is taken apart once, into the digits, the space, the text and the end.
Whether it is a line is then a question about the text. -/

namespace Reply

theorem isLine_iff {reply : Reply} {code text : List Char}
    (h : reply.encode.toList = code ++ ' ' :: text ++ ['\r', '\n']) (hlength : code.length = 3)
    (hdigits : ∀ c ∈ code, 48 ≤ c.toNat ∧ c.toNat ≤ 57) :
    reply.IsLine ↔ Text.Unbroken text := by
  have hcode : Utf8.encode code = code.map fun c => UInt8.ofNat c.toNat :=
    Utf8.encode_eq_map fun c hc => by have := hdigits c hc; omega
  have hbytes : Utf8.ofString reply.encode =
      Utf8.encode code ++ 0x20 :: Utf8.encode text ++ [0x0D, 0x0A] := by
    rw [Utf8.ofString, h, Utf8.encode_append, Utf8.encode_append]
    rfl
  constructor
  · rintro ⟨code', text', hsame, hlength', -, hr, hn⟩
    rw [hbytes, List.append_assoc, List.append_assoc] at hsame
    have hrest := (List.append_inj hsame (by rw [hcode, List.length_map, hlength, hlength'])).2
    rw [List.append_cancel_right_eq, List.cons.injEq] at hrest
    rw [← hrest.2] at hr hn
    exact Text.unbroken_encode.mp ⟨hr, hn⟩
  · intro htext
    obtain ⟨hr, hn⟩ := Text.unbroken_encode.mpr htext
    refine ⟨_, _, hbytes, by rw [hcode, List.length_map, hlength], fun b hb => ?_, hr, hn⟩
    rw [hcode] at hb
    obtain ⟨c, hc, rfl⟩ := List.mem_map.mp hb
    obtain ⟨hlow, hhigh⟩ := hdigits c hc
    rw [UInt8.le_iff_toNat_le, UInt8.le_iff_toNat_le, UInt8.toNat_ofNat_of_lt' (by
      show c.toNat < 256
      omega)]
    exact ⟨hlow, hhigh⟩

end Reply

namespace ReplyCode

theorem unbroken_text (code : ReplyCode) : Text.Unbroken code.text.toList := by
  rw [Text.unbroken_iff]
  cases code <;> simp [text]

end ReplyCode

namespace Reply

theorem unbroken_shown {detail : String} :
    Text.Unbroken ('.' :: shown detail) ↔ Text.Unbroken detail.toList := by
  simp only [shown]
  split
  · next hempty => simp [Text.Unbroken, Request.endsLine, String.isEmpty_iff.mp hempty]
  · simp [Text.Unbroken, Request.endsLine]

/-- A reply with a code is a line if its detail has no line end in it. -/
theorem isLine_coded_iff {code : ReplyCode} {detail : String} :
    (coded code detail).IsLine ↔ Text.Unbroken detail.toList := by
  rw [isLine_iff (toList_encode_coded code detail) (length_digits_number code) fun c hc =>
    Decimal.toNat_of_mem_digits hc, Text.unbroken_append, unbroken_shown]
  exact and_iff_right code.unbroken_text

theorem isLine_plain (code : ReplyCode) : (plain code).IsLine :=
  isLine_coded_iff.mpr fun _ hc => absurd hc List.not_mem_nil

theorem isLine_negotiated {α : Type} (answer : Negotiation α) :
    (Dispatch.negotiated answer).IsLine := by
  cases answer <;> exact isLine_plain _

theorem isLine_tooLong : Conversation.tooLong.IsLine :=
  isLine_coded_iff.mpr (by simp [Text.Unbroken, Request.endsLine])

end Reply

theorem LoginError.isLine_reply (e : LoginError) : e.reply.IsLine := by
  cases e with
  | malformed => exact Reply.isLine_plain _
  | unknownUser => exact Reply.isLine_coded_iff.mpr (by simp [Text.Unbroken, Request.endsLine])

theorem FileOutcome.isLine_reply (outcome : FileOutcome) : outcome.reply.IsLine := by
  cases outcome with
  | completed | writeFailed => exact Reply.isLine_plain _
  | openFailed | readFailed | shortWrite =>
      exact Reply.isLine_coded_iff.mpr (by simp [Text.Unbroken, Request.endsLine])

theorem ListOutcome.isLine_reply (outcome : ListOutcome) : outcome.reply.IsLine := by
  cases outcome <;> exact Reply.isLine_plain _

theorem DataAddress.unbroken_tuple (address : DataAddress) :
    Text.Unbroken address.tuple.toList := by
  rw [Text.unbroken_iff]
  constructor
  · exact fun hr => absurd (isDigit_of_mem_tuple hr (by decide)) (by decide)
  · exact fun hn => absurd (isDigit_of_mem_tuple hn (by decide)) (by decide)

theorem PassiveChannel.isLine_reply (channel : PassiveChannel) : channel.reply.IsLine := by
  have hencode : channel.reply.encode.toList = ['2', '2', '7'] ++
      ' ' :: ("Entering Passive Mode (".toList ++ channel.address.tuple.toList ++ [')']) ++
        ['\r', '\n'] := by
    rw [reply, Reply.encode, String.toList_append, String.toList_append]
    simp
  rw [Reply.isLine_iff hencode rfl (by simp), Text.unbroken_append, Text.unbroken_append]
  refine ⟨⟨?_, channel.address.unbroken_tuple⟩, ?_⟩
  · simp [Text.Unbroken, Request.endsLine]
  · simp [Text.Unbroken, Request.endsLine]

/-! ## Requests -/

theorem Dispatch.isLine_fetch (settings : Settings) (conditions : Conditions) (session : Session)
    (target : String) (sink : Sink) :
    (fetch settings conditions session target sink).1.IsLine := by
  simp only [fetch]
  split
  · exact FileOutcome.isLine_reply _
  · next e _ => exact FileOutcome.isLine_reply (.openFailed e)

section
variable {settings : Settings} {conditions : Conditions} {session : Session} {request : Request}
  {outcome : Outcome} {reply : Reply}

/-- A request for the directory above that no check holds back. -/
def Request.Climbs (session : Session) (request : Request) : Prop :=
  Passed session request ∧ request.verb = .cdup

theorem Request.not_climbs_of_verb {verb : Verb} (h : request.verb = verb) (hverb : verb ≠ .cdup) :
    ¬ request.Climbs session :=
  fun hclimbs => hverb (h.symm.trans hclimbs.2)

theorem Answered.line_or_climbs (h : Answered settings conditions session request reply) :
    (reply.IsLine ∧ ¬ request.Climbs session) ∨
      (request.Climbs session ∧
        ∃ code, reply = .coded code (Navigation.virtualPath session.root session.cwd)) := by
  cases h with
  | unknown hverb | userAgain hverb | userMisspelt hverb =>
      exact .inl ⟨Reply.isLine_plain _, Request.not_climbs_of_verb hverb (by simp)⟩
  | early _ hout =>
      refine .inl ⟨Reply.isLine_plain _, fun h => ?_⟩
      rw [h.1.loggedIn] at hout
      cases hout
  | misspaced _ _ hspaces => exact .inl ⟨Reply.isLine_plain _, fun h => hspaces h.1.spaces⟩
  | bare _ htakes =>
      refine .inl ⟨Reply.isLine_plain _, fun h => ?_⟩
      rw [h.2] at htakes
      cases htakes
  | userRefused hverb =>
      exact .inl ⟨LoginError.isLine_reply _, Request.not_climbs_of_verb hverb (by simp)⟩
  | cwdRefused _ hverb =>
      exact .inl ⟨Reply.isLine_plain _, Request.not_climbs_of_verb hverb (by simp)⟩
  | cdupRefused hpassed hverb => exact .inr ⟨⟨hpassed, hverb⟩, _, rfl⟩
  | typeRefused _ hverb | mode _ hverb | stru _ hverb =>
      exact .inl ⟨Reply.isLine_negotiated _, Request.not_climbs_of_verb hverb (by simp)⟩

theorem Handled.lines_or_climbs (h : Handled settings conditions session request outcome) :
    ((∀ reply ∈ outcome.replies, reply.IsLine) ∧ ¬ request.Climbs session) ∨
      (request.Climbs session ∧ ∃ code, outcome.replies =
        [.coded code (Navigation.virtualPath session.root session.cwd)]) := by
  have hone : ∀ {next : Session} {reply : Reply} {afterwards : Afterwards}, reply.IsLine →
      ∀ other ∈ Outcome.replies { session := next, effects := [.reply reply], afterwards },
        other.IsLine := by
    intro next reply afterwards hline other hother
    rw [List.mem_singleton.mp hother]
    exact hline
  cases h with
  | answered hanswered =>
      obtain ⟨hline, hclimbs⟩ | ⟨hclimbs, code, rfl⟩ := hanswered.line_or_climbs
      · exact .inl ⟨hone hline, hclimbs⟩
      · exact .inr ⟨hclimbs, code, rfl⟩
  | admitted hverb =>
      exact .inl ⟨hone (Reply.isLine_plain _), Request.not_climbs_of_verb hverb (by simp)⟩
  | quit _ hverb | entered _ hverb | typed _ hverb =>
      exact .inl ⟨hone (Reply.isLine_plain _), Request.not_climbs_of_verb hverb (by simp)⟩
  | climbed hpassed hverb => exact .inr ⟨⟨hpassed, hverb⟩, _, rfl⟩
  | @listening channel _ hverb =>
      rw [Outcome.replies_closing_append]
      refine .inl ⟨fun reply hreply => ?_, Request.not_climbs_of_verb hverb (by simp)⟩
      rw [List.mem_singleton.mp hreply]
      exact channel.isLine_reply
  | unallocated _ hverb =>
      rw [Outcome.replies_closing_append]
      exact .inl ⟨hone (Reply.isLine_plain _), Request.not_climbs_of_verb hverb (by simp)⟩
  | unconnected _ hwants =>
      rw [Outcome.replies_closing_append]
      refine .inl ⟨hone (Reply.isLine_plain _), ?_⟩
      obtain hverb | ⟨hverb, -⟩ := hwants <;> exact Request.not_climbs_of_verb hverb (by simp)
  | fetched _ hverb =>
      refine .inl ⟨fun reply hreply => ?_, Request.not_climbs_of_verb hverb (by simp)⟩
      rcases List.mem_pair.mp hreply with rfl | rfl
      · exact Reply.isLine_plain _
      · exact Dispatch.isLine_fetch _ _ _ _ _
  | listed _ hverb =>
      refine .inl ⟨fun reply hreply => ?_, Request.not_climbs_of_verb hverb (by simp)⟩
      rcases List.mem_pair.mp hreply with rfl | rfl
      · exact Reply.isLine_plain _
      · exact ListOutcome.isLine_reply _

theorem Handled.lines_iff (h : Handled settings conditions session request outcome) :
    (∀ reply ∈ outcome.replies, reply.IsLine) ↔
      (request.Climbs session →
        Text.Unbroken (Navigation.virtualPath session.root session.cwd).toList) := by
  obtain ⟨hlines, hclimbs⟩ | ⟨hclimbs, code, hreplies⟩ := h.lines_or_climbs
  · exact iff_of_true hlines fun h => absurd h hclimbs
  · rw [hreplies, List.forall_mem_singleton, Reply.isLine_coded_iff]
    exact ⟨fun h _ => h, fun h => h hclimbs⟩

end

theorem Navigation.unbroken_virtualPath_iff (base below : Location) :
    Text.Unbroken (virtualPath base.path (Location.path (base ++ below))).toList ↔
      ∀ name ∈ below, name.Unbroken := by
  have hr := mem_virtualPath_iff (b := 0x0D) (by decide) (by decide) base below
  have hn := mem_virtualPath_iff (b := 0x0A) (by decide) (by decide) base below
  rw [Text.unbroken_iff]
  constructor
  · rintro ⟨hnor, hnon⟩ name hname
    exact ⟨fun h => hnor (hr.mpr ⟨name, hname, h⟩), fun h => hnon (hn.mpr ⟨name, hname, h⟩)⟩
  · intro hall
    refine ⟨fun h => ?_, fun h => ?_⟩
    · obtain ⟨name, hname, hmem⟩ := hr.mp h
      exact (hall name hname).1 hmem
    · obtain ⟨name, hname, hmem⟩ := hn.mp h
      exact (hall name hname).2 hmem

/-- The greeting and the reply to a line that is too long are lines. After any
run, over trees that change in any way, the working directory is the root's place
and names below it that trees of the run have borne; the replies to the next
request are lines unless it is one for the directory above that no check holds
back, and the replies to that are lines exactly if those names have no line end
in them. -/
theorem replies_are_lines_iff (settings : Settings) {start : Tree} {root : Path}
    (hroot : start.Canonical root) (turns : List Turn) :
    let session := (Session.start root).after settings turns
    (Reply.plain .serviceReady).IsLine ∧ Conversation.tooLong.IsLine ∧
    ∃ base below : Location, root = base.path ∧ session.cwd = Location.path (base ++ below) ∧
      (∀ name ∈ below, ∃ turn ∈ turns, turn.conditions.tree.Bears name) ∧
      ∀ turn : Turn, (∀ reply ∈ (turn.outcome settings session).replies, reply.IsLine) ↔
        (Passed session turn.request → turn.request.verb = .cdup →
          ∀ name ∈ below, 0x0D ∉ name.bytes ∧ 0x0A ∉ name.bytes) := by
  intro session
  obtain ⟨base, hbase, hplaced⟩ := Session.placed_after settings hroot turns
  obtain ⟨below, hcwd, hborne⟩ := hplaced.cwd
  refine ⟨Reply.isLine_plain _, Reply.isLine_tooLong, base, below, hbase, hcwd, hborne, ?_⟩
  intro turn
  have hlines := (dispatch_handled settings turn.conditions session turn.request).lines_iff
  rw [show session.root = base.path from hplaced.root,
    show session.cwd = Location.path (base ++ below) from hcwd,
    Navigation.unbroken_virtualPath_iff] at hlines
  rw [Turn.outcome, hlines]
  exact ⟨fun h hpassed hverb => h ⟨hpassed, hverb⟩, fun h hclimbs => h hclimbs.1 hclimbs.2⟩

/-- A name with a line end in it, and the beginning of a reply after that. -/
def brokenName : Name :=
  ⟨[0x61, 0x0D, 0x0A, 0x35, 0x35, 0x30, 0x20, 0x67, 0x6F, 0x6E, 0x65], by decide⟩

/-- A root `/r` with a plain directory `p` and a directory with that name, which
the link `l` leads to. -/
def brokenTree : Tree :=
  ⟨[(.letter 'r', .dir
    [(.letter 'p', .dir []), (brokenName, .dir []),
      (.letter 'l', .link ⟨brokenName.bytes⟩)])]⟩

/-- Turns over that tree. -/
def brokenTurn (verb : Verb) (argument : Option String) (spaces : Nat) : Turn where
  conditions := { tree := brokenTree, attempts := fun _ => ⟨2000, .opened⟩ }
  request := { verb, argument, spaces }

/-- From the plain directory, the reply to a change to the one above is a line. -/
theorem replies_are_lines_plain :
    brokenTree.Canonical (.ofString "/r") ∧
    let session := (Session.start (.ofString "/r")).after {}
      [brokenTurn .user (some "cs317") 1, brokenTurn .cwd (some "p") 1]
    ∀ reply ∈ ((brokenTurn .cdup none 0).outcome {} session).replies, reply.IsLine := by
  have hroot : brokenTree.Canonical (.ofString "/r") := by cbv
  refine ⟨hroot, ?_⟩
  intro session
  obtain ⟨-, -, base, below, hbase, hcwd, -, hiff⟩ := replies_are_lines_iff {} hroot
    [brokenTurn .user (some "cs317") 1, brokenTurn .cwd (some "p") 1]
  have hmoved : ((brokenTurn .cwd (some "p") 1).outcome {}
      { Session.start (.ofString "/r") with loggedIn := true }).session.cwd =
        Location.path [.letter 'r', .letter 'p'] := by
    cbv
  have hplace : base ++ below = [.letter 'r', .letter 'p'] :=
    Location.path_injective (hcwd.symm.trans hmoved)
  rw [hiff]
  intro _ _ name hname
  have hborne : name ∈ base ++ below := List.mem_append_right base hname
  rw [hplace, List.mem_pair] at hborne
  rcases hborne with rfl | rfl <;> decide

/-- Through the link into the other one, it is two. -/
theorem reply_of_two_lines :
    let session := (Session.start (.ofString "/r")).after {}
      [brokenTurn .user (some "cs317") 1, brokenTurn .cwd (some "l") 1]
    ((brokenTurn .cdup none 0).outcome {} session).replies.map Reply.encode =
        ["200 Command okay. /a\r\n550 gone\r\n"] ∧
      ¬ ∀ reply ∈ ((brokenTurn .cdup none 0).outcome {} session).replies, reply.IsLine := by
  intro session
  let broken : Session :=
    { Session.start (.ofString "/r") with
      loggedIn := true
      cwd := .ofString "/r/a\r\n550 gone" }
  have hcwd : ((brokenTurn .cwd (some "l") 1).outcome {}
      { Session.start (.ofString "/r") with loggedIn := true }).session = broken := by
    cbv
  have hsession : session = broken := hcwd
  have hreplies : ((brokenTurn .cdup none 0).outcome {} broken).replies =
      [.coded .commandOk "/a\r\n550 gone"] := by
    cbv
  rw [hsession, hreplies]
  refine ⟨by cbv, ?_⟩
  rw [List.forall_mem_singleton, Reply.isLine_coded_iff, Text.unbroken_iff]
  simp

end PassiveFtp
