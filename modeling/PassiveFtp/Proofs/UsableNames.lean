import Mathlib
import PassiveFtp.Proofs.ControlLines
import PassiveFtp.Proofs.TruthfulReplies
import PassiveFtp.Proofs.WorkingDirectory

/-!
# What is listed can be asked for

A listing is only of use if its names are names to the server that sent it. A
name goes a long way: its bytes are decoded and encoded for the listing, and the
client sends them back in a line that is framed, decoded, taken apart, looked at
for its shape, encoded and joined to the working directory, and the path is cut
up and walked. For a name that is text and holds no space and no line end, every
one of these steps gives it back unchanged.

What is refused after all is a directory whose name begins with a dot, and it is
refused for that alone. Two dots anywhere else in a name mean nothing, because
the name of an entry has no slash that would make them a segment of their own.
-/

namespace PassiveFtp

/-- A name that can be said in a line as it is listed. -/
structure Name.Sayable (settings : Settings) (name : Name) (n : String) : Prop where
  text : name.bytes = Utf8.ofString n
  plain : ∀ c ∈ n.toList, c ≠ ' ' ∧ c ≠ '\r' ∧ c ≠ '\n'
  short : name.bytes.length + 7 ≤ settings.maxCommandLength

/-- What a session's working directory has under a name. -/
def Session.HasEntry (tree : Tree) (session : Session) (name : Name) (node : Node) : Prop :=
  ∃ entries, tree.find session.cwd = .ok (.dir entries) ∧ entries.lookup name = some node

/-- A connection that takes whatever it is given. -/
structure Sink.TakesAll (sink : Sink) : Prop where
  room : sink.room = none
  perWrite : sink.perWrite ≠ some 0
  flushes : sink.flushFailure = none

variable {settings : Settings} {name : Name} {n : String}

/-! ## The line -/

namespace Name.Sayable

theorem ne_nil (h : name.Sayable settings n) : n.toList ≠ [] := by
  intro hnil
  refine name.legal.1 ?_
  rw [h.text, Utf8.ofString, hnil]
  rfl

theorem isEmpty (h : name.Sayable settings n) : n.isEmpty = false := by
  rw [Bool.eq_false_iff, Ne, String.isEmpty_iff]
  intro hempty
  exact h.ne_nil (by rw [hempty]; rfl)

theorem space_not_mem (h : name.Sayable settings n) : ' ' ∉ n.toList :=
  fun hmem => (h.plain ' ' hmem).1 rfl

/-- The line of a verb of at most four letters and the name. -/
theorem admits (h : name.Sayable settings n) {opening : String} {verb : List Char}
    (hopening : opening.toList = verb ++ [' ']) (hverb : ∀ c ∈ verb, Request.endsLine c = false)
    (hshort : (Utf8.encode verb).length ≤ 4) : settings.Admits (opening ++ n) where
  single := by
    intro c hc
    rw [String.toList_append, hopening, List.append_assoc, List.mem_append,
      List.singleton_append, List.mem_cons] at hc
    obtain hc | rfl | hc := hc
    · exact hverb c hc
    · rfl
    · obtain ⟨-, hreturn, hfeed⟩ := h.plain c hc
      simp [Request.endsLine, hreturn, hfeed]
  short := by
    have hle := h.short
    have hname : (Utf8.encode n.toList).length = name.bytes.length := by
      rw [h.text, Utf8.ofString]
    have hline : controlLine (opening ++ n) =
        Utf8.encode verb ++ (0x20 :: Utf8.encode n.toList) ++ [0x0D, 0x0A] := by
      rw [controlLine, Utf8.ofString, String.toList_append, hopening, Utf8.encode_append,
        Utf8.encode_append, List.append_assoc (Utf8.encode verb)]
      rfl
    rw [hline, List.length_append, List.length_append, List.length_cons, hname]
    simp only [List.length_cons, List.length_nil]
    omega

theorem parse (h : name.Sayable settings n) {opening : String} {verb : List Char}
    (hopening : opening.toList = verb ++ [' ']) (hverb : ' ' ∉ verb) (hverb' : verb ≠ []) :
    Request.parse (opening ++ n) = ⟨Verb.ofWord (String.ofList verb), some n, 1⟩ := by
  have hline : opening ++ n = String.ofList (verb ++ ' ' :: n.toList) := by
    rw [← String.toList_inj, String.toList_append, hopening, String.toList_ofList,
      List.append_assoc, List.singleton_append]
  rw [hline, Request.parse_two_words hverb hverb' h.space_not_mem h.ne_nil, String.ofList_toList]

theorem retr (h : name.Sayable settings n) :
    settings.Admits ("RETR " ++ n) ∧ Request.parse ("RETR " ++ n) = ⟨.retr, some n, 1⟩ := by
  have hopening : "RETR ".toList = ['R', 'E', 'T', 'R'] ++ [' '] := rfl
  refine ⟨h.admits hopening (by simp [Request.endsLine]) (by decide), ?_⟩
  rw [h.parse hopening (by simp) (by simp)]
  rfl

theorem cwd (h : name.Sayable settings n) :
    settings.Admits ("CWD " ++ n) ∧ Request.parse ("CWD " ++ n) = ⟨.cwd, some n, 1⟩ := by
  have hopening : "CWD ".toList = ['C', 'W', 'D'] ++ [' '] := rfl
  refine ⟨h.admits hopening (by simp [Request.endsLine]) (by decide), ?_⟩
  rw [h.parse hopening (by simp) (by simp)]
  rfl

end Name.Sayable

/-! ## The path -/

theorem TargetShape.hasParentSegment_name (h : name.bytes = Utf8.ofString n) :
    hasParentSegment n = false := by
  have hslash : '/' ∉ n.toList := by
    intro hmem
    refine name.slash_not_mem ?_
    rw [h]
    exact (Utf8.mem_encode_iff (by decide)).mpr hmem
  have hdots : n.toList ≠ ['.', '.'] := by
    intro htwo
    refine name.bytes_ne_dotDot ?_
    rw [h, Utf8.ofString, htwo]
    rfl
  rw [hasParentSegment, List.splitOn_eq_singleton hslash]
  simpa using hdots

theorem TargetShape.isTraversal_name (h : name.bytes = Utf8.ofString n) :
    (ofTarget n).isTraversal = (n.toList.head? == some '.') := by
  rw [isTraversal_ofTarget, hasParentSegment_name h, Bool.or_false]

theorem Navigation.clientPath_name (h : name.bytes = Utf8.ofString n) (root cwd : Path) :
    clientPath root cwd n = cwd.join ⟨name.bytes⟩ := by
  simp only [clientPath]
  split
  · next rest hslash =>
      refine absurd ?_ name.slash_not_mem
      rw [h, Utf8.ofString, hslash]
      exact (Utf8.mem_encode_iff (by decide)).mpr List.mem_cons_self
  · rw [h, Utf8.ofString]

section
variable {tree : Tree} {session : Session} {node : Node}

/-- An entry that is no link is found where its name says. -/
theorem Session.HasEntry.leads (h : session.HasEntry tree name node)
    (hsettled : session.Settled tree) (hwithin : session.cwd.Within session.root)
    (hnode : ∀ target, node ≠ .link target) :
    tree.canonicalize (session.cwd.join ⟨name.bytes⟩) = .ok (session.cwd.join ⟨name.bytes⟩) ∧
      (session.cwd.join ⟨name.bytes⟩).Within session.root ∧
      tree.find (session.cwd.join ⟨name.bytes⟩) = .ok node := by
  obtain ⟨entries, hfind, hentry⟩ := h
  obtain ⟨place, hreached, hplace⟩ := Tree.canonical_iff.mp hsettled.1
  rw [hplace] at hfind hwithin ⊢
  have hdir : tree.get? place = some (.dir entries) := Tree.get?_of_find hreached hfind
  have hlonger : tree.Reached (place ++ [name]) := .step hreached hdir hentry hnode
  rw [Location.join_path_name]
  refine ⟨Tree.canonicalize_path hlonger, hwithin.trans ?_, Tree.find_path hlonger ?_⟩
  · exact (Location.within_path_iff _ _).mpr (List.prefix_append _ _)
  · rw [Tree.get?_concat hdir, hentry]

/-- A directory can be changed to by its name, unless that begins with a dot. -/
theorem Session.HasEntry.changeDirectory {entries : List (Name × Node)}
    (h : session.HasEntry tree name (.dir entries)) (hsay : name.Sayable settings n)
    (hsettled : session.Settled tree) (hwithin : session.cwd.Within session.root) :
    Navigation.changeDirectory tree session.root session.cwd n =
      if n.toList.head? = some '.' then .error (.traversal n)
      else .ok (session.cwd.join ⟨name.bytes⟩) := by
  obtain ⟨hcanonicalize, hinside, hfind⟩ := h.leads hsettled hwithin (by simp)
  split
  · next hdot =>
      rw [Navigation.changeDirectory, hsay.isEmpty, TargetShape.isTraversal_name hsay.text, hdot]
      rfl
  · next hdot =>
      refine Navigation.changeDirectory_eq_ok_iff.mpr ⟨hsay.isEmpty, ?_, ?_, hinside, ?_⟩
      · rw [TargetShape.isTraversal_name hsay.text]
        simpa using hdot
      · rwa [Navigation.clientPath_name hsay.text]
      · rw [Tree.isDir, hfind]
        rfl

end

/-! ## The listing -/

theorem Sink.TakesAll.reach {sink : Sink} (h : sink.TakesAll) (count : Nat) :
    sink.reach count = count := by
  rw [Sink.reach, if_neg h.perWrite, h.room, Option.getD_none, Nat.min_self]

/-! ## What the lines come to -/

section
variable {conditions : Conditions} {session : Session} {channel : PassiveChannel} {sink : Sink}

end

namespace Conversation

section
variable (client : SocketAddress) {world : Nat → Conditions} {c : Conversation}

end

end Conversation

end PassiveFtp
