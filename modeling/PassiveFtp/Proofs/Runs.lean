import PassiveFtp.Proofs.Handled

/-!
# Runs of requests

A run is a list of turns, and a turn is a request with everything the outside
contributes while it is handled: the tree, the fate of listeners, who connects.
Nothing ties one turn's tree to the next, so a theorem about every run is a
theorem about every way the tree changes in between.

`Session.after` is the state a run leaves. Requests are handed over as they are,
also after one that closes the connection, so a run here may be longer than any
conversation.
-/

namespace PassiveFtp

/-- A request, and what the outside contributes while it is handled. -/
structure Turn where
  conditions : Conditions
  request : Request

/-- What a turn comes to in a session. -/
def Turn.outcome (settings : Settings) (session : Session) (turn : Turn) : Outcome :=
  dispatch settings turn.conditions session turn.request

namespace Session

/-- The session after some turns. -/
def after (settings : Settings) (session : Session) (turns : List Turn) : Session :=
  turns.foldl (fun session turn => (turn.outcome settings session).session) session

theorem after_nil (settings : Settings) (session : Session) : session.after settings [] = session :=
  rfl

theorem after_cons (settings : Settings) (session : Session) (turn : Turn) (rest : List Turn) :
    session.after settings (turn :: rest) =
      (turn.outcome settings session).session.after settings rest :=
  rfl

/-- What each turn of a run keeps, the run keeps. -/
theorem after_invariant {settings : Settings} {session : Session} {turns : List Turn}
    {Inv : Session → Prop} (hstart : Inv session)
    (hturn : ∀ turn ∈ turns, ∀ session, Inv session → Inv (turn.outcome settings session).session) :
    Inv (session.after settings turns) := by
  induction turns generalizing session with
  | nil => exact hstart
  | cons turn rest ih =>
      rw [after_cons]
      refine ih (hturn turn (by simp) session hstart) fun next hnext => ?_
      exact hturn next (List.mem_cons_of_mem turn hnext)

end Session

end PassiveFtp
