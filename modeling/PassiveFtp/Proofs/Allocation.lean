import Mathlib
import PassiveFtp.Proofs.PassiveLifecycle

/-!
# An allocation comes to what its last attempt comes to

Opening a listener takes seven calls, and any of them can fail. Only a bind that
fails is worth another port; everything else settles the matter. So the attempts
of an allocation are a run of ports that are taken and then one attempt more, and
the run is only longer than the ports that may be tried if that last one is taken
too.

`allocate` is told what became of each attempt. Here an attempt is taken apart
into its calls, with the sockets they open, and the loop carries the failure of
the last bind along, with another one to tell if there should be none. That other
one is never told, because a limit of none still is one attempt, and a socket
outlives its attempt only as the listener that is returned.
-/

namespace PassiveFtp

/-- The calls that make a listener, in the order they are made. -/
inductive SocketCall where
  | create
  | reuseAddress
  | bind
  | listen
  | setNonblocking
  | register
  | localAddress
deriving DecidableEq

namespace SocketCall

def inOrder : List SocketCall :=
  [.create, .reuseAddress, .bind, .listen, .setNonblocking, .register, .localAddress]

/-- The failure of an attempt at an address when a call fails. -/
def failure (address : SocketAddress) (e : IoError) : SocketCall → TransferError
  | .bind => .portBindingFailed address e
  | _ => .listenerConfigurationFailed e

/-- What became of an attempt when a call failed. -/
def opening (e : IoError) : SocketCall → Opening
  | .bind => .bindFailed e
  | _ => .configurationFailed e

end SocketCall

/-- The sockets of the process, numbered as they are asked for, and which of them
are open. -/
structure Sockets where
  asked : Nat
  opened : List Nat

/-- One attempt to open a listener, with what each call would fail with. -/
structure Trial where
  port : UInt16
  error? : SocketCall → Option IoError

namespace Trial

/-- The first call that fails, which is the last that is made. -/
def failure? (trial : Trial) : Option (SocketCall × IoError) :=
  SocketCall.inOrder.findSome? fun call => (trial.error? call).map (call, ·)

/-- What is told of the attempt when it is over. -/
def attempt (trial : Trial) : Attempt where
  port := trial.port
  opening :=
    match trial.failure? with
    | none => .opened
    | some (call, e) => call.opening e

/-- Makes the calls. The socket belongs to the attempt, so it is closed with it
unless there is a listener to go on with. -/
def listen (ip : Ipv4) (trial : Trial) (sockets : Sockets) :
    Except TransferError PassiveChannel × Sockets :=
  let socket := sockets.asked
  let holding : Sockets := ⟨socket + 1, socket :: sockets.opened⟩
  match trial.failure? with
  | none => (.ok ⟨ip, trial.port⟩, holding)
  | some (.create, e) => (.error (.listenerConfigurationFailed e), ⟨socket + 1, sockets.opened⟩)
  | some (call, e) =>
    (.error (call.failure (.v4 ip trial.port) e),
      { holding with opened := holding.opened.erase socket })

end Trial

namespace PassiveChannel

/-- The loop of an allocation, from attempt number `next` on: how many attempts
may still be made, and the failure of the one before. -/
def search (ip : Ipv4) (trials : Nat → Trial) (next : Nat) :
    Nat → Option TransferError → Sockets → Except TransferError PassiveChannel × Sockets
  | 0, last?, sockets => (.error (last?.getD .noInterfaceAddress), sockets)
  | more + 1, _, sockets =>
    match (trials next).listen ip sockets with
    | (.error (.portBindingFailed address e), sockets) =>
      search ip trials (next + 1) more (some (.portBindingFailed address e)) sockets
    | settled => settled

/-- An allocation call by call. -/
def allocateOn (ip : Ipv4) (limit : Nat) (trials : Nat → Trial) (sockets : Sockets) :
    Except TransferError PassiveChannel × Sockets :=
  search ip trials 0 (max limit 1) none sockets

end PassiveChannel

/-- An attempt finds its port taken. -/
def Attempt.IsTaken (attempt : Attempt) : Prop :=
  ∃ e, attempt.opening = .bindFailed e

/-! ## One attempt -/

namespace Trial

/-- Whatever an attempt may come to, some calls bring it about. -/
theorem attempt_surjective : Function.Surjective attempt := by
  intro ⟨port, opening⟩
  cases opening with
  | opened => exact ⟨⟨port, fun _ => none⟩, rfl⟩
  | bindFailed e => exact ⟨⟨port, fun call => if call = .bind then some e else none⟩, rfl⟩
  | configurationFailed e =>
      exact ⟨⟨port, fun call => if call = .listen then some e else none⟩, rfl⟩

/-- An attempt asks for one socket, and leaves it open exactly if it succeeds. -/
theorem listen_eq (ip : Ipv4) (trial : Trial) (sockets : Sockets) :
    trial.listen ip sockets =
      match trial.attempt.opening with
      | .opened =>
        (.ok ⟨ip, trial.port⟩, ⟨sockets.asked + 1, sockets.asked :: sockets.opened⟩)
      | .bindFailed e =>
        (.error (.portBindingFailed (.v4 ip trial.port) e), ⟨sockets.asked + 1, sockets.opened⟩)
      | .configurationFailed e =>
        (.error (.listenerConfigurationFailed e), ⟨sockets.asked + 1, sockets.opened⟩) := by
  simp only [listen, attempt]
  cases trial.failure? with
  | none => rfl
  | some failed =>
      obtain ⟨call, e⟩ := failed
      cases call <;> simp [SocketCall.opening, SocketCall.failure]

theorem asked_listen (ip : Ipv4) (trial : Trial) (sockets : Sockets) :
    (trial.listen ip sockets).2.asked = sockets.asked + 1 := by
  rw [listen_eq]
  cases trial.attempt.opening <;> rfl

theorem listen_ne_noInterfaceAddress (ip : Ipv4) (trial : Trial) (sockets : Sockets) :
    (trial.listen ip sockets).1 ≠ .error .noInterfaceAddress := by
  rw [listen_eq]
  cases trial.attempt.opening <;> simp

theorem listen_fst (ip : Ipv4) (trial : Trial) (sockets : Sockets) :
    (trial.listen ip sockets).1 = PassiveChannel.listen ip trial.attempt := by
  rw [listen_eq, PassiveChannel.listen]
  cases trial.attempt.opening <;> rfl

end Trial

/-! ## All attempts -/

namespace PassiveChannel

variable {ip : Ipv4} {trials : Nat → Trial} {next : Nat}

theorem search_of_taken {e : IoError} (h : (trials next).attempt.opening = .bindFailed e)
    (more : Nat) (last? : Option TransferError) (sockets : Sockets) :
    search ip trials next (more + 1) last? sockets =
      search ip trials (next + 1) more (some (.portBindingFailed (.v4 ip (trials next).port) e))
        ⟨sockets.asked + 1, sockets.opened⟩ := by
  rw [search, Trial.listen_eq, h]

theorem search_of_settled (h : ¬ (trials next).attempt.IsTaken) (more : Nat)
    (last? : Option TransferError) (sockets : Sockets) :
    search ip trials next (more + 1) last? sockets = (trials next).listen ip sockets := by
  rw [search, Trial.listen_eq]
  cases hopening : (trials next).attempt.opening with
  | opened => rfl
  | bindFailed e => exact absurd ⟨e, hopening⟩ h
  | configurationFailed e => rfl

/-- All attempts but the last find their port taken and leave nothing but a number
behind. The last one finds its port taken only if no more may be made. -/
theorem search_eq_listen (ip : Ipv4) (trials : Nat → Trial) (next more : Nat)
    (last? : Option TransferError) (sockets : Sockets) :
    ∃ last, next ≤ last ∧ last ≤ next + more ∧
      (∀ i, next ≤ i → i < last → (trials i).attempt.IsTaken) ∧
      ((trials last).attempt.IsTaken → last = next + more) ∧
      search ip trials next (more + 1) last? sockets =
        (trials last).listen ip ⟨sockets.asked + (last - next), sockets.opened⟩ := by
  -- On the attempts left, for any failure carried along: that is another one in every turn.
  induction more generalizing next last? sockets with
  | zero =>
      refine ⟨next, Nat.le_refl _, Nat.le_refl _, fun i hle hlt => by omega, fun _ => rfl, ?_⟩
      rw [Nat.sub_self]
      by_cases htaken : (trials next).attempt.IsTaken
      · obtain ⟨e, he⟩ := htaken
        rw [search_of_taken he, search, Trial.listen_eq, he]
        rfl
      · exact search_of_settled htaken 0 last? sockets
  | succ more ih =>
      by_cases htaken : (trials next).attempt.IsTaken
      · obtain ⟨e, he⟩ := htaken
        obtain ⟨last, hlow, hhigh, hbefore, hlast, hsearch⟩ := ih (next + 1)
          (some (.portBindingFailed (.v4 ip (trials next).port) e))
          ⟨sockets.asked + 1, sockets.opened⟩
        refine ⟨last, by omega, by omega, ?_, ?_, ?_⟩
        · intro i hle hlt
          rcases Nat.eq_or_lt_of_le hle with rfl | hlater
          · exact ⟨e, he⟩
          · exact hbefore i hlater hlt
        · intro h
          have := hlast h
          omega
        · have hasked :
              sockets.asked + 1 + (last - (next + 1)) = sockets.asked + (last - next) := by
            omega
          rw [search_of_taken he, hsearch, hasked]
      · refine ⟨next, Nat.le_refl _, by omega, fun i hle hlt => by omega,
          fun h => absurd h htaken, ?_⟩
        rw [Nat.sub_self]
        exact search_of_settled htaken (more + 1) last? sockets

theorem allocateFrom_of_settled {attempts : Nat → Attempt} (h : ¬ (attempts next).IsTaken)
    (more : Nat) : allocateFrom ip attempts next more = listen ip (attempts next) := by
  cases more with
  | zero => rfl
  | succ more =>
      rw [allocateFrom, listen]
      cases hopening : (attempts next).opening with
      | opened => rfl
      | bindFailed e => exact absurd ⟨e, hopening⟩ h
      | configurationFailed e => rfl

/-- The loop comes to what an allocation is said to come to. -/
theorem search_fst (ip : Ipv4) (trials : Nat → Trial) (next more : Nat)
    (last? : Option TransferError) (sockets : Sockets) :
    (search ip trials next (more + 1) last? sockets).1 =
      allocateFrom ip (fun i => (trials i).attempt) next more := by
  induction more generalizing next last? sockets with
  | zero =>
      by_cases htaken : (trials next).attempt.IsTaken
      · obtain ⟨e, he⟩ := htaken
        rw [search_of_taken he, search, allocateFrom, listen, he]
        rfl
      · rw [search_of_settled htaken, Trial.listen_fst, allocateFrom_of_settled htaken]
  | succ more ih =>
      by_cases htaken : (trials next).attempt.IsTaken
      · obtain ⟨e, he⟩ := htaken
        rw [search_of_taken he, ih, allocateFrom, listen, he]
      · rw [search_of_settled htaken, Trial.listen_fst, allocateFrom_of_settled htaken]

theorem allocateOn_fst (ip : Ipv4) (limit : Nat) (trials : Nat → Trial) (sockets : Sockets) :
    (allocateOn ip limit trials sockets).1 =
      allocate ip limit fun i => (trials i).attempt := by
  rw [allocateOn, show max limit 1 = limit - 1 + 1 by omega, search_fst, allocate]

end PassiveChannel

/-! ## Passive requests -/

theorem Dispatch.allocation_of_ip {settings : Settings} {conditions : Conditions} {ip : Ipv4}
    (h : settings.pasvIp?.or conditions.interface = some ip) :
    allocation settings conditions =
      PassiveChannel.allocate ip settings.pasvBindAttempts conditions.attempts := by
  rw [allocation, h]

/-- A passive request is answered by its allocation, and keeps a channel only if there
is one. -/
theorem dispatch_of_allocation {settings : Settings} {conditions : Conditions}
    {session : Session} {request : Request} (hpassed : Passed session request)
    (hverb : request.verb = .pasv) :
    let outcome := dispatch settings conditions session request
    (∀ channel, Dispatch.allocation settings conditions = .ok channel →
      outcome.session.passive = some channel ∧ outcome.codes = [227]) ∧
    ∀ e, Dispatch.allocation settings conditions = .error e →
      outcome.session.passive = none ∧ outcome.codes = [500] := by
  intro outcome
  have houtcome : outcome = Dispatch.pasv settings conditions session := by
    show dispatch settings conditions session request = _
    rw [dispatch_of_passed hpassed, Dispatch.handle, hverb]
  rw [houtcome]
  constructor
  · intro channel h
    simp only [Dispatch.pasv, h, codes_closing_append, true_and]
    simp only [Outcome.codes, Outcome.replies, List.filterMap_cons, Effect.reply?,
      channel.status?_reply, List.filterMap_nil]
  · intro e h
    simp only [Dispatch.pasv, h, Dispatch.replyCode_of_allocation h, codes_closing_append,
      true_and]
    rfl

namespace PassiveChannel

/-- An allocation makes one attempt at least and no more than it may. All its attempts
but the last find their port taken, and it comes to what the last one comes to: a
listener, a listener that cannot be set up, or once more a port that is taken, and
then no more attempts may be made. Of the sockets that were asked for on the way, that
of the listener is open and no other. A passive request is told of a listener with
227 and of any failure with 500. -/
theorem allocate_settled_by_last (ip : Ipv4) (limit : Nat) (trials : Nat → Trial)
    (sockets : Sockets) :
    let attempts := fun i => (trials i).attempt
    let found := allocateOn ip limit trials sockets
    found.1 = allocate ip limit attempts ∧
    (∃ last < max limit 1,
      found.2.asked = sockets.asked + (last + 1) ∧
      (∀ i < last, ∃ e, (attempts i).opening = .bindFailed e) ∧
      match (attempts last).opening with
      | .opened =>
        found.1 = .ok ⟨ip, (attempts last).port⟩ ∧
          found.2.opened = (sockets.asked + last) :: sockets.opened
      | .configurationFailed e =>
        found.1 = .error (.listenerConfigurationFailed e) ∧ found.2.opened = sockets.opened
      | .bindFailed e =>
        last + 1 = max limit 1 ∧
          found.1 = .error (.portBindingFailed (.v4 ip (attempts last).port) e) ∧
          found.2.opened = sockets.opened) ∧
    found.1 ≠ .error .noInterfaceAddress ∧
    ∀ (settings : Settings) (conditions : Conditions) (session : Session) (request : Request),
      settings.pasvIp?.or conditions.interface = some ip →
      Passed session request → request.verb = .pasv →
      let outcome := dispatch { settings with pasvBindAttempts := limit }
        { conditions with attempts } session request
      (∀ channel, found.1 = .ok channel →
        outcome.session.passive = some channel ∧ outcome.codes = [227]) ∧
      ∀ e, found.1 = .error e → outcome.session.passive = none ∧ outcome.codes = [500] := by
  intro attempts found
  have hfound : found.1 = allocate ip limit attempts := allocateOn_fst ip limit trials sockets
  obtain ⟨last, -, hhigh, hbefore, hlast, hsearch⟩ :=
    search_eq_listen ip trials 0 (limit - 1) none sockets
  rw [Nat.sub_zero] at hsearch
  have hmax : limit - 1 + 1 = max limit 1 := by omega
  have hlisten : found = (trials last).listen ip ⟨sockets.asked + last, sockets.opened⟩ := by
    show search ip trials 0 (max limit 1) none sockets = _
    rw [← hmax, hsearch]
  refine ⟨hfound, ⟨last, by omega, ?_, fun i hi => hbefore i (Nat.zero_le i) hi, ?_⟩, ?_, ?_⟩
  · rw [hlisten, Trial.asked_listen, Nat.add_assoc]
  · rw [hlisten, Trial.listen_eq]
    show match (trials last).attempt.opening with
      | .opened => _
      | .configurationFailed e => _
      | .bindFailed e => _
    cases hopening : (trials last).attempt.opening with
    | opened => exact ⟨rfl, rfl⟩
    | configurationFailed e => exact ⟨rfl, rfl⟩
    | bindFailed e =>
        have hexhausted := hlast ⟨e, hopening⟩
        exact ⟨by omega, rfl, rfl⟩
  · rw [hlisten]
    exact Trial.listen_ne_noInterfaceAddress ip (trials last) _
  · intro settings conditions session request hip hpassed hverb
    have hallocation : Dispatch.allocation { settings with pasvBindAttempts := limit }
        { conditions with attempts } = allocate ip limit attempts :=
      Dispatch.allocation_of_ip hip
    rw [hfound, ← hallocation]
    exact dispatch_of_allocation hpassed hverb

end PassiveChannel

end PassiveFtp
