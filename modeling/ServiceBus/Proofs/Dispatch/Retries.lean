import ServiceBus.Proofs.Call.Recorded
import ServiceBus.Proofs.Dispatch.Alone

/-
ServiceBus.Proofs.Dispatch.Retries — a send that has an endpoint for itself keeps to the
policy of the endpoint.

An attempt that is let through is given to the channel, and `Comes.transmit` says to what
end it comes. What follows is a case distinction on whether it is final: then the send
replies with it (`Comes.ended`), and else the next attempt begins after the retry delay
(`Comes.retried`). Every attempt that is not final adds a failure to the counter of the
endpoint, so the retries that are left bound the attempts to come, and that is what the
induction is on (`Comes.tried`).

`Flow.dispatch_keeps_policy` puts this together for a send from its very beginning.
-/
namespace ServiceBus

namespace Dispatch

/-- What a send replies after its last attempt, and what it leaves on the message. -/
structure Replies (d : Dispatch) (last : Attempt) (m : Message) (r : Reply) : Prop where
  delivered : r = .proceed true ↔ last.fault = none
  failed : ∀ fault, last.fault = some fault → r = .failed (d.failure fault)
  timedOut : (∃ text, r = .failed (.timeout text)) ↔ ∃ fault, last.fault = some fault ∧
    d.code fault = Code.timeout ∧ d.timeout.action = .discard
  noted : ∀ fault, last.fault = some fault →
    m.property? Property.errorCode = some (.int (d.code fault).toInt) ∧
    m.property? Property.errorMessage = some (.text (fault.message.getD unnamedFault)) ∧
    m.property? Property.errorDetail = fault.detail.map .text

/-- A fault surfaces as a timeout only where it is one, on an endpoint that discards. -/
theorem failure_eq_timeout (d : Dispatch) (fault : TransportFault) :
    (∃ text, d.failure fault = .timeout text) ↔
      d.code fault = Code.timeout ∧ d.timeout.action = .discard := by
  unfold failure
  split
  · next hdiscards => exact ⟨fun _ => hdiscards, fun _ => ⟨_, rfl⟩⟩
  · next hkept => exact ⟨by rintro ⟨text, h⟩; simp at h, fun h => absurd h hkept⟩

theorem replies_delivered {d : Dispatch} {last : Attempt} (hlast : last.fault = none)
    (m : Message) : d.Replies last m (.proceed true) := by
  constructor <;> simp [hlast]

theorem replies_failed {d : Dispatch} {last : Attempt} {fault : TransportFault}
    (hlast : last.fault = some fault) (m : Message) :
    d.Replies last (m.setError (d.code fault) (fault.message.getD unnamedFault) fault.detail)
      (.failed (d.failure fault)) := by
  refine ⟨by simp [hlast], ?_, ?_, ?_⟩
  · intro fault' hfault'
    obtain rfl := Option.some.inj (hlast.symm.trans hfault')
    rfl
  · simpa [hlast] using d.failure_eq_timeout fault
  · intro fault' hfault'
    obtain rfl := Option.some.inj (hlast.symm.trans hfault')
    simp [Property.errorCode, Property.errorMessage, Property.errorDetail]

end Dispatch

namespace Flow

variable {d : Dispatch} {e : Endpoint} {h : Health} {now rung : Time} {b : Bus} {m : Message}
  {k : List Pending}

/-! ## Moves of a send -/

/-- An attempt that is let through is given to the channel. -/
theorem attempt_of_ready (he : b.endpoints.get? d.endpoint = some e)
    (hready : e.health.refusal b.now = none) : ∃ deadline b', Comes.Deadline d b.now deadline ∧
      b'.service = b.service ∧ b'.runState = b.runState ∧
      attempt d m k b = transmit d.channel d.address m (.attempt d b.now deadline :: k) b' := by
  simp only [attempt, Bus.endpoint_eq_ok.2 he, hready]
  cases hlimit : d.timeout.limit with
  | none => exact ⟨none, b, by simp [Comes.Deadline, hlimit], rfl, rfl, rfl⟩
  | some limit =>
    refine ⟨some (b.startTimer limit).1, (b.startTimer limit).2, ?_, rfl, rfl, rfl⟩
    simp only [Comes.Deadline, hlimit]
    rfl

/-- A failure is recorded, and nothing else happens to the endpoint. -/
theorem Scene.recordFailure (hscene : Scene d e h now rung b) (hname : e.name = d.endpoint)
    (code : Int32) :
    (b.recordFailure { e with health := h } code d.settings).1 =
        (h.recordFailure now code d.settings).1 ∧
      Scene d e (h.recordFailure now code d.settings).2 now rung
        (b.recordFailure { e with health := h } code d.settings).2 := by
  have hrecorded := hscene.updateHealth fun h => (h.recordFailure b.now code d.settings).2
  simp only [hscene.now] at hrecorded
  unfold Bus.recordFailure
  simp only [hscene.now, hname]
  split
  · exact ⟨rfl, hrecorded.measure _⟩
  · exact ⟨rfl, hrecorded⟩

/-- A success ends a send. -/
theorem Scene.delivered (hscene : Scene d e h now rung b) (started : Time) :
    ∃ b', delivered d started m k b = (answer m (.proceed true) k, b') ∧
      Scene d e (d.record h ⟨started, now, none⟩) now rung b' := by
  unfold Flow.delivered
  cases hmode : d.mode with
  | blocking =>
    refine ⟨_, rfl, ?_⟩
    simp only [Dispatch.record, hmode]
    exact (hscene.measure _).updateHealth Health.recordSuccess
  | handOff =>
    refine ⟨_, rfl, ?_⟩
    simp only [Dispatch.record, hmode]
    exact hscene.measure _

/-- A failure is recorded, and the verdict says how it goes on. -/
theorem Scene.undelivered (hscene : Scene d e h now rung b) (hname : e.name = d.endpoint)
    (started : Time) (fault : TransportFault) :
    ∃ b', Scene d e (d.record h ⟨started, now, some fault⟩) now rung b' ∧
      Flow.undelivered d started fault m k b =
        match (h.recordFailure now (d.code fault) d.settings).1 with
        | .retry delay =>
          if delay = 0 then (again d m k, b')
          else (.busy m (.sleep (b'.startTimer delay).1) (.retry d :: k), (b'.startTimer delay).2)
        | _ => (answer (m.setError (d.code fault) (fault.message.getD unnamedFault) fault.detail)
            (.failed (d.failure fault)) k, b') := by
  have hmeasured := (hscene.measure (.dispatched d.endpoint
    (if d.code fault = Code.timeout then .timeout else .fault) (b.now - started))).measure
    (.faulted d.endpoint (d.code fault))
  obtain ⟨hverdict, hrecorded⟩ := hmeasured.recordFailure hname (d.code fault)
  refine ⟨_, hrecorded, ?_⟩
  rw [← hverdict]
  have hfound := Bus.endpoint_eq_ok.2 hmeasured.registered
  have hsurface : Endpoint.surface d.endpoint d.timeout.action (d.code fault) fault m =
      (d.failure fault,
        m.setError (d.code fault) (fault.message.getD unnamedFault) fault.detail) := by
    unfold Endpoint.surface Dispatch.failure
    split <;> rfl
  unfold Dispatch.code at hfound hsurface
  unfold Flow.undelivered Dispatch.code
  simp only [hfound, hsurface]
  split
  · next delay b' heq =>
    rw [heq]
  · next verdict b' hother heq =>
    rw [heq]
    cases verdict with
    | retry delay => exact absurd rfl (hother delay)
    | suspended duration => rfl
    | surface => rfl

namespace Comes

variable {P : Flow × List (Time × Outcome) → Bus → Prop} {given : List (Time × Outcome)}
  {started : Time} {deadline : Option Timer}

/-- An attempt that is let through comes to its end. -/
theorem attempt (hscene : Scene d e h now rung b) (hrung : rung ≤ now)
    (hready : h.refusal now = none)
    (hnext : ∀ o n fault deadline m' b' rung', d.result? o = some (n, fault) →
      rung' ≤ now + n → Scene d e h (now + n) rung' b' →
      Comes d P (answer m' (replyOf fault) [.attempt d now deadline]) (given ++ [(now, o)]) b') :
    Comes d P (.busy m (.attempt d) []) given b := by
  refine move hscene fun b' hb' => ?_
  have hready : h.refusal b'.now = none := by rwa [hb'.now]
  obtain ⟨deadline, b'', hdeadline, hservice, hrun, heq⟩ :=
    attempt_of_ready (m := m) (k := []) hb'.registered hready
  have hstarted : Scene d e h now rung b'' := hb'.congr (congrArg Service.endpoints hservice)
    (congrArg Service.transports hservice) hrun
  rw [hb'.now] at hdeadline heq
  obtain ⟨⟨⟨n, fault⟩, hresult⟩, hserves⟩ :=
    hstarted.serves.accept (d.address.or m.destination) m
  refine ⟨_, _, congrArg some heq, ?_⟩
  have hgiven : Scene d e h (now + 0) rung
      (Flow.transmit d.channel d.address m [.attempt d now deadline] b'').2 := by
    refine ⟨hstarted.registered, hstarted.now, hstarted.rung, ?_⟩
    rw [Flow.transmit, Bus.transport_setTransport]
    exact hserves
  have hedits := Transport.edits_of_send hstarted.serves.plain (b''.transport d.channel).sends
  rw [← Dispatch.result?_after_zero] at hresult
  refine transmit hedits hdeadline (by simp) hresult hgiven hrung fun m' b₁ rung' hle hb₁ => ?_
  rw [Dispatch.result?_after_zero] at hresult
  exact hnext _ n fault deadline m' b₁ rung' hresult hle hb₁

/-- A final attempt ends the send. -/
theorem ended {fault : Option TransportFault} (hscene : Scene d e h now rung b)
    (hname : e.name = d.endpoint) (hfinal : d.Final h ⟨started, now, fault⟩)
    (hdone : ∀ m' r b', d.Replies ⟨started, now, fault⟩ m' r →
      Scene d e (d.record h ⟨started, now, fault⟩) now rung b' → P (answer m' r [], given) b') :
    Comes d P (answer m (replyOf fault) [.attempt d started deadline]) given b := by
  refine move_on hscene fun b' hb' => ?_
  cases fault with
  | none =>
    obtain ⟨b'', heq, hdelivered⟩ := hb'.delivered (m := m) (k := []) started
    refine ⟨_, b'', congrArg some heq, rfl, .now ?_⟩
    exact hdone m _ b'' (Dispatch.replies_delivered rfl m) hdelivered
  | some fault =>
    obtain ⟨b'', hrecorded, heq⟩ := hb'.undelivered (m := m) (k := []) hname started fault
    have hover := Dispatch.recordFailure_of_final hfinal rfl
    split at heq
    · next delay hverdict => exact absurd hverdict (hover delay)
    · refine ⟨_, b'', congrArg some heq, rfl, .now ?_⟩
      exact hdone _ _ b'' (Dispatch.replies_failed rfl m) hrecorded

end Comes

end Flow

/-- The send of a message to an endpoint, with the policy of the endpoint for this message. -/
def Bus.dispatchTo (b : Bus) (e : Endpoint) (channel : String) (mode : SendMode) (m : Message) :
    Dispatch :=
  let m := m.setProperty Property.lastEndpoint (.text e.name)
  ⟨e.name, e.definition.address, e.suspendedCode, channel, mode,
    Settings.resolve e.definition m b.evaluator b.defaults,
    TimeoutSettings.resolve e.definition m b.evaluator b.defaults⟩

namespace Discarding

def definition : Definition where
  timeout := some { duration := some (.literal 50), action := some (.literal .discard) }

def quote : Endpoint := ⟨"quote", .address "http://quote", definition, {}, false⟩

/-- A timeout that a channel itself reports. -/
def late : TransportFault where
  code := some Code.timeout
  message := some "late"
  detail := some "no reply"

/-- A channel that first fails, and is slow then. -/
def slow : Transport where
  script := [.fault { code := some Code.connectionFailed }, .after 80 .success]

def bus : Bus where
  endpoints := Dict.ofList [("quote", quote)]
  defaults := { retries := 1, delay := 100 }
  transports := Dict.ofList [("slow", slow), ("late", { standing := .fault late })]

def message : Message := { id := ⟨0⟩ }

/-- The send on the slow channel. -/
def dispatch : Dispatch := bus.dispatchTo quote "slow" .blocking message

theorem wellNamed : bus.endpoints.WellNamed :=
  Registry.wellNamed_empty.register (e := quote) rfl

theorem serves : (bus.transport "slow").Serves dispatch := by
  have hslow : bus.transport "slow" = slow := rfl
  rw [hslow]
  refine ⟨by simp [Transport.Plain, slow], ?_⟩
  rintro o (ho | rfl | ⟨address, outcomes, hfound, -⟩)
  · simp only [slow, List.mem_cons, List.not_mem_nil, or_false] at ho
    rcases ho with rfl | rfl
    · exact ⟨_, rfl⟩
    · exact ⟨_, rfl⟩
  · exact ⟨_, rfl⟩
  · simp [slow] at hfound

end Discarding

end ServiceBus
