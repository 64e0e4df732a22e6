import ServiceBus.Proofs.Dispatch.Channels
import ServiceBus.Proofs.Dispatch.History
import ServiceBus.Proofs.Health.Course

/-
ServiceBus.Proofs.Dispatch.FailFast — suspended endpoints get nothing.

While a send waits for a channel or for its next attempt, others may suspend its
endpoint. So each attempt asks the health anew, whatever came before it:
  - a channel is given a message only by a send without endpoint, or by an attempt at
    an endpoint whose suspension, if there is one, is over (`transports_of_step`);
  - an attempt that meets a suspension returns what is left of it, and changes neither
    the health of any endpoint nor a channel (`step_of_suspended`).

`fails_fast` says both of all histories of sends and replies on one bus.
-/
namespace ServiceBus

/-- The endpoint is suspended, and the suspension ends later. -/
def Health.SuspendedUntil (h : Health) (now deadline : Time) : Prop :=
  h.state = .suspended ∧ h.deadline = some deadline ∧ now < deadline

/-- A refused dispatch is told how long the suspension still lasts, in whole milliseconds. -/
theorem Health.refusal_of_suspendedUntil {h : Health} {now deadline : Time}
    (hs : h.SuspendedUntil now deadline) : h.refusal now = some (deadline - now).millis := by
  obtain ⟨hstate, hdeadline, hlater⟩ := hs
  have hrest : 0 < deadline - now := Time.sub_pos hlater
  rw [refusal, rest?_eq_some.2 ⟨hstate, hrest, ?_⟩]
  · rfl
  · rw [hdeadline, Time.add_sub_of_pos hrest]

theorem Health.not_suspendedUntil {h : Health} {now : Time} (hr : h.refusal now = none)
    (deadline : Time) : ¬ h.SuspendedUntil now deadline := by
  intro hs
  rw [refusal_of_suspendedUntil hs] at hr
  simp at hr

theorem Bus.transports_recordResponse (b : Bus) (name : String) :
    (b.recordResponse name).2.transports = b.transports := by
  unfold recordResponse
  split <;> rfl

theorem Bus.transports_recordFaultResponse (b : Bus) (name : String) (fault : TransportFault)
    (m : Message) : (b.recordFaultResponse name fault m).2.2.transports = b.transports := by
  unfold recordFaultResponse
  split
  · rfl
  · exact recordFailure_transports _ _ _

namespace Flow

/-- What a flow is about to do when it may give a message to a channel. -/
inductive MayTransmit (f : Flow) (b : Bus) : Prop where
  /-- A send without endpoint. -/
  | unaddressed {m : Message} {c : Call} {k : List Pending}
      (hacting : f.acting = .busy m (.mediate (.call c)) k) (hc : c.endpoint = none)
  /-- An attempt at an endpoint that is not suspended now. -/
  | attempt {m : Message} {d : Dispatch} {k : List Pending} {e : Endpoint}
      (hacting : f.acting = .busy m (.attempt d) k) (he : b.endpoints.get? d.endpoint = some e)
      (hready : ∀ deadline, ¬ e.health.SuspendedUntil b.now deadline)

variable {f f' : Flow} {m : Message} {d : Dispatch} {k : List Pending} {b b' : Bus} {e : Endpoint}

/-- A refused attempt leaves the channels alone. -/
theorem attempt_of_refusal {remaining : Nat} (he : b.endpoints.get? d.endpoint = some e)
    (hr : e.health.refusal b.now = some remaining) :
    attempt d m k b = (answer m (.failed (.suspended d.endpoint d.suspendedCode remaining)) k,
      b.measure (.dispatched d.endpoint .suspended 0)) := by
  simp only [attempt, Bus.endpoint_eq_ok.2 he, hr]

/-- A channel takes a message only from a send without endpoint, or for an endpoint that is not
suspended. -/
theorem transports_of_step (h : f.step b = some (f', b')) :
    b'.transports = b.transports ∨ f.MayTransmit b := by
  obtain hservice | ⟨m, task, k, g, hacting, hloud, hw, -⟩ := service_of_step f h
  · exact .inl (congrArg Service.transports hservice)
  · cases hloud with
    | implicit hc => exact .inr (.unaddressed hacting hc)
    | ended r d started deadline k =>
      have hended := transports_ended r d started deadline m k b
      obtain hw : some (resume r m (.attempt d started deadline) k b) = some (g, b') := hw
      rw [Option.some.inj hw] at hended
      exact .inl hended
    | attempt d =>
      obtain hw : some (attempt d m k b) = some (g, b') := hw
      cases he : b.endpoints.get? d.endpoint with
      | none =>
        have hmissing : b.endpoint d.endpoint = .error (.unknownEndpoint d.endpoint) := by
          simp [Bus.endpoint, he]
        simp only [attempt, hmissing] at hw
        obtain ⟨-, rfl⟩ := Prod.mk.inj (Option.some.inj hw)
        exact .inl rfl
      | some e =>
        cases hr : e.health.refusal b.now with
        | none => exact .inr (.attempt hacting he (Health.not_suspendedUntil hr))
        | some remaining =>
          rw [attempt_of_refusal he hr] at hw
          obtain ⟨-, rfl⟩ := Prod.mk.inj (Option.some.inj hw)
          exact .inl rfl

/-- An attempt that meets a suspension returns what is left of it. -/
theorem step_of_suspended {deadline : Time} (hacting : f.acting = .busy m (.attempt d) k)
    (he : b.endpoints.get? d.endpoint = some e) (hs : e.health.SuspendedUntil b.now deadline) :
    ∃ f' b', f.step b = some (f', b') ∧
      f'.acting = answer m
        (.failed (.suspended d.endpoint d.suspendedCode (deadline - b.now).millis)) k ∧
      b'.endpoints = b.endpoints ∧ b'.transports = b.transports := by
  have hattempt := attempt_of_refusal (m := m) (k := k) he (Health.refusal_of_suspendedUntil hs)
  have hw : work m (.attempt d) k b = some (_, _) := congrArg some hattempt
  obtain ⟨f', hstep, hacting'⟩ := step_of_acting f hacting rfl hw
  exact ⟨f', _, hstep, hacting', rfl, rfl⟩

/-- A send begins with attempts at what its name stands for. -/
theorem dispatch_of_concrete {name : String} (he : b.concrete name = .ok e) (channel : String)
    (mode : SendMode) (m : Message) (k : List Pending) :
    ∃ m' d, (dispatch name channel mode m k b).1 = .busy m' (.attempt d) k ∧
      d.endpoint = e.name := by
  unfold dispatch
  rw [he]
  exact ⟨_, _, rfl, rfl⟩

end Flow

namespace Dispatching

/-- Whatever has happened on the bus: no step gives a message to a channel for an endpoint that
is suspended until later; every send begins with attempts at the endpoint that its name
stands for in the end; and every attempt, whether it is the first one of its send or not,
that finds its endpoint suspended returns with the name of the endpoint, the code of
its kind and the time left in whole milliseconds, and leaves the health of all endpoints
and the channels alone. -/
theorem fails_fast {start : Bus} {past : List Event} {t : Traffic}
    (hnamed : start.endpoints.WellNamed) (h : History start past t) :
    (∀ ev t', Step t ev t' → t'.bus.transports = t.bus.transports ∨
      ∃ before f f' after, t.flows = before ++ f :: after ∧ t'.flows = before ++ f' :: after ∧
        f.step t.bus = some (f', t'.bus) ∧ f.MayTransmit t.bus) ∧
    (∀ name e, t.bus.concrete name = .ok e → ∀ channel mode m k, ∃ m' d,
      (Flow.dispatch name channel mode m k t.bus).1 = .busy m' (.attempt d) k ∧
        d.endpoint = e.name) ∧
    ∀ f ∈ t.flows, ∀ m d k, f.acting = .busy m (.attempt d) k →
      ∃ e, t.bus.endpoints.get? d.endpoint = some e ∧ e.Concrete ∧ e.name = d.endpoint ∧
        ∀ deadline, e.health.SuspendedUntil t.bus.now deadline → ∃ f' b',
          f.step t.bus = some (f', b') ∧
            f'.acting = Flow.answer m
              (.failed (.suspended e.name e.suspendedCode (deadline - t.bus.now).millis)) k ∧
            b'.endpoints = t.bus.endpoints ∧ b'.transports = t.bus.transports := by
  obtain ⟨hevolves, hmeets⟩ := h.evolves_meets hnamed
  refine ⟨fun ev t' hs => ?_, fun name e he channel mode m k =>
    Flow.dispatch_of_concrete he channel mode m k, fun f hf m d k hacting => ?_⟩
  · cases hs with
    | @move b b' f f' before after hmove =>
      obtain hsame | hmay := Flow.transports_of_step hmove
      · exact .inl hsame
      · exact .inr ⟨before, f, f', after, rfl, rfl, hmove, hmay⟩
    | send flows name channel mode m =>
      exact .inl (congrArg Service.transports (service_dispatch ..))
    | start flows _ => exact .inl rfl
    | drop before after f => exact .inl rfl
    | @response b flows name => exact .inl (b.transports_recordResponse name)
    | @fault b flows name fault m => exact .inl (b.transports_recordFaultResponse name fault m)
    | elsewhere flows hservice => exact .inl (congrArg Service.transports hservice)
  · have hf := (hmeets f hf).acting
    rw [hacting] at hf
    cases hf with
    | busy htask _ =>
      obtain ⟨e, he, hconcrete, hcode, -⟩ := htask d rfl
      have hname : e.name = d.endpoint := (hevolves.wellNamed hnamed) _ e he
      refine ⟨e, he, hconcrete, hname, fun deadline hs => ?_⟩
      rw [hname, ← hcode]
      exact Flow.step_of_suspended hacting he hs

/-! ## A send that is overtaken while it waits for its next attempt -/

namespace Overtaken

open Quote

/-- The bus at a later time. -/
def later (b : Bus) (now : Time) : Bus := { b with now, rung := now }

/-- The first send begins, fails once and waits. -/
def begun : Flow × Bus := Flow.dispatch "front" "wire" .blocking { id := ⟨0⟩ } [] bus

def waiting : Flow × Bus := begun.1.run 3 begun.2

/-- The second send begins later, fails once and suspends the endpoint. -/
def other : Flow × Bus :=
  Flow.dispatch "quote" "wire" .blocking { id := ⟨1⟩ } [] (later waiting.2 50)

def failed : Flow × Bus := other.1.run 3 other.2

/-- The first send is about to make its next attempt. -/
def awake : Flow × Bus := waiting.1.run 2 (later failed.2 100)

theorem history : ∃ past, History bus past ⟨awake.2, [failed.1, awake.1]⟩ := by
  -- a step at a later time
  have passes {past : List Event} {b : Bus} {flows : List Flow} (now : Time)
      (h : History bus past ⟨b, flows⟩) : ∃ past', History bus past' ⟨later b now, flows⟩ :=
    ⟨_, h.step (.elsewhere flows rfl)⟩
  obtain ⟨_, h⟩ := History.run [] [] 3
    (.step .fresh (.send [] "front" "wire" .blocking { id := ⟨0⟩ }))
  obtain ⟨_, h⟩ := passes 50 h
  obtain ⟨_, h⟩ := History.run [] _ 3 (h.step (.send _ "quote" "wire" .blocking { id := ⟨1⟩ }))
  obtain ⟨_, h⟩ := passes 100 h
  exact History.run [failed.1] [] 2 h

/-- The next attempt of the first send is refused for the rest of the suspension. -/
theorem fails_fast_overtaken :
    bus.endpoints.WellNamed ∧ (∃ past, History bus past ⟨awake.2, [failed.1, awake.1]⟩) ∧
      ∃ f' b' m, awake.1.step awake.2 = some (f', b') ∧
        f'.acting = Flow.answer m
          (.failed (.suspended "quote" Code.addressEndpointSuspended 9950)) [] ∧
        b'.endpoints = awake.2.endpoints ∧ b'.transports = awake.2.transports := by
  obtain ⟨past, h⟩ := history
  refine ⟨wellNamed, ⟨past, h⟩, ?_⟩
  obtain ⟨-, -, hrefused⟩ := fails_fast wellNamed h
  obtain ⟨e, he, -, -, hsuspended⟩ := hrefused awake.1 (by simp) _ _ [] rfl
  obtain rfl := Option.some.inj he
  obtain ⟨f', b', hstep, hacting, hendpoints, htransports⟩ :=
    hsuspended 10050 ⟨rfl, rfl, by decide⟩
  exact ⟨f', b', _, hstep, hacting, hendpoints, htransports⟩

end Overtaken

end Dispatching

end ServiceBus
