import ServiceBus.Proofs.Dispatch.Underway
import ServiceBus.Proofs.Traffic.History

/-
ServiceBus.Proofs.Dispatch.History — sends and replies that take turns on one bus.

`Dispatching.Step` is one move of any of the flows under way, a send that begins, any
other flow that begins, the giving up of a flow, a reply or a fault that arrives on the
response path, or anything else, such as the passing of time.
`Dispatching.History start past t` says that `t` may come about from the bus `start`,
with the events `past` in this order: attempts that ended, and replies and faults that
arrived.

What an event does to the endpoints and to the measurements of failures is its
`Effect`; every step has the effect of its event (`Step.effect`). Along every history
nothing but the health of endpoints that stand for themselves changes, and all sends
under way go to such endpoints (`History.evolves_meets`).
-/
namespace ServiceBus

namespace Dispatching

/-- What the health of an endpoint takes notice of. -/
inductive Event where
  /-- An attempt succeeded. -/
  | delivered (endpoint : String) (mode : SendMode)
  /-- An attempt failed with a code. -/
  | undelivered (endpoint : String) (code : Int32)
  /-- A reply arrived on the response path. -/
  | responded (endpoint : String)
  /-- A fault arrived on the response path. -/
  | faulted (endpoint : String) (code : Int32)
deriving Repr, DecidableEq

end Dispatching

open Dispatching

/-- The event of the next move of a flow: an attempt that ends. -/
def Flow.attemptEnd? (f : Flow) : Option Event :=
  match f.acting with
  | .busy _ (.reply r) (.attempt d _ _ :: _) =>
    match r with
    | .refused fault => some (.undelivered d.endpoint (fault.code.getD d.mode.defaultCode))
    | _ => some (.delivered d.endpoint d.mode)
  | _ => none

namespace Dispatching

/-- The event of a reply that arrives under a name. -/
def responseEvent? (b : Bus) (name : String) : Option Event :=
  match b.concrete name with
  | .ok e => some (.responded e.name)
  | .error _ => none

/-- The event of a fault that arrives under a name. -/
def faultEvent? (b : Bus) (name : String) (fault : TransportFault) : Option Event :=
  match b.concrete name with
  | .ok e => some (.faulted e.name (fault.code.getD Code.handOffFailed))
  | .error _ => none

/-- One step, with the event that it is for the health of an endpoint. -/
inductive Step : Traffic → Option Event → Traffic → Prop where
  /-- A flow goes on. -/
  | move {b b' : Bus} {f f' : Flow} (before after : List Flow) (h : f.step b = some (f', b')) :
      Step ⟨b, before ++ f :: after⟩ f.attemptEnd? ⟨b', before ++ f' :: after⟩
  /-- A send begins. -/
  | send {b : Bus} (flows : List Flow) (name channel : String) (mode : SendMode) (m : Message) :
      Step ⟨b, flows⟩ none ⟨(Flow.dispatch name channel mode m [] b).2,
        (Flow.dispatch name channel mode m [] b).1 :: flows⟩
  /-- Any other flow begins, with no send under way. -/
  | start {b : Bus} (flows : List Flow) {f : Flow} (h : f.Meets fun _ => False) :
      Step ⟨b, flows⟩ none ⟨b, f :: flows⟩
  /-- A flow is given up. -/
  | drop {b : Bus} (before after : List Flow) (f : Flow) :
      Step ⟨b, before ++ f :: after⟩ none ⟨b, before ++ after⟩
  /-- A reply arrives on the response path. -/
  | response {b : Bus} (flows : List Flow) (name : String) :
      Step ⟨b, flows⟩ (responseEvent? b name) ⟨(b.recordResponse name).2, flows⟩
  /-- A fault arrives on the response path. -/
  | fault {b : Bus} (flows : List Flow) (name : String) (fault : TransportFault) (m : Message) :
      Step ⟨b, flows⟩ (faultEvent? b name fault) ⟨(b.recordFaultResponse name fault m).2.2, flows⟩
  /-- Time passes, or anything else happens that has nothing to do with sends. -/
  | elsewhere {b b' : Bus} (flows : List Flow) (h : b'.service = b.service) :
      Step ⟨b, flows⟩ none ⟨b', flows⟩

/-- What may come about from a bus, with the events on the way. -/
inductive History (start : Bus) : List Event → Traffic → Prop where
  | fresh : History start [] ⟨start, []⟩
  | step {past : List Event} {t t' : Traffic} {e : Option Event} (h : History start past t)
      (hs : Step t e t') : History start (past ++ e.toList) t'

/-! ## What an event changes -/

/-- What is measured of a verdict. -/
def measuredOf (endpoint : String) : Verdict → List Metric
  | .suspended _ => [.suspended endpoint]
  | _ => []

/-- A failure at an endpoint is recorded and measured: the health of the endpoint, and what is
added to the measurements of failures. -/
structure Fails (b b' : Bus) (endpoint : String) (code : Int32) (measured : List Metric) :
    Prop where
  recorded : ∃ e s, b.endpoints.get? endpoint = some e ∧ e.Concrete ∧
    b'.endpoints = Dict.modify b.endpoints endpoint
      (fun e => { e with health := (e.health.recordFailure b.now code s).2 }) ∧
    b'.service.log =
      measuredOf endpoint (e.health.recordFailure b.now code s).1 ++ measured ++ b.service.log

theorem Fails.of_service {b b' b'' : Bus} {endpoint : String} {code : Int32}
    {measured : List Metric} (h : Fails b b' endpoint code measured)
    (hservice : b''.service = b'.service) : Fails b b'' endpoint code measured := by
  obtain ⟨e, s, he, hc, hendpoints, hlog⟩ := h.recorded
  exact ⟨e, s, he, hc, (congrArg Service.endpoints hservice).trans hendpoints,
    (congrArg Service.log hservice).trans hlog⟩

/-- A success at an endpoint is recorded. -/
structure Succeeds (b b' : Bus) (endpoint : String) : Prop where
  registered : ∃ e, b.endpoints.get? endpoint = some e ∧ e.Concrete
  recorded : b'.endpoints = Dict.modify b.endpoints endpoint
    (fun e => { e with health := e.health.recordSuccess })
  log : b'.service.log = b.service.log

/-- What an event does to the endpoints and to the measurements of failures. -/
inductive Effect : Option Event → Bus → Bus → Prop where
  | still {b b' : Bus} (hendpoints : b'.endpoints = b.endpoints)
      (hlog : b'.service.log = b.service.log) : Effect none b b'
  /-- A hand-off that succeeds says nothing of the reply. -/
  | handedOff {b b' : Bus} (endpoint : String) (hendpoints : b'.endpoints = b.endpoints)
      (hlog : b'.service.log = b.service.log) : Effect (some (.delivered endpoint .handOff)) b b'
  | delivered {b b' : Bus} {endpoint : String} (h : Succeeds b b' endpoint) :
      Effect (some (.delivered endpoint .blocking)) b b'
  | responded {b b' : Bus} {endpoint : String} (h : Succeeds b b' endpoint) :
      Effect (some (.responded endpoint)) b b'
  | undelivered {b b' : Bus} {endpoint : String} {code : Int32} {outcome : DispatchOutcome}
      {elapsed : Time} (houtcome : outcome = .fault ∨ outcome = .timeout)
      (h : Fails b b' endpoint code
        [.faulted endpoint code, .dispatched endpoint outcome elapsed]) :
      Effect (some (.undelivered endpoint code)) b b'
  | faulted {b b' : Bus} {endpoint : String} {code : Int32}
      (h : Fails b b' endpoint code [.faulted endpoint code]) :
      Effect (some (.faulted endpoint code)) b b'

theorem Effect.of_service {b b' : Bus} (h : b'.service = b.service) : Effect none b b' :=
  .still (congrArg Service.endpoints h) (congrArg Service.log h)

theorem Effect.evolves {ev : Option Event} {b b' : Bus} (h : Effect ev b b') :
    b.endpoints.Evolves b'.endpoints := by
  have succeeds {endpoint : String} (h : Succeeds b b' endpoint) :
      b.endpoints.Evolves b'.endpoints := by
    obtain ⟨e, he, hc⟩ := h.registered
    rw [h.recorded]
    exact .modify he hc Health.recordSuccess
  have fails {endpoint : String} {code : Int32} {measured : List Metric}
      (h : Fails b b' endpoint code measured) : b.endpoints.Evolves b'.endpoints := by
    obtain ⟨e, s, he, hc, hrecorded, -⟩ := h.recorded
    rw [hrecorded]
    exact .modify he hc fun h => (h.recordFailure b.now code s).2
  cases h with
  | still hendpoints _ => exact hendpoints ▸ .refl _
  | handedOff _ hendpoints _ => exact hendpoints ▸ .refl _
  | delivered h => exact succeeds h
  | responded h => exact succeeds h
  | undelivered _ h => exact fails h
  | faulted h => exact fails h

/-! ## Recording -/

section Recording

variable {b b' : Bus} {e : Endpoint}

/-- A failure is recorded on a bus that has measured it already. -/
theorem recordFailure_fails (b b' : Bus) {measured : List Metric} (hnow : b'.now = b.now)
    (hendpoints : b'.endpoints = b.endpoints) (hlog : b'.service.log = measured ++ b.service.log)
    (he : b.endpoints.get? e.name = some e) (hc : e.Concrete) (code : Int32) (s : Settings) :
    Fails b (b'.recordFailure e code s).2 e.name code measured := by
  refine ⟨e, s, he, hc, ?_, ?_⟩
  · simp only [Bus.recordFailure]
    split <;> simp only [Bus.measure, Bus.updateHealth, hendpoints, hnow]
  · simp only [Bus.recordFailure, hnow]
    split
    · next heq =>
      rw [heq, List.append_assoc, ← hlog]
      rfl
    · next hverdict =>
      have hnone : measuredOf e.name (e.health.recordFailure b.now code s).1 = [] := by
        unfold measuredOf
        split
        · next heq => exact absurd heq (hverdict _)
        · rfl
      rw [hnone, List.append_assoc, ← hlog]
      rfl

theorem recordResponse_effect (hnamed : b.endpoints.WellNamed) (name : String) :
    Effect (responseEvent? b name) b (b.recordResponse name).2 := by
  unfold responseEvent? Bus.recordResponse
  split
  · next e he =>
    obtain ⟨hregistered, hconcrete⟩ := Bus.concrete_eq_ok hnamed he
    simp only [he]
    exact .responded ⟨⟨e, hregistered, hconcrete⟩, rfl, rfl⟩
  · next he =>
    simp only [he]
    exact .still rfl rfl

theorem recordFaultResponse_effect (hnamed : b.endpoints.WellNamed) (name : String)
    (fault : TransportFault) (m : Message) :
    Effect (faultEvent? b name fault) b (b.recordFaultResponse name fault m).2.2 := by
  unfold faultEvent? Bus.recordFaultResponse
  split
  · next e he =>
    obtain ⟨hregistered, hconcrete⟩ := Bus.concrete_eq_ok hnamed he
    simp only [he]
    generalize fault.code.getD Code.handOffFailed = code
    let measured := (b.settingsFor e m).2.measure (.faulted e.name code)
    have hlog : measured.service.log = [.faulted e.name code] ++ b.service.log := rfl
    have hrecorded := recordFailure_fails b measured rfl rfl hlog hregistered hconcrete code
      (b.settingsFor e m).1
    exact .faulted (hrecorded.of_service rfl)
  · next he =>
    simp only [he]
    exact .still rfl rfl

end Recording

/-! ## Moves -/

section Moves

variable {m : Message} {k : List Pending} {b b' : Bus} {f f' : Flow}

theorem attempt_effect (d : Dispatch) (m : Message) (k : List Pending) (b : Bus) :
    Effect none b (Flow.attempt d m k b).2 := by
  unfold Flow.attempt
  split
  · exact .still rfl rfl
  · split
    · exact .still rfl rfl
    · split
      next heq =>
      split at heq <;> obtain ⟨-, rfl⟩ := Prod.mk.inj heq <;> exact .still rfl rfl

/-- A send without endpoint has to do with no endpoint. -/
theorem implicit_effect {c : Call} (hc : c.endpoint = none) (m : Message) (k : List Pending)
    (b : Bus) : Effect none b (Flow.call c m k b).2 := by
  obtain ⟨-, -, -, -, -, -, hservice⟩ | ⟨sent, p, b', -, hservice, hcall⟩ :=
    Flow.call_cases c m k b
  · exact .of_service hservice
  · rw [hcall, Flow.send, hc]
    have hendpoints : b'.endpoints = b.endpoints := congrArg Service.endpoints hservice
    have hlog : b'.service.log = b.service.log := congrArg Service.log hservice
    exact .still hendpoints hlog

/-- The beginning of a send has to do with no endpoint and no channel. -/
theorem service_dispatch (name channel : String) (mode : SendMode) (m : Message)
    (k : List Pending) (b : Bus) :
    (Flow.dispatch name channel mode m k b).2.service = b.service := by
  unfold Flow.dispatch
  split <;> rfl

theorem delivered_effect {d : Dispatch} (hd : b.endpoints.Serves d) (started : Time) (m : Message)
    (k : List Pending) :
    Effect (some (.delivered d.endpoint d.mode)) b (Flow.delivered d started m k b).2 := by
  obtain ⟨e, he, hconcrete, -⟩ := hd
  unfold Flow.delivered
  cases hmode : d.mode with
  | handOff => exact .handedOff _ rfl rfl
  | blocking => exact .delivered ⟨⟨e, he, hconcrete⟩, rfl, rfl⟩

theorem undelivered_effect (hnamed : b.endpoints.WellNamed) {d : Dispatch}
    (hd : b.endpoints.Serves d) (started : Time) (fault : TransportFault) (m : Message)
    (k : List Pending) :
    Effect (some (.undelivered d.endpoint (fault.code.getD d.mode.defaultCode))) b
      (Flow.undelivered d started fault m k b).2 := by
  obtain ⟨e, he, hconcrete, -⟩ := hd
  have hname : e.name = d.endpoint := hnamed _ e he
  generalize hcode : fault.code.getD d.mode.defaultCode = code
  generalize houtcome : (if code = Code.timeout then DispatchOutcome.timeout else .fault) = outcome
  have hcases : outcome = .fault ∨ outcome = .timeout := by
    rw [← houtcome]
    split
    · exact .inr rfl
    · exact .inl rfl
  -- the failure is measured, then recorded
  let measured := (b.measure (.dispatched d.endpoint outcome (b.now - started))).measure
    (.faulted d.endpoint code)
  have hlog : measured.service.log =
      [.faulted d.endpoint code, .dispatched d.endpoint outcome (b.now - started)] ++
        b.service.log := by
    obtain rfl | rfl := hcases <;> rfl
  have hrecorded :=
    recordFailure_fails b measured rfl rfl hlog (hname ▸ he) hconcrete code d.settings
  rw [hname] at hrecorded
  have hservice : (Flow.undelivered d started fault m k b).2.service =
      (measured.recordFailure e code d.settings).2.service := by
    have hendpoint : measured.endpoint d.endpoint = .ok e := Bus.endpoint_eq_ok.2 he
    unfold Flow.undelivered
    simp only [hcode, houtcome]
    rw [hendpoint]
    simp only
    split
    · next heq =>
      rw [heq]
      split <;> rfl
    · next heq =>
      rw [heq]
  exact .undelivered hcases (hrecorded.of_service hservice)

/-- A move of a flow does to the health of endpoints what an attempt does that ends by it. -/
theorem move_effect (hnamed : b.endpoints.WellNamed) (hf : f.Meets b.endpoints.Serves)
    (h : f.step b = some (f', b')) : Effect f.attemptEnd? b b' := by
  have hacting := hf.acting
  cases hend : f.attemptEnd? with
  | some ev =>
    -- the flow at work hands its reply to an attempt
    unfold Flow.attemptEnd? at hend
    split at hend
    · next m r d started deadline k ha =>
      rw [ha] at hacting
      cases hacting with
      | busy _ hk =>
        have hd : b.endpoints.Serves d := hk _ (List.mem_cons_self ..) d rfl
        obtain ⟨f'', hs, -⟩ := Flow.step_of_acting f ha rfl rfl
        obtain ⟨-, rfl⟩ := Prod.mk.inj (Option.some.inj (hs.symm.trans h))
        rw [← hend]
        cases r with
        | refused fault => exact undelivered_effect hnamed hd started fault m k
        | _ => exact delivered_effect hd started m k
    · simp at hend
  | none =>
    obtain hservice | ⟨m, task, k, g, ha, hloud, hw, -⟩ := Flow.service_of_step f h
    · exact .of_service hservice
    · cases hloud with
      | attempt d =>
        have heffect := attempt_effect d m k b
        rwa [Option.some.inj hw] at heffect
      | ended r d started deadline k =>
        unfold Flow.attemptEnd? at hend
        rw [ha] at hend
        cases r <;> simp at hend
      | implicit hnone =>
        rename_i c
        have heffect := implicit_effect hnone m k b
        obtain hw : some (Flow.call c m k b) = some (g, b') := hw
        rwa [Option.some.inj hw] at heffect

end Moves

/-! ## Steps and histories -/

variable {start : Bus} {past : List Event} {t t' : Traffic} {ev : Option Event}

/-- Every step does to the health of endpoints what its event does. -/
theorem Step.effect (hnamed : t.bus.endpoints.WellNamed)
    (hflows : ∀ f ∈ t.flows, f.Meets t.bus.endpoints.Serves) (h : Step t ev t') :
    Effect ev t.bus t'.bus := by
  cases h with
  | move before after h => exact move_effect hnamed (hflows _ (by simp)) h
  | send flows name channel mode m => exact .of_service (service_dispatch ..)
  | start flows h => exact .still rfl rfl
  | drop before after f => exact .still rfl rfl
  | response flows name => exact recordResponse_effect hnamed name
  | fault flows name fault m => exact recordFaultResponse_effect hnamed name fault m
  | elsewhere flows h => exact .of_service h

/-- Every step leaves all sends under way at endpoints of the registry. -/
theorem Step.meets (hnamed : t.bus.endpoints.WellNamed)
    (hflows : ∀ f ∈ t.flows, f.Meets t.bus.endpoints.Serves) (h : Step t ev t') :
    ∀ f ∈ t'.flows, f.Meets t'.bus.endpoints.Serves := by
  have hevolves : t.bus.endpoints.Evolves t'.bus.endpoints := (h.effect hnamed hflows).evolves
  have later {f : Flow} (hf : f.Meets t.bus.endpoints.Serves) :
      f.Meets t'.bus.endpoints.Serves := hf.mono fun d hd => hevolves.serves hd
  cases h with
  | @move b b' f f' before after h =>
    have hf : f.Meets b.endpoints.Serves := hflows f (by simp)
    intro g hg
    obtain hg | hg := List.mem_append.1 hg
    · exact later (hflows g (by simp [hg]))
    · obtain rfl | hg := List.mem_cons.1 hg
      · exact later (Flow.meets_step hnamed hf h)
      · exact later (hflows g (by simp [hg]))
  | @send b flows name channel mode m =>
    intro f hf
    obtain rfl | hf := List.mem_cons.1 hf
    · exact (Flow.meets_dispatch hnamed name channel mode m (by simp)).mono fun d hd =>
        hevolves.serves hd
    · exact later (hflows f hf)
  | start flows h =>
    intro g hg
    obtain rfl | hg := List.mem_cons.1 hg
    · exact h.mono fun d hd => hd.elim
    · exact hflows g hg
  | drop before after f =>
    intro g hg
    exact hflows g (by simp only [List.mem_append, List.mem_cons] at hg ⊢; tauto)
  | response flows name => exact fun f hf => later (hflows f hf)
  | fault flows name fault m => exact fun f hf => later (hflows f hf)
  | elsewhere flows h => exact fun f hf => later (hflows f hf)

namespace History

/-- In a history nothing changes but the health of endpoints that stand for themselves, and all
sends under way go to such endpoints. -/
theorem evolves_meets (hstart : start.endpoints.WellNamed) (h : History start past t) :
    start.endpoints.Evolves t.bus.endpoints ∧ ∀ f ∈ t.flows, f.Meets t.bus.endpoints.Serves := by
  induction h with
  | fresh => exact ⟨.refl _, by simp⟩
  | step _ hs ih =>
    obtain ⟨hevolves, hmeets⟩ := ih
    have hnamed := hevolves.wellNamed hstart
    exact ⟨hevolves.trans (hs.effect hnamed hmeets).evolves, hs.meets hnamed hmeets⟩

/-- One flow makes moves while all others wait. -/
theorem run {b : Bus} {f : Flow} (before after : List Flow) (n : Nat)
    (h : History start past ⟨b, before ++ f :: after⟩) :
    ∃ past', History start past' ⟨(f.run n b).2, before ++ (f.run n b).1 :: after⟩ := by
  induction n generalizing f b past with
  | zero => exact ⟨past, h⟩
  | succ n ih =>
    unfold Flow.run
    split
    · next f' b' hs => exact ih (h.step (.move before after hs))
    · exact ⟨past, h⟩

end History

/-! ## An endpoint, and one that stands for it -/

namespace Quote

def quote : Endpoint := ⟨"quote", .address "http://quote", {}, {}, false⟩

/-- Stands for `quote`. -/
def front : Endpoint := ⟨"front", .indirect "quote", {}, {}, false⟩

/-- A bus whose only channel delivers nothing. -/
def bus : Bus where
  endpoints := Dict.ofList [("quote", quote), ("front", front)]
  defaults := { initial := 10000, retries := 1, delay := 100 }
  transports := Dict.ofList
    [("wire", { standing := .fault { code := some Code.connectionFailed } })]

theorem get?_bus (name : String) : bus.endpoints.get? name =
    if name = "front" then some front else if name = "quote" then some quote else none := by
  have hbus : bus.endpoints = ((∅ : Registry).insert "quote" quote).insert "front" front := rfl
  rw [hbus, Dict.get?_insert, Dict.get?_insert, Dict.get?_empty]

theorem wellNamed : bus.endpoints.WellNamed :=
  (Registry.wellNamed_empty.register (e := quote) rfl).register (e := front) rfl

end Quote

end Dispatching

end ServiceBus
