import ServiceBus.Proofs.Flow.Uniform

/-
ServiceBus.Proofs.Dispatch.Service — which moves have to do with endpoints and
channels.

`Bus.service` is the part of a bus that sends work with: the endpoints, the channels
and the measurements of failures. Almost every function that lets a flow go on leaves it
alone and puts no work of a send on top of the pending work; it is `Quiet`, and there
is one lemma for each of them. What is not quiet is an attempt, its end, the wait for
the next one, and a send without endpoint (`service_of_work`).

Scatter-gathers leave the service alone too. So a flow changes it only by a move of
the flow at work inside it (`Flow.acting`, `service_of_step`).
-/
namespace ServiceBus

/-- Whether a measurement is one of a failure at an endpoint, or of its suspension. -/
def Metric.isFailure : Metric → Bool
  | .dispatched _ .fault _ => true
  | .dispatched _ .timeout _ => true
  | .faulted .. => true
  | .suspended _ => true
  | _ => false

/-- What sends work with. -/
structure Service where
  endpoints : Registry
  transports : Dict Transport
  /-- The measurements of failures, latest first. -/
  log : List Metric

namespace Bus

/-- The part of a bus that sends work with. -/
def service (b : Bus) : Service := ⟨b.endpoints, b.transports, b.metrics.filter Metric.isFailure⟩

/-! ## Operations of the bus -/

section Operations

variable (b : Bus)

theorem service_openBuffer (aggregator correlation : String) (limits : BufferLimits) :
    (b.openBuffer aggregator correlation limits).2.service = b.service := by
  simp only [openBuffer]
  split <;> split <;> rfl

theorem service_perform (e : Edit Mediator) (m : Message) :
    (e.perform m b).2.2.service = b.service := by
  cases e <;> simp only [Edit.perform] <;> (repeat' split) <;> rfl

end Operations

end Bus

/-! ## Scatter-gathers -/

namespace Scatter

variable (s : Scatter) (m : Message) (bus : Bus)

theorem service_correlationOf : (s.correlationOf m bus).2.service = bus.service := by
  unfold correlationOf
  split
  · rfl
  · simp only
    split <;> rfl

theorem service_begin (targets : List Mediator) :
    (s.begin targets m bus).2.service = bus.service := by
  -- the look-ups of the policy are noted, then a buffer is opened
  have opened {noted bus' : Bus} {key : String} {limits : BufferLimits}
      {answer : Except Failure Nat}
      (h : noted.openBuffer s.aggregator key limits = (answer, bus')) :
      bus'.service = noted.service := by
    have hopened := noted.service_openBuffer s.aggregator key limits
    rwa [h] at hopened
  have hnoted := s.service_correlationOf m bus
  unfold begin
  simp only [Bus.resolve?]
  split
  · next hopen => exact (opened hopen).trans hnoted
  · next hopen =>
    split
    · exact (opened hopen).trans hnoted
    · exact (opened hopen).trans hnoted

theorem service_contribute (buffer index : Nat) :
    (s.contribute buffer index m bus).2.service = bus.service := by
  unfold contribute
  split
  next payload bus₁ hvalue =>
  have hnoted : bus₁.service = bus.service := by
    split at hvalue
    · obtain ⟨-, rfl⟩ := Prod.mk.inj hvalue
      rfl
    · simp only [Bus.evaluate] at hvalue
      split at hvalue <;> obtain ⟨-, rfl⟩ := Prod.mk.inj hvalue <;> next heq =>
        obtain ⟨-, rfl⟩ := Prod.mk.inj heq
        rfl
  split
  · exact hnoted
  · split
    next completed bus₂ hcompletion =>
    have hcompleted : bus₂.service = bus₁.service := by
      split at hcompletion
      · obtain ⟨-, rfl⟩ := Prod.mk.inj hcompletion
        rfl
      · split at hcompletion <;> obtain ⟨-, rfl⟩ := Prod.mk.inj hcompletion <;> rfl
    split <;> exact hcompleted.trans hnoted

theorem service_accept (buffer index : Nat) (outcome : Except Failure Bool) :
    (s.accept buffer index m outcome bus).2.service = bus.service := by
  unfold accept
  split
  · exact s.service_contribute m bus buffer index
  · split <;> rfl
  · rfl
  · rfl

theorem service_conclude (g : Gathering) : (conclude g m bus).2.2.service = bus.service := by
  unfold conclude
  simp only
  split <;> rfl

end Scatter

/-! ## Quiet functions -/

/-- The send that a task is part of. -/
def Task.dispatch? : Task → Option Dispatch
  | .attempt d => some d
  | _ => none

/-- The send that pending work is part of. -/
def Pending.dispatch? : Pending → Option Dispatch
  | .attempt d _ _ => some d
  | .retry d => some d
  | _ => none

namespace Flow

variable {m : Message} {k : List Pending} {bus bus' : Bus}

/-- A busy flow that stands on the pending work with nothing of a send on top, on a bus with the
same service. -/
def Quiet (k : List Pending) (bus : Bus) (x : Flow × Bus) : Prop :=
  ∃ m task top, x.1 = .busy m task (top ++ k) ∧ task.dispatch? = none ∧
    (∀ p ∈ top, p.dispatch? = none) ∧ x.2.service = bus.service

theorem quiet_busy (m : Message) {task : Task} (htask : task.dispatch? = none)
    (h : bus'.service = bus.service) : Quiet k bus (.busy m task k, bus') :=
  ⟨m, task, [], rfl, htask, by simp, h⟩

theorem quiet_below (m : Message) {task : Task} {p : Pending} (htask : task.dispatch? = none)
    (hp : p.dispatch? = none) (h : bus'.service = bus.service) :
    Quiet k bus (.busy m task (p :: k), bus') :=
  ⟨m, task, [p], rfl, htask, by simpa using hp, h⟩

theorem quiet_answer (m : Message) (r : Reply) (h : bus'.service = bus.service) :
    Quiet k bus (answer m r k, bus') := quiet_busy m rfl h

/-- What is quiet above one more piece of work is quiet. -/
theorem Quiet.above {p : Pending} {x : Flow × Bus} (h : Quiet (p :: k) bus x)
    (hp : p.dispatch? = none) : Quiet k bus x := by
  obtain ⟨m, task, top, hx, htask, htop, hservice⟩ := h
  refine ⟨m, task, top ++ [p], ?_, htask, ?_, hservice⟩
  · rw [hx, List.append_assoc]
    rfl
  · intro q hq
    obtain hq | hq := List.mem_append.1 hq
    · exact htop q hq
    · exact List.mem_singleton.1 hq ▸ hp

theorem quiet_runHandler (m : Message) (handled unhandled : Reply)
    (h : bus'.service = bus.service) : Quiet k bus (runHandler m handled unhandled k, bus') := by
  unfold runHandler
  split
  · exact quiet_below _ rfl rfl h
  · exact quiet_answer m _ h

theorem quiet_record (r : Recorder) (m : Message) (h : bus'.service = bus.service) :
    Quiet k bus (record r m k, bus') := by
  unfold record
  split
  · exact quiet_answer m _ h
  · simp only
    split
    · exact quiet_runHandler _ _ _ h
    · exact quiet_answer _ _ h

theorem quiet_divert (e : Failure) (m : Message) (h : bus'.service = bus.service) :
    Quiet k bus (divert e m k, bus') := by
  unfold divert
  split
  · exact quiet_answer _ _ h
  · split
    · exact quiet_answer m _ h
    · exact quiet_runHandler _ _ _ h

theorem quiet_children (s : SequenceRun) (position : Nat) (rest : List Mediator) (m : Message)
    (h : bus'.service = bus.service) : Quiet k bus (children s position rest m k, bus') := by
  cases rest with
  | nil => exact quiet_answer _ _ h
  | cons child rest => exact quiet_below _ rfl rfl h

theorem quiet_edit (edits : List (Edit Mediator)) (findings : List Finding) (m : Message) :
    Quiet k bus (edit edits findings m k bus) := by
  unfold edit
  split
  · exact quiet_answer m _ rfl
  · exact (quiet_runHandler m _ _ rfl).above rfl
  · exact quiet_busy _ rfl (Bus.service_perform bus _ m)

theorem quiet_deliver (outcome : Outcome) (edits : List (Edit Mediator)) (m : Message) :
    Quiet k bus (deliver outcome edits m k bus) := by
  cases outcome with
  | success => exact quiet_below m rfl rfl rfl
  | respond p => exact quiet_below _ rfl rfl rfl
  | fault f => exact quiet_answer m _ rfl
  | hang => exact quiet_busy m rfl rfl
  | after delay rest => exact quiet_below m rfl rfl rfl

theorem quiet_afterBlockingCall (c : Call) (envelope : Envelope) (handler : Option Id) (r : Reply)
    (m : Message) : Quiet k bus (afterBlockingCall c envelope handler r m k, bus) := by
  unfold afterBlockingCall
  split
  · exact quiet_divert _ _ rfl
  · split
    · exact quiet_answer m _ rfl
    · split
      · exact quiet_answer m _ rfl
      · exact quiet_answer _ _ rfl

theorem quiet_afterHandOff (r : Reply) (m : Message) : Quiet k bus (afterHandOff r m k, bus) := by
  unfold afterHandOff
  split
  · exact quiet_divert _ _ rfl
  · exact quiet_answer m _ rfl

theorem quiet_afterOutOnly (left : Message) (r : Reply) (copy : Message) :
    Quiet k bus (afterOutOnly left r copy k, bus) := by
  unfold afterOutOnly
  split
  · exact quiet_divert _ _ rfl
  · exact quiet_answer left _ rfl

/-- Work that is not part of a send to an endpoint is resumed quietly. -/
theorem quiet_resume (r : Reply) (m : Message) {p : Pending} (hp : p.dispatch? = none) :
    Quiet k bus (resume r m p k bus) := by
  cases p with
  | children s position rest =>
    simp only [resume]
    split
    · exact quiet_children s (position + 1) rest m rfl
    · exact quiet_answer m _ rfl
    · exact quiet_answer m _ rfl
  | record recorder => exact quiet_record recorder m rfl
  | edits rest findings => exact quiet_busy m rfl rfl
  | reply r' =>
    simp only [resume]
    split
    · exact quiet_answer m _ rfl
    · exact quiet_answer m _ rfl
  | blockingCall c envelope handler => exact quiet_afterBlockingCall c envelope handler r m
  | handOff c => exact quiet_afterHandOff r m
  | outOnly c left => exact quiet_afterOutOnly left r m
  | implicit mode =>
    simp only [resume]
    split
    · exact quiet_answer _ _ rfl
    · exact quiet_answer m _ rfl
  | attempt d started deadline => simp [Pending.dispatch?] at hp
  | retry d => simp [Pending.dispatch?] at hp
  | transmit outcome edits => exact quiet_busy m rfl rfl

/-- Mediators other than calls and scatter-gathers are entered quietly. -/
theorem quiet_mediate {x : Mediator} (hc : ∀ c, x ≠ .call c)
    (hs : ∀ s targets, x ≠ .scatter s targets) (m : Message) : Quiet k bus (mediate x m k bus) := by
  cases x with
  | recorder r =>
    simp only [mediate]
    split
    · exact quiet_below m rfl rfl rfl
    · exact quiet_record r m rfl
  | editor name edits result => exact quiet_below m rfl rfl rfl
  | call c => exact absurd rfl (hc c)
  | sequence name kind list onError =>
    cases onError with
    | none => exact quiet_children _ 0 list _ rfl
    | some handler => exact quiet_children _ 0 list _ rfl
  | scatter s targets => exact absurd rfl (hs s targets)

/-- A call fails quietly, or it sends above its own work. -/
theorem call_cases (c : Call) (m : Message) (k : List Pending) (bus : Bus) :
    Quiet k bus (call c m k bus) ∨
      ∃ sent p bus', p.dispatch? = none ∧ bus'.service = bus.service ∧
        call c m k bus = send c sent (p :: k) bus' := by
  unfold call
  split
  · exact .inl (quiet_answer m _ rfl)
  · simp only
    split
    · exact .inl (quiet_answer _ _ rfl)
    · right
      split
      · exact ⟨_, _, bus, rfl, rfl, rfl⟩
      · split
        · exact ⟨_, _, bus.freshId.2, rfl, rfl, rfl⟩
        · exact ⟨_, _, bus, rfl, rfl, rfl⟩

/-! ## The flow at work -/

/-- The innermost flow at work: that of the branch, where one runs. -/
def acting : Flow → Flow
  | .branching _ _ _ branch _ _ => acting branch
  | f => f

/-- The moves of a busy flow that have to do with endpoints or channels. -/
inductive Loud : Task → List Pending → Prop where
  | attempt (d : Dispatch) (k : List Pending) : Loud (.attempt d) k
  | ended (r : Reply) (d : Dispatch) (started : Time) (deadline : Option Timer) (k : List Pending) :
      Loud (.reply r) (.attempt d started deadline :: k)
  | implicit {c : Call} (h : c.endpoint = none) (k : List Pending) : Loud (.mediate (.call c)) k

/-- All other moves of a busy flow leave the service alone. -/
theorem service_of_work {task : Task} {f : Flow} (h : work m task k bus = some (f, bus'))
    (hquiet : ¬ Loud task k) : bus'.service = bus.service := by
  -- what is quiet leaves the service alone
  have quiet {k : List Pending} {x : Flow × Bus} (hx : Quiet k bus x)
      (he : some x = some (f, bus')) : bus'.service = bus.service := by
    obtain rfl := Option.some.inj he
    obtain ⟨m, task, top, -, -, -, hservice⟩ := hx
    exact hservice
  cases task with
  | mediate x =>
    cases x with
    | call c =>
      cases hendpoint : c.endpoint with
      | none => exact absurd (.implicit hendpoint k) hquiet
      | some name =>
        obtain hx | ⟨sent, p, bus₁, -, hnoted, hcall⟩ := call_cases c m k bus
        · exact quiet hx h
        · obtain h : some (call c m k bus) = some (f, bus') := h
          rw [hcall, send, hendpoint] at h
          simp only [dispatch] at h
          split at h <;> obtain ⟨-, rfl⟩ := Prod.mk.inj (Option.some.inj h) <;> exact hnoted
    | scatter s targets =>
      have hbegin := s.service_begin m bus (targets.map Prod.snd)
      simp only [work, mediate] at h
      split at h <;> next heq =>
        rw [heq] at hbegin
        obtain ⟨-, rfl⟩ := Prod.mk.inj (Option.some.inj h)
        exact hbegin
    | _ => exact quiet (quiet_mediate (k := k) (by simp) (by simp) m) h
  | edit edits findings => exact quiet (quiet_edit (k := k) edits findings m) h
  | attempt d => exact absurd (.attempt d k) hquiet
  | transmit outcome edits => exact quiet (quiet_deliver (k := k) outcome edits m) h
  | sleep t =>
    simp only [work] at h
    split at h
    · exact quiet (quiet_answer (k := k) m _ rfl) h
    · exact congrArg Bus.service (cut_of_move h).2
  | hang => exact congrArg Bus.service (cut_of_move h).2
  | reply r =>
    cases k with
    | nil => simp [work] at h
    | cons p k =>
      cases hp : p.dispatch? with
      | none => exact quiet (quiet_resume (k := k) r m hp) h
      | some d =>
        cases p with
        | attempt d started deadline => exact absurd (.ended r d started deadline k) hquiet
        | retry d =>
          obtain ⟨-, rfl⟩ := Prod.mk.inj (Option.some.inj h)
          rfl
        | _ => simp [Pending.dispatch?] at hp

theorem service_conclude (m : Message) (g : Gathering) (k : List Pending) (bus : Bus) :
    (conclude m g k bus).2.service = bus.service := by
  have hconclude := Scatter.service_conclude m bus g
  unfold conclude
  split <;> next heq => rw [heq] at hconclude; exact hconclude

theorem service_acceptBranch (m : Message) (g : Gathering) (i : Nat) (outcome : Message × Reply)
    (others : List (Nat × Flow)) (k : List Pending) (bus : Bus) :
    (acceptBranch m g i outcome others k bus).2.service = bus.service := by
  have haccept := g.scatter.service_accept outcome.1 bus g.buffer i outcome.2.verdict
  unfold acceptBranch
  simp only
  split <;> next heq =>
    rw [heq] at haccept
    first
      | exact haccept
      | split <;> exact haccept

theorem service_gather {m : Message} {g : Gathering} {branches : List (Nat × Flow)} {f : Flow}
    (h : gather m g branches k bus = some (f, bus')) : bus'.service = bus.service := by
  have concluded {b : Bus} (hb : b.service = bus.service)
      (he : some (conclude m g k b) = some (f, bus')) : bus'.service = bus.service := by
    have hconclude := service_conclude m g k b
    rw [Option.some.inj he] at hconclude
    exact hconclude.trans hb
  simp only [gather] at h
  split at h
  · exact concluded rfl h
  · split at h
    · exact concluded (b := bus.updateBuffer g.buffer (·.close .timeout)) rfl h
    · split at h
      · obtain ⟨-, rfl⟩ := Prod.mk.inj (Option.some.inj h)
        rfl
      · split at h
        · obtain ⟨-, rfl⟩ := Prod.mk.inj (Option.some.inj h)
          rfl
        · exact congrArg Bus.service (cut_of_move h).2

/-- A flow leaves the service alone, or it makes a move of the busy flow at work inside it. -/
theorem service_of_step : (f : Flow) → {f' : Flow} → {bus bus' : Bus} →
    f.step bus = some (f', bus') → bus'.service = bus.service ∨
      ∃ m task k g, f.acting = .busy m task k ∧ Loud task k ∧ work m task k bus = some (g, bus') ∧
        f'.acting = g.acting
  | .busy m task k, f', bus, bus', h => by
    by_cases hloud : Loud task k
    · exact .inr ⟨m, task, k, f', rfl, hloud, h, rfl⟩
    · exact .inl (service_of_work h hloud)
  | .gathering m g branches k, f', bus, bus', h => .inl (service_gather h)
  | .branching m g i branch others k, f', bus, bus', h => by
    simp only [step] at h
    split at h
    · next outcome _ =>
      have haccept := service_acceptBranch m g i outcome others k bus
      rw [Option.some.inj h] at haccept
      exact .inl haccept
    · split at h
      · next branch' bus₁ hs =>
        obtain ⟨rfl, rfl⟩ := Prod.mk.inj (Option.some.inj h)
        have hbranch := service_of_step branch hs
        exact hbranch
      · obtain ⟨-, rfl⟩ := Prod.mk.inj (Option.some.inj h)
        exact .inl rfl

/-- The move of the flow at work is the move of the whole flow. -/
theorem step_of_acting : (f : Flow) → {m : Message} → {task : Task} → {k : List Pending} →
    {g : Flow} → {bus bus' : Bus} → f.acting = .busy m task k →
    (Flow.busy m task k).finished? = none → work m task k bus = some (g, bus') →
    ∃ f', f.step bus = some (f', bus') ∧ f'.acting = g.acting
  | .busy m' task' k', m, task, k, g, bus, bus', ha, _, hw => by
    obtain ⟨rfl, rfl, rfl⟩ := Flow.busy.inj ha
    exact ⟨g, hw, rfl⟩
  | .gathering .., _, _, _, _, _, _, ha, _, _ => by simp [acting] at ha
  | .branching m' g' i branch others k', m, task, k, g, bus, bus', ha, hf, hw => by
    obtain ⟨branch', hs, hacting⟩ := step_of_acting branch ha hf hw
    have hrunning : branch.finished? = none := by
      cases branch with
      | busy _ _ _ =>
        obtain ⟨rfl, rfl, rfl⟩ := Flow.busy.inj ha
        exact hf
      | _ => rfl
    refine ⟨.branching m' g' i branch' others k', ?_, hacting⟩
    simp only [step, hrunning, hs]

end Flow

end ServiceBus
