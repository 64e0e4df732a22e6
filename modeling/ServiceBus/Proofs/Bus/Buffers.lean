import ServiceBus.Proofs.Bus.Runs
import ServiceBus.Proofs.Buffer.Accounting

/-
ServiceBus.Proofs.Bus.Buffers — what the parts of a scatter-gather do to the
buffers of a bus.

  - Opening and forgetting: which buffer is found under a key afterwards
    (`findBuffer?_openBuffer`, `findBuffer?_forgetBuffer`).
  - `Bus.Served`: some buffer is worked on by contributions, and nothing else
    changes for the runs. That is all that the outcome of a branch
    (`Scatter.accept_served`) or a reply (`Scatter.deliver_served`) can do.
  - Beginning and ending: `Scatter.begin_eq_ok` and `Scatter.conclude_runState`.

Everything is stated on `Bus.runState`, so it leaves open what happens to
endpoints, channels and logs.
-/
namespace ServiceBus

/-! ## Buffers of a bus -/

namespace Bus

section Lookup

variable (b : Bus)

theorem buffer?_updateBuffer (ref ref' : Nat) (f : Buffer → Buffer) :
    (b.updateBuffer ref f).buffer? ref' =
      if ref = ref' then (b.buffer? ref').map f else b.buffer? ref' := by
  simp only [buffer?, updateBuffer, List.getElem?_modify]
  split <;> simp

theorem updateBuffer_id (ref : Nat) : b.updateBuffer ref id = b := by
  simp [updateBuffer]

theorem updateBuffer_updateBuffer (ref : Nat) (f g : Buffer → Buffer) :
    (b.updateBuffer ref f).updateBuffer ref g = b.updateBuffer ref (g ∘ f) := by
  simp [updateBuffer, List.modify_modify_eq]

/-- Only the buffer that is there matters. -/
theorem updateBuffer_congr {b : Bus} {ref : Nat} {f g : Buffer → Buffer}
    (h : ∀ buffer, b.buffer? ref = some buffer → f buffer = g buffer) :
    b.updateBuffer ref f = b.updateBuffer ref g := by
  have hlist : b.buffers.modify ref f = b.buffers.modify ref g := by
    refine List.ext_getElem? fun i => ?_
    rw [List.getElem?_modify, List.getElem?_modify]
    by_cases hi : ref = i
    · subst hi
      cases hb : b.buffers[ref]? with
      | none => rfl
      | some buffer => simp [h buffer hb]
    · simp [hi]
  simp only [updateBuffer, hlist]

theorem isBufferClosed_eq (ref : Nat) :
    b.isBufferClosed ref = (b.buffer? ref).any Buffer.isClosed := by
  unfold isBufferClosed
  cases b.buffer? ref <;> rfl

theorem buffer?_eq_none {ref : Nat} : b.buffer? ref = none ↔ b.buffers.length ≤ ref :=
  List.getElem?_eq_none_iff

theorem lt_of_buffer? {b : Bus} {ref : Nat} {buffer : Buffer} (h : b.buffer? ref = some buffer) :
    ref < b.buffers.length :=
  (List.getElem?_eq_some_iff.1 h).1

/-- Forgetting one key leaves all others. -/
theorem findBuffer?_forgetBuffer (aggregator correlation aggregator' correlation' : String) :
    (b.forgetBuffer aggregator correlation).findBuffer? aggregator' correlation' =
      if aggregator' = aggregator ∧ correlation' = correlation then none
      else b.findBuffer? aggregator' correlation' := by
  by_cases ha : aggregator' = aggregator
  · subst ha
    by_cases hc : correlation' = correlation <;>
      simp [findBuffer?, Bus.aggregator, forgetBuffer, hc]
  · simp [findBuffer?, Bus.aggregator, forgetBuffer, ha]

end Lookup

section RunState

variable {b b' : Bus}

theorem buffers_of_runState (h : b.runState = b'.runState) : b.buffers = b'.buffers :=
  congrArg RunState.buffers h

theorem buffer?_of_runState (h : b.runState = b'.runState) (ref : Nat) :
    b.buffer? ref = b'.buffer? ref := by
  rw [buffer?, buffer?, buffers_of_runState h]

theorem isBufferClosed_of_runState (h : b.runState = b'.runState) (ref : Nat) :
    b.isBufferClosed ref = b'.isBufferClosed ref := by
  rw [isBufferClosed_eq, isBufferClosed_eq, buffer?_of_runState h]

theorem findBuffer?_of_runState (h : b.runState = b'.runState) (aggregator correlation : String) :
    b.findBuffer? aggregator correlation = b'.findBuffer? aggregator correlation := by
  have ha : b.aggregators = b'.aggregators := congrArg RunState.aggregators h
  rw [findBuffer?, findBuffer?, Bus.aggregator, Bus.aggregator, ha]

theorem updateBuffer_runState (h : b.runState = b'.runState) (ref : Nat) (f : Buffer → Buffer) :
    (b.updateBuffer ref f).runState = (b'.updateBuffer ref f).runState := by
  simp only [runState, updateBuffer, RunState.mk.injEq] at h ⊢
  simp [h]

/-- Whether an open buffer is found under a key. -/
def inProgress (b : Bus) (aggregator correlation : String) : Bool :=
  (b.findBuffer? aggregator correlation).any fun ref => !b.isBufferClosed ref

theorem inProgress_eq_false {aggregator correlation : String} :
    b.inProgress aggregator correlation = false ↔
      ∀ ref, b.findBuffer? aggregator correlation = some ref → b.isBufferClosed ref = true := by
  unfold inProgress
  cases b.findBuffer? aggregator correlation <;> simp

theorem inProgress_of_runState (h : b.runState = b'.runState) (aggregator correlation : String) :
    b.inProgress aggregator correlation = b'.inProgress aggregator correlation := by
  unfold inProgress
  rw [findBuffer?_of_runState h]
  exact congrArg (Option.any · _) (funext fun ref => by rw [isBufferClosed_of_runState h])

/-- A buffer is opened unless an open one is found under its key; from then on it is
the one that is found there. -/
theorem openBuffer_eq (b : Bus) (aggregator correlation : String) (limits : BufferLimits) :
    b.openBuffer aggregator correlation limits =
      if b.inProgress aggregator correlation then
        (.error (.internal (.aggregationInProgress correlation)), b)
      else (.ok b.buffers.length, { b with
        buffers := b.buffers ++ [Buffer.opened correlation limits]
        aggregators := b.aggregators.insert aggregator
          ((b.aggregator aggregator).insert correlation b.buffers.length) }) := by
  unfold openBuffer inProgress
  cases b.findBuffer? aggregator correlation <;> rfl

theorem openBuffer_runState (h : b.runState = b'.runState) (aggregator correlation : String)
    (limits : BufferLimits) :
    (b.openBuffer aggregator correlation limits).1 =
        (b'.openBuffer aggregator correlation limits).1 ∧
      (b.openBuffer aggregator correlation limits).2.runState =
        (b'.openBuffer aggregator correlation limits).2.runState := by
  rw [openBuffer_eq, openBuffer_eq, inProgress_of_runState h]
  cases b'.inProgress aggregator correlation with
  | true => exact ⟨rfl, h⟩
  | false =>
    simp only [runState, RunState.mk.injEq, Bus.aggregator] at h ⊢
    simp [h]

theorem openBuffer_eq_ok {aggregator correlation : String} {limits : BufferLimits} {ref : Nat}
    (h : (b.openBuffer aggregator correlation limits).1 = .ok ref) :
    b.inProgress aggregator correlation = false ∧ ref = b.buffers.length ∧
      (b.openBuffer aggregator correlation limits).2 = { b with
        buffers := b.buffers ++ [Buffer.opened correlation limits]
        aggregators := b.aggregators.insert aggregator
          ((b.aggregator aggregator).insert correlation b.buffers.length) } := by
  rw [openBuffer_eq] at h ⊢
  cases hp : b.inProgress aggregator correlation with
  | true => simp [hp] at h
  | false =>
    simp only [hp, Bool.false_eq_true, if_false, Except.ok.injEq] at h
    exact ⟨rfl, h.symm, rfl⟩

theorem openBuffer_eq_error {aggregator correlation : String} {limits : BufferLimits} {e : Failure}
    (h : (b.openBuffer aggregator correlation limits).1 = .error e) :
    (b.openBuffer aggregator correlation limits).2 = b := by
  rw [openBuffer_eq] at h ⊢
  cases hp : b.inProgress aggregator correlation with
  | true => rfl
  | false => simp [hp] at h

theorem findBuffer?_openBuffer {aggregator correlation : String} {limits : BufferLimits} {ref : Nat}
    (h : (b.openBuffer aggregator correlation limits).1 = .ok ref)
    (aggregator' correlation' : String) :
    (b.openBuffer aggregator correlation limits).2.findBuffer? aggregator' correlation' =
      if aggregator' = aggregator ∧ correlation' = correlation then some ref
      else b.findBuffer? aggregator' correlation' := by
  obtain ⟨-, rfl, he⟩ := openBuffer_eq_ok h
  rw [he]
  by_cases ha : aggregator' = aggregator
  · subst ha
    by_cases hc : correlation' = correlation <;> simp [findBuffer?, Bus.aggregator, hc]
  · simp [findBuffer?, Bus.aggregator, ha]

end RunState

/-! ## Contributions -/

/-- Some buffer is worked on by contributions; for the runs nothing else changes. -/
def Served (b b' : Bus) : Prop :=
  ∃ (ref : Nat) (ops : List Buffer.Operation), (∀ op ∈ ops, op.contributes = true) ∧
    b'.runState = (b.updateBuffer ref (·.performAll ops)).runState

theorem Served.of_runState {b b' : Bus} (h : b'.runState = b.runState) : Served b b' :=
  ⟨0, [], by simp, h.trans (congrArg runState (b.updateBuffer_id 0).symm)⟩

/-- The buffers of a bus that was served are where they were, some contributions
further. -/
theorem Served.buffer? {b b' : Bus} (h : Served b b') {ref : Nat} {buffer : Buffer}
    (hb : b.buffer? ref = some buffer) :
    ∃ ops : List Buffer.Operation, (∀ op ∈ ops, op.contributes = true) ∧
      b'.buffer? ref = some (buffer.performAll ops) := by
  obtain ⟨ref', ops, hops, he⟩ := h
  rw [buffer?_of_runState he, buffer?_updateBuffer]
  by_cases heq : ref' = ref
  · exact ⟨ops, hops, by simp [heq, hb]⟩
  · exact ⟨[], by simp, by simp [heq, hb]⟩

end Bus

namespace Scatter

open Bus

/-- The value of a message as a result, if it can be found. -/
def value? (s : Scatter) (m : Message) (ev : Evaluator) : Option Payload :=
  match s.config.policy.value with
  | none => some m.payload
  | some e =>
    match ev e m with
    | .ok v => some (.ofValue v m.messageType)
    | .error _ => none

/-- Whether the completion condition holds on a message. -/
def completes (s : Scatter) (m : Message) (ev : Evaluator) : Bool :=
  match s.config.policy.completion with
  | none => false
  | some e =>
    match Evaluator.truth ev e m with
    | .ok b => b
    | .error _ => false

theorem value?_ne_none {s : Scatter} {m : Message} {ev : Evaluator} :
    s.value? m ev ≠ none ↔ ∀ e, s.config.policy.value = some e → ∃ v, ev e m = .ok v := by
  unfold value?
  cases s.config.policy.value with
  | none => simp
  | some e =>
    cases hv : ev e m with
    | ok v => simp [hv]
    | error e => simp [hv]

/-- A branch whose value cannot be found is excluded; the result of any other one is
added, and what is evaluated for that changes nothing for the runs. -/
theorem contribute_cases (s : Scatter) (ref index : Nat) (m : Message) (bus : Bus) :
    ∃ b : Bus, b.runState = bus.runState ∧
      s.contribute ref index m bus =
        match s.value? m bus.evaluator with
        | none => (.rejected, b.updateBuffer ref (·.exclude index))
        | some payload =>
          match b.buffer? ref with
          | none => (.rejected, b)
          | some buffer =>
            ((buffer.add ⟨index, payload⟩ (s.completes m bus.evaluator)).1, b.updateBuffer ref
              fun _ => (buffer.add ⟨index, payload⟩ (s.completes m bus.evaluator)).2) := by
  have added (b : Bus) (hb : b.evaluator = bus.evaluator) (payload : Payload) :
      ∃ b' : Bus, b'.runState = b.runState ∧
        (let asked := match s.config.policy.completion with
            | none => (false, b)
            | some e =>
              match Evaluator.truth b.evaluator e m with
              | .ok holds => (holds, b.noteEvaluated [e])
              | .error _ => (false, b.noteEvaluated [e])
          match asked.2.buffer? ref with
            | none => (Contribution.rejected, asked.2)
            | some buffer => ((buffer.add ⟨index, payload⟩ asked.1).1,
                asked.2.updateBuffer ref fun _ => (buffer.add ⟨index, payload⟩ asked.1).2)) =
          match b'.buffer? ref with
          | none => (.rejected, b')
          | some buffer =>
            ((buffer.add ⟨index, payload⟩ (s.completes m bus.evaluator)).1, b'.updateBuffer ref
              fun _ => (buffer.add ⟨index, payload⟩ (s.completes m bus.evaluator)).2) := by
    unfold completes
    rw [hb]
    cases s.config.policy.completion with
    | none => exact ⟨b, rfl, rfl⟩
    | some e =>
      simp only
      cases Evaluator.truth bus.evaluator e m with
      | ok holds => exact ⟨b.noteEvaluated [e], rfl, rfl⟩
      | error _ => exact ⟨b.noteEvaluated [e], rfl, rfl⟩
  unfold contribute value?
  cases s.config.policy.value with
  | none => exact added bus rfl m.payload
  | some e =>
    simp only [evaluate]
    cases bus.evaluator e m with
    | error _ => exact ⟨bus.noteEvaluated [e], rfl, rfl⟩
    | ok v => exact added (bus.noteEvaluated [e]) rfl (.ofValue v m.messageType)

/-- The operation by which a branch is brought in. -/
def contribution (s : Scatter) (index : Nat) (m : Message) (ev : Evaluator) : Buffer.Operation :=
  match s.value? m ev with
  | none => .exclude index
  | some payload => .add ⟨index, payload⟩ (s.completes m ev)

theorem contribution_contributes (s : Scatter) (index : Nat) (m : Message) (ev : Evaluator) :
    (s.contribution index m ev).contributes = true := by
  unfold contribution
  split <;> rfl

/-- What a branch brings in is one contribution. -/
theorem contribute_runState (s : Scatter) (ref index : Nat) (m : Message) (bus : Bus) :
    (s.contribute ref index m bus).2.runState =
      (bus.updateBuffer ref (·.perform (s.contribution index m bus.evaluator))).runState := by
  obtain ⟨b, hb, he⟩ := s.contribute_cases ref index m bus
  rw [he, ← updateBuffer_runState hb]
  unfold contribution
  cases s.value? m bus.evaluator with
  | none => rfl
  | some payload =>
    simp only
    cases hf : b.buffer? ref with
    | none =>
      -- a buffer that is not there takes nothing, whatever the operation
      have habsent : b.updateBuffer ref
          (·.perform (.add ⟨index, payload⟩ (s.completes m bus.evaluator))) = b :=
        (updateBuffer_congr (by simp [hf])).trans (updateBuffer_id b ref)
      rw [habsent]
    | some buffer =>
      refine congrArg runState (updateBuffer_congr fun found hfound => ?_)
      obtain rfl : buffer = found := Option.some.inj (hf.symm.trans hfound)
      rfl

/-- The answer is that of the buffer; a branch without value is rejected. -/
theorem contribute_answer {s : Scatter} {ref index : Nat} {m : Message} {bus : Bus}
    {buffer : Buffer} (hb : bus.buffer? ref = some buffer) :
    (s.contribute ref index m bus).1 =
      match s.value? m bus.evaluator with
      | none => .rejected
      | some payload => (buffer.add ⟨index, payload⟩ (s.completes m bus.evaluator)).1 := by
  obtain ⟨b, hsame, he⟩ := s.contribute_cases ref index m bus
  rw [he]
  cases s.value? m bus.evaluator with
  | none => rfl
  | some payload =>
    rw [buffer?_of_runState hsame, hb]

/-- The operation by which the outcome of a branch is taken into account; none where the
branch broke a rule. -/
def acceptance (s : Scatter) (index : Nat) (m : Message) (outcome : Except Failure Bool)
    (ev : Evaluator) : Option Buffer.Operation :=
  match outcome with
  | .ok true => some (s.contribution index m ev)
  | .ok false => some (if awaitsReply m then .markAwaiting index else .exclude index)
  | .error (.invariant _) => none
  | .error _ => some (.exclude index)

/-- Taking the outcome of a branch into account is one contribution, or none where a
broken rule ends the run. -/
theorem accept_runState (s : Scatter) (ref index : Nat) (m : Message)
    (outcome : Except Failure Bool) (bus : Bus) :
    (s.accept ref index m outcome bus).2.runState = (bus.updateBuffer ref
      (·.performAll (s.acceptance index m outcome bus.evaluator).toList)).runState := by
  match outcome with
  | .ok true => exact s.contribute_runState ref index m bus
  | .ok false =>
    simp only [accept, acceptance]
    split <;> rfl
  | .error e =>
    cases e with
    | invariant cause => exact congrArg runState (bus.updateBuffer_id ref).symm
    | _ => rfl

theorem contributes_of_acceptance {s : Scatter} {index : Nat} {m : Message}
    {outcome : Except Failure Bool} {ev : Evaluator} {op : Buffer.Operation}
    (h : op ∈ (s.acceptance index m outcome ev).toList) : op.contributes = true := by
  unfold acceptance at h
  split at h
  · rw [List.mem_singleton.1 h]
    exact s.contribution_contributes index m ev
  · rw [List.mem_singleton.1 h]
    split <;> rfl
  · simp at h
  · rw [List.mem_singleton.1 h]
    rfl

theorem accept_served (s : Scatter) (ref index : Nat) (m : Message) (outcome : Except Failure Bool)
    (bus : Bus) : Served bus (s.accept ref index m outcome bus).2 :=
  ⟨ref, _, fun _ => contributes_of_acceptance, s.accept_runState ref index m outcome bus⟩

theorem accept_eq_error {s : Scatter} {ref index : Nat} {m : Message}
    {outcome : Except Failure Bool} {bus bus' : Bus} {e : Failure}
    (h : s.accept ref index m outcome bus = (.error e, bus')) : bus' = bus := by
  unfold accept at h
  split at h
  · simp at h
  · split at h <;> simp at h
  · simpa using (congrArg Prod.snd h).symm
  · simp at h

/-- A reply that leads to no open buffer is rejected and changes nothing. -/
theorem deliver_rejected {s : Scatter} {m : Message} {bus : Bus}
    (h : ∀ ref, (m.textProperty? Property.correlation).bind (bus.findBuffer? s.aggregator) =
      some ref → bus.isBufferClosed ref = true) : s.deliver m bus = (.ok .rejected, bus) := by
  unfold deliver
  split
  · rfl
  · rename_i ref hfind
    rw [if_pos (h ref hfind)]

/-- A reply is at most two contributions to the buffer that its correlation identity
leads to: it is no longer awaited, and it is brought in. -/
theorem deliver_runState {s : Scatter} {m : Message} {bus : Bus} {ref : Nat}
    (hfind : (m.textProperty? Property.correlation).bind (bus.findBuffer? s.aggregator) =
      some ref) :
    ∃ ops : List Buffer.Operation, (∀ op ∈ ops, op.contributes = true) ∧
      (s.deliver m bus).2.runState = (bus.updateBuffer ref (·.performAll ops)).runState := by
  have nothing : ∃ ops : List Buffer.Operation, (∀ op ∈ ops, op.contributes = true) ∧
      bus.runState = (bus.updateBuffer ref (·.performAll ops)).runState :=
    ⟨[], by simp, congrArg runState (bus.updateBuffer_id ref).symm⟩
  simp only [deliver, hfind]
  split
  · exact nothing
  · split
    · rename_i index buffer _ hbuffer
      cases hsettle : buffer.settleAwaiting index with
      | mk settled buffer' =>
        cases settled with
        | false => exact nothing
        | true =>
          have hsame : (bus.updateBuffer ref fun _ => buffer') =
              bus.updateBuffer ref (·.perform (.settleAwaiting index)) := by
            refine updateBuffer_congr fun found hfound => ?_
            obtain rfl : buffer = found := Option.some.inj (hbuffer.symm.trans hfound)
            exact (congrArg Prod.snd hsettle).symm
          have twice (op : Buffer.Operation) :
              ((bus.updateBuffer ref fun _ => buffer').updateBuffer ref
                  (·.perform op)).runState =
                (bus.updateBuffer ref (·.performAll [.settleAwaiting index, op])).runState := by
            rw [hsame, updateBuffer_updateBuffer]
            rfl
          simp only
          split
          · exact ⟨[.settleAwaiting index, .exclude index], by
              simp [Buffer.Operation.contributes], twice (.exclude index)⟩
          · exact ⟨[.settleAwaiting index, s.contribution index m bus.evaluator],
              List.forall_mem_cons.2 ⟨rfl, List.forall_mem_singleton.2
                (s.contribution_contributes index m bus.evaluator)⟩,
              (s.contribute_runState ref index m _).trans (twice _)⟩
    · exact nothing

theorem deliver_served (s : Scatter) (m : Message) (bus : Bus) :
    Served bus (s.deliver m bus).2 := by
  cases hfind : (m.textProperty? Property.correlation).bind (bus.findBuffer? s.aggregator) with
  | none => exact .of_runState (by rw [deliver_rejected (by simp [hfind])])
  | some ref => exact ⟨ref, deliver_runState hfind⟩

/-! ## Beginning and ending -/

/-- The limits of a run, as the policy gives them for a message. -/
def limitsFor (s : Scatter) (targets : Nat) (m : Message) (ev : Evaluator) : BufferLimits where
  expected := targets
  minimum := Policy.resolve? s.config.policy.minimum ev m
  maximum := Policy.resolve? s.config.policy.maximum ev m

/-- The time that a run may take, as the policy gives it for a message: zero counts as
none, and then the default applies. -/
def timeoutFor (s : Scatter) (m : Message) (ev : Evaluator) : Option UInt64 :=
  ((Policy.resolve? s.config.policy.timeout ev m).filter (0 < ·)).or s.config.defaultTimeout

theorem correlationOf_runState (s : Scatter) (m : Message) (bus : Bus) :
    (s.correlationOf m bus).2.runState = bus.runState ∧
      (s.correlationOf m bus).2.evaluator = bus.evaluator := by
  unfold correlationOf
  cases s.config.policy.correlation with
  | none => exact ⟨rfl, rfl⟩
  | some e =>
    simp only
    split <;> exact ⟨rfl, rfl⟩

/-- A run that begins has opened a buffer under its key; its deadline follows from its
timeout, and all targets are still waiting. -/
theorem begin_eq_ok {s : Scatter} {targets : List Mediator} {m : Message} {bus bus' : Bus}
    {g : Gathering} (h : s.begin targets m bus = (.ok g, bus')) :
    g.scatter = s ∧ g.waiting = (List.range targets.length).zip targets ∧
      (bus.openBuffer s.aggregator g.correlation (s.limitsFor targets.length m bus.evaluator)).1 =
        .ok g.buffer ∧
      bus'.runState = (bus.openBuffer s.aggregator g.correlation
        (s.limitsFor targets.length m bus.evaluator)).2.runState ∧
      g.deadline.map Timer.due =
        (s.timeoutFor m bus.evaluator).map fun ms => bus.now + ms.toNat := by
  obtain ⟨hrun, hev⟩ := s.correlationOf_runState m bus
  unfold begin at h
  simp only [resolve?] at h
  split at h
  · simp at h
  · rename_i ref opened hopen
    -- the look-ups of the policy are noted on the bus, and change nothing else
    have hsame := openBuffer_runState (b := (((s.correlationOf m bus).2.noteEvaluated
      (s.config.policy.minimum.bind Policy.expression?).toList).noteEvaluated
      (s.config.policy.maximum.bind Policy.expression?).toList).noteEvaluated
      (s.config.policy.timeout.bind Policy.expression?).toList) hrun s.aggregator
      (s.correlationOf m bus).1 (s.limitsFor targets.length m bus.evaluator)
    have hlimits : (⟨targets.length, Policy.resolve? s.config.policy.minimum
        (s.correlationOf m bus).2.evaluator m, Policy.resolve? s.config.policy.maximum
        (s.correlationOf m bus).2.evaluator m⟩ : BufferLimits) =
        s.limitsFor targets.length m bus.evaluator := by
      rw [limitsFor, hev]
    have htimeout : ((Policy.resolve? s.config.policy.timeout
        (s.correlationOf m bus).2.evaluator m).filter (0 < ·)).or s.config.defaultTimeout =
        s.timeoutFor m bus.evaluator := by
      rw [timeoutFor, hev]
    simp only [noteEvaluated] at hopen h hsame
    rw [hlimits] at hopen
    rw [htimeout] at h
    rw [hopen] at hsame
    obtain ⟨hok, hbus⟩ := hsame
    have hnow : opened.now = bus.now := by
      have hn := congrArg RunState.now hbus
      rw [openBuffer_eq] at hn
      revert hn
      cases bus.inProgress s.aggregator (s.correlationOf m bus).1 <;> exact id
    cases ht : s.timeoutFor m bus.evaluator with
    | none =>
      simp only [ht, Prod.mk.injEq, Except.ok.injEq] at h
      obtain ⟨rfl, rfl⟩ := h
      exact ⟨rfl, rfl, hok.symm, hbus, rfl⟩
    | some ms =>
      simp only [ht, Prod.mk.injEq, Except.ok.injEq] at h
      obtain ⟨rfl, rfl⟩ := h
      exact ⟨rfl, rfl, hok.symm, hbus, by simp [startTimer, hnow]⟩

/-- A run that is refused leaves the runs as they are. -/
theorem begin_eq_error {s : Scatter} {targets : List Mediator} {m : Message} {bus bus' : Bus}
    {e : Failure} (h : s.begin targets m bus = (.error e, bus')) :
    bus'.runState = bus.runState := by
  obtain ⟨hrun, hev⟩ := s.correlationOf_runState m bus
  unfold begin at h
  simp only [resolve?] at h
  split at h
  · rename_i e' opened hopen
    have hsame := openBuffer_eq_error (congrArg Prod.fst hopen)
    rw [hopen] at hsame
    obtain rfl : opened = bus' := congrArg Prod.snd h
    exact (congrArg runState hsame).trans hrun
  · simp at h

/-- A run that is concluded has taken the contents out of its buffer, and its key is
forgotten. -/
theorem conclude_runState (g : Gathering) (m : Message) (bus : Bus) :
    (conclude g m bus).2.2.runState = ((bus.updateBuffer g.buffer (·.perform .take)).forgetBuffer
      g.scatter.aggregator g.correlation).runState := by
  have htake : (bus.updateBuffer g.buffer fun _ =>
      ((bus.buffer? g.buffer).getD default).take.2) =
      bus.updateBuffer g.buffer (·.perform .take) :=
    updateBuffer_congr fun buffer hb => by simp [hb, Buffer.perform]
  unfold conclude
  simp only [htake]
  split <;> rfl

end Scatter

end ServiceBus
