import ServiceBus.Flow.Step

/-
ServiceBus.Proofs.Bus.Runs — the part of a bus that runs of scatter-gathers
depend on.

`Bus.runState` is that part: the buffers, the aggregators and the clock. No
move of a flow that is busy with anything but a scatter-gather changes it, and
there is one lemma for each function that says so; what scatter-gathers do to it
is in `ServiceBus.Proofs.Traffic.Effect`.
-/
namespace ServiceBus

/-- What runs of scatter-gathers depend on. -/
structure RunState where
  buffers : List Buffer
  aggregators : Dict Aggregator
  now : Time
  rung : Time

namespace Bus

/-- The part of a bus that runs of scatter-gathers depend on. -/
def runState (b : Bus) : RunState := ⟨b.buffers, b.aggregators, b.now, b.rung⟩

/-! ## Operations of the bus -/

section Operations

variable (b : Bus)

@[simp] theorem runState_freshId : b.freshId.2.runState = b.runState := rfl
@[simp] theorem runState_startTimer (delay : Nat) :
    (b.startTimer delay).2.runState = b.runState := rfl
@[simp] theorem runState_measure (x : Metric) : (b.measure x).runState = b.runState := rfl
@[simp] theorem runState_enter (name : String) : (b.enter name).runState = b.runState := rfl
@[simp] theorem runState_noteEvaluated (es : List String) :
    (b.noteEvaluated es).runState = b.runState := rfl
@[simp] theorem runState_updateHealth (name : String) (f : Health → Health) :
    (b.updateHealth name f).runState = b.runState := rfl
@[simp] theorem runState_setTransport (name : String) (t : Transport) :
    (b.setTransport name t).runState = b.runState := rfl
@[simp] theorem runState_settingsFor (e : Endpoint) (m : Message) :
    (b.settingsFor e m).2.runState = b.runState := rfl
@[simp] theorem runState_timeoutFor (e : Endpoint) (m : Message) :
    (b.timeoutFor e m).2.runState = b.runState := rfl

@[simp] theorem runState_recordFailure (e : Endpoint) (code : Int32) (s : Settings) :
    (b.recordFailure e code s).2.runState = b.runState := by
  simp only [recordFailure]
  split <;> rfl

end Operations

end Bus

namespace Flow

open Bus

/-! ## Moves of a busy flow -/

section Moves

variable (m : Message) (k : List Pending) (bus : Bus)

@[simp] theorem runState_dispatch (endpoint channel : String) (mode : SendMode) :
    (dispatch endpoint channel mode m k bus).2.runState = bus.runState := by
  unfold dispatch
  split <;> rfl

@[simp] theorem runState_transmit (channel : String) (address : Option String) :
    (transmit channel address m k bus).2.runState = bus.runState := rfl

@[simp] theorem runState_attempt (d : Dispatch) :
    (attempt d m k bus).2.runState = bus.runState := by
  unfold attempt
  split
  · rfl
  · split
    · rfl
    · cases d.timeout.limit <;> rfl

@[simp] theorem runState_delivered (d : Dispatch) (started : Time) :
    (delivered d started m k bus).2.runState = bus.runState := by
  unfold delivered
  cases d.mode <;> rfl

@[simp] theorem runState_undelivered (d : Dispatch) (started : Time) (fault : TransportFault) :
    (undelivered d started fault m k bus).2.runState = bus.runState := by
  unfold undelivered
  simp only
  split
  · rfl
  · rename_i e _
    have hr := runState_recordFailure
      ((bus.measure (.dispatched d.endpoint
          (if fault.code.getD d.mode.defaultCode = Code.timeout then .timeout else .fault)
          (bus.now - started))).measure (.faulted d.endpoint (fault.code.getD d.mode.defaultCode)))
      e (fault.code.getD d.mode.defaultCode) d.settings
    simp only [runState_measure] at hr
    split
    · rename_i heq
      rw [heq] at hr
      split
      · exact hr
      · exact hr
    · rename_i heq
      rw [heq] at hr
      exact hr

@[simp] theorem runState_send (c : Call) : (send c m k bus).2.runState = bus.runState := by
  unfold send
  split <;> simp

@[simp] theorem runState_call (c : Call) : (call c m k bus).2.runState = bus.runState := by
  unfold call
  split
  · rfl
  · simp only
    split
    · rfl
    · split
      · simp
      · split <;> simp

theorem runState_mediate {mediator : Mediator}
    (h : ∀ s targets, mediator ≠ .scatter s targets) :
    (mediate mediator m k bus).2.runState = bus.runState := by
  cases mediator with
  | recorder r =>
    simp only [mediate]
    split <;> rfl
  | editor name edits result => rfl
  | call c => simp [mediate]
  | sequence name kind children onError =>
    simp only [mediate]
    split <;> rfl
  | scatter s targets => exact absurd rfl (h s targets)

theorem runState_perform (e : Edit Mediator) : (e.perform m bus).2.2.runState = bus.runState := by
  cases e with
  | popIfHead name =>
    simp only [Edit.perform]
    split
    · rfl
    · split <;> rfl
  | resumeFrame =>
    simp only [Edit.perform]
    split <;> rfl
  | pushTopAt n =>
    simp only [Edit.perform]
    split <;> rfl
  | _ => rfl

@[simp] theorem runState_edit (edits : List (Edit Mediator)) (findings : List Finding) :
    (edit edits findings m k bus).2.runState = bus.runState := by
  unfold edit
  split
  · rfl
  · rfl
  · exact runState_perform m bus _

@[simp] theorem runState_deliver (outcome : Outcome) (edits : List (Edit Mediator)) :
    (deliver outcome edits m k bus).2.runState = bus.runState := by
  cases outcome <;> rfl

@[simp] theorem runState_resume (r : Reply) (p : Pending) :
    (resume r m p k bus).2.runState = bus.runState := by
  cases p with
  | children s position rest =>
    simp only [resume]
    split <;> rfl
  | reply r' =>
    simp only [resume]
    split <;> rfl
  | implicit mode =>
    simp only [resume]
    split <;> rfl
  | attempt d started deadline =>
    simp only [resume]
    split <;> simp
  | _ => rfl

end Moves

end Flow

end ServiceBus
