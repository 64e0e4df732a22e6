import ServiceBus.Proofs.Call.Exchange
import ServiceBus.Proofs.Call.Recorded
import ServiceBus.Proofs.Dispatch.Endpoints

/-
ServiceBus.Proofs.Call.Failing — how a send fails.

A send has not changed its message by the time it fails, but for the marks of its
attempts and the failure that it attaches: channels make their edits after a
success only. One of these edits may hand the message to a fault handler, though, and
while that runs the attempt can still be cut off.

`Sent P` lists the states of a send for a property `P` of messages that marks and
attached failures keep. Every move leads to such a state, or enters a handler, behind
which nothing is known of the message (`Sent.step`). So a fault is on the message of
every failed send (`attachedTo_of_send`), and `P` holds of it where no handler was
entered on the way (`undergone_of_send`).
-/
namespace ServiceBus

/-- A property of messages that the attempts of a send keep, and the failure that ends
them. -/
structure Undergoes (P : Message → Prop) : Prop where
  marked : ∀ {m} name, P m → P (m.setProperty Property.lastEndpoint (.text name))
  cleared : ∀ {m}, P m → P m.clearCallProperties
  described : ∀ {m} code text detail, P m → P (m.setError code text detail)

theorem undergoes_true : Undergoes fun _ => True :=
  ⟨fun _ _ => trivial, fun _ => trivial, fun _ _ _ _ => trivial⟩

namespace Flow

/-- The flow is about to enter a mediator. -/
def Enters (f : Flow) : Prop := ∃ m x k, f = .busy m (.mediate x) k

/-- A flow comes to another one, and enters no mediator on the way. -/
inductive ReachesDirectly (ok : Bus → Prop) (f : Flow) : Flow → Prop where
  | refl : ReachesDirectly ok f f
  | move {g g' : Flow} {bus bus' : Bus} (h : ReachesDirectly ok f g) (hok : ok bus)
      (hs : g.step bus = some (g', bus')) (hdirect : ¬ g'.Enters) : ReachesDirectly ok f g'

theorem ReachesDirectly.reaches {ok : Bus → Prop} {f g : Flow} (h : ReachesDirectly ok f g) :
    Reaches ok f g := by
  induction h with
  | refl => exact .refl
  | move _ hok hs _ ih => exact .move ih hok hs

end Flow

/-! ## Faults on the message -/

/-- A dispatch that failed has left its code, its text and its detail on the message. -/
def Failure.AttachedTo (e : Failure) (m : Message) : Prop :=
  ∀ code text detail, e = .dispatch code text detail →
    m.property? Property.errorCode = some (.int code.toInt) ∧
      m.property? Property.errorMessage = some (.text text) ∧
      m.property? Property.errorDetail = detail.map .text

namespace Failure

theorem attachedTo_setError (code : Int32) (text : String) (detail : Option String) (m : Message) :
    (dispatch code text detail).AttachedTo (m.setError code text detail) := by
  intro code' text' detail' he
  obtain ⟨rfl, rfl, rfl⟩ := dispatch.inj he
  simp [Property.errorCode, Property.errorMessage, Property.errorDetail]

/-- What is no fault of a channel is not attached. -/
theorem attachedTo_of_isDispatch {e : Failure} (h : e.isDispatch = false) (m : Message) :
    e.AttachedTo m := by
  rintro code text detail rfl
  simp [isDispatch] at h

end Failure

theorem Endpoint.surface_attachedTo (name : String) (action : TimeoutAction) (code : Int32)
    (fault : TransportFault) (m : Message) :
    (surface name action code fault m).1.AttachedTo (surface name action code fault m).2 := by
  simp only [surface]
  split
  · rintro code text detail he
    simp at he
  · exact Failure.attachedTo_setError _ _ _ m

theorem Endpoint.surface_message (name : String) (action : TimeoutAction) (code : Int32)
    (fault : TransportFault) (m : Message) :
    (surface name action code fault m).2 =
      m.setError code (fault.message.getD unnamedFault) fault.detail := by
  simp only [surface]
  split <;> rfl

/-! ## Endpoints that are not there -/

namespace Bus

variable {b : Bus} {name : String} {e : Failure}

theorem isDispatch_of_endpoint (h : b.endpoint name = .error e) : e.isDispatch = false := by
  unfold endpoint at h
  split at h
  · simp at h
  · obtain rfl := Except.error.inj h
    rfl

theorem isDispatch_of_follow {r : Registry} {key current : String} {n : Nat}
    (h : r.follow key n current = .error e) : e.isDispatch = false := by
  induction n generalizing current with
  | zero =>
    obtain rfl := Except.error.inj h
    rfl
  | succ n ih =>
    simp only [Registry.follow] at h
    split at h
    · obtain rfl := Except.error.inj h
      rfl
    · split at h
      · exact ih h
      · simp at h

theorem isDispatch_of_concrete (h : b.concrete name = .error e) : e.isDispatch = false := by
  unfold concrete at h
  cases hname : b.endpoint name with
  | error failure =>
    rw [hname] at h
    obtain rfl := Except.error.inj h
    exact isDispatch_of_endpoint hname
  | ok found =>
    rw [hname] at h
    have h : b.endpoints.concrete found = .error e := h
    unfold Registry.concrete at h
    split at h
    · exact isDispatch_of_follow h
    · simp at h

end Bus

/-! ## The states of a send -/

/-- Task and work of a send that has not succeeded yet. -/
inductive Trying : Task → List Pending → Prop where
  | attempting (d : Dispatch) : Trying (.attempt d) []
  | pausing (t : Timer) (d : Dispatch) : Trying (.sleep t) [.retry d]
  | paused (r : Reply) (d : Dispatch) : Trying (.reply r) [.retry d]
  | transmitting (outcome : Outcome) (edits : List (Edit Mediator)) {p : Pending}
      (hp : p.isSend = true) : Trying (.transmit outcome edits) [p]
  | delaying (t : Timer) (outcome : Outcome) (edits : List (Edit Mediator)) {p : Pending}
      (hp : p.isSend = true) : Trying (.sleep t) [.transmit outcome edits, p]
  | delayed (r : Reply) (outcome : Outcome) (edits : List (Edit Mediator)) {p : Pending}
      (hp : p.isSend = true) : Trying (.reply r) [.transmit outcome edits, p]
  | hanging {p : Pending} (hp : p.isSend = true) : Trying .hang [p]
  | refused (fault : TransportFault) {p : Pending} (hp : p.isSend = true) :
      Trying (.reply (.refused fault)) [p]

/-- Task and work of a send that has succeeded, while its channel makes its edits. -/
inductive Succeeding : Task → List Pending → Prop where
  | editing (edits : List (Edit Mediator)) (findings : List Finding) {p : Pending}
      (hp : p.isSend = true) : Succeeding (.edit edits findings) [.reply (.proceed true), p]
  /-- There was no handler to hand the message to. -/
  | unhandled (rest : List (Edit Mediator)) (findings : List Finding) {p : Pending}
      (hp : p.isSend = true) :
      Succeeding (.reply (.proceed false)) [.edits rest findings, .reply (.proceed true), p]
  | edited (findings : List Finding) {p : Pending} (hp : p.isSend = true) :
      Succeeding (.reply (.edited findings)) [.reply (.proceed true), p]
  | delivered {p : Pending} (hp : p.isSend = true) : Succeeding (.reply (.proceed true)) [p]

/-- A send on its way or at its end. -/
inductive Sent (P : Message → Prop) : Flow → Prop where
  | trying {m : Message} {task : Task} {k : List Pending} (hm : P m) (h : Trying task k) :
      Sent P (.busy m task k)
  | succeeding (m : Message) {task : Task} {k : List Pending} (h : Succeeding task k) :
      Sent P (.busy m task k)
  /-- An edit of the channel has handed the message to a handler, which may do anything. -/
  | handling (hP : ∀ m, P m) (f : Flow) (rest : List (Edit Mediator)) (findings : List Finding)
      {p : Pending} (hp : p.isSend = true) :
      Sent P (f.andThen [.edits rest findings, .reply (.proceed true), p])
  | failed {m : Message} {e : Failure} (hm : P m) (he : e.AttachedTo m) :
      Sent P (Flow.answer m (.failed e) [])
  | succeeded (m : Message) : Sent P (Flow.answer m (.proceed true) [])

namespace Sent

variable {P : Message → Prop} {m : Message} {bus bus' : Bus} {f f' : Flow}

/-- A send that came to its end has succeeded, or failed with a fault attached. -/
theorem of_answer {r : Reply} (h : Sent P (Flow.answer m r [])) :
    r = .proceed true ∨ ∃ e, r = .failed e ∧ P m ∧ e.AttachedTo m := by
  generalize hf : Flow.answer m r [] = f at h
  cases h with
  | trying hm h =>
    obtain ⟨-, htask, rfl⟩ := Flow.busy.inj hf
    cases h
    simp at htask
  | succeeding m h =>
    obtain ⟨-, -, rfl⟩ := Flow.busy.inj hf
    nomatch h
  | handling hP f rest findings hp => cases f <;> simp [Flow.answer, Flow.andThen] at hf
  | failed hm he =>
    obtain ⟨rfl, hreply, -⟩ := Flow.busy.inj hf
    obtain rfl := Task.reply.inj hreply
    exact .inr ⟨_, rfl, hm, he⟩
  | succeeded m =>
    obtain ⟨rfl, hreply, -⟩ := Flow.busy.inj hf
    exact .inl (Task.reply.inj hreply)

/-! ## The moves of a send -/

theorem transmit {p : Pending} (hm : P m) (hp : p.isSend = true) (channel : String)
    (address : Option String) : Sent P (Flow.transmit channel address m [p] bus).1 :=
  .trying hm (.transmitting _ _ hp)

theorem attempt (d : Dispatch) (hm : P m) : Sent P (Flow.attempt d m [] bus).1 := by
  unfold Flow.attempt
  split
  · next hunknown =>
    exact .failed hm (Failure.attachedTo_of_isDispatch (Bus.isDispatch_of_endpoint hunknown) m)
  · split
    · exact .failed hm (by simp [Failure.AttachedTo])
    · cases d.timeout.limit with
      | none => exact transmit hm rfl _ _
      | some limit => exact transmit hm rfl _ _

theorem send (hP : Undergoes P) (c : Call) (hm : P m) : Sent P (Flow.send c m [] bus).1 := by
  unfold Flow.send
  split
  · unfold Flow.dispatch
    split
    · next hunknown =>
      exact .failed hm (Failure.attachedTo_of_isDispatch (Bus.isDispatch_of_concrete hunknown) m)
    · exact .trying (hP.marked _ hm) (.attempting _)
  · exact transmit hm rfl _ _

theorem deliver (outcome : Outcome) (edits : List (Edit Mediator)) {p : Pending} (hm : P m)
    (hp : p.isSend = true) : Sent P (Flow.deliver outcome edits m [p] bus).1 := by
  cases outcome with
  | success => exact .succeeding m (.editing edits _ hp)
  | respond payload => exact .succeeding _ (.editing edits _ hp)
  | fault fault => exact .trying hm (.refused fault hp)
  | hang => exact .trying hm (.hanging hp)
  | after delay rest => exact .trying hm (.delaying _ _ _ hp)

/-- A failed attempt is followed by another one, at once or later, or by a failure that is
attached. -/
theorem undelivered (hP : Undergoes P) (d : Dispatch) (started : Time) (fault : TransportFault)
    (hm : P m) : Sent P (Flow.undelivered d started fault m [] bus).1 := by
  unfold Flow.undelivered
  simp only
  split
  · next hunknown =>
    exact .failed hm (Failure.attachedTo_of_isDispatch (Bus.isDispatch_of_endpoint hunknown) m)
  · split
    · split
      · exact .trying (hP.marked _ (hP.cleared hm)) (.attempting d)
      · exact .trying hm (.pausing _ d)
    · refine .failed ?_ (Endpoint.surface_attachedTo _ _ _ _ _)
      rw [Endpoint.surface_message]
      exact hP.described _ _ _ hm

/-- The channel has not delivered. -/
theorem refused (hP : Undergoes P) (fault : TransportFault) {p : Pending} (hm : P m)
    (hp : p.isSend = true) : Sent P (Flow.resume (.refused fault) m p [] bus).1 := by
  cases p with
  | implicit mode =>
    exact .failed (hP.described _ _ _ hm) (Failure.attachedTo_setError _ _ _ m)
  | attempt d started deadline => exact undelivered hP d started fault hm
  | _ => simp [Pending.isSend] at hp

/-- An attempt that is cut off is refused. -/
theorem cut {p : Pending} (hm : P m) (hp : p.isSend = true) (h : Flow.cut? m bus [p] = some f) :
    Sent P f := by
  cases p with
  | implicit mode => simp [Flow.cut?] at h
  | attempt d started deadline =>
    cases deadline with
    | none => simp [Flow.cut?] at h
    | some t =>
      simp only [Flow.cut?] at h
      split at h
      · obtain rfl := Option.some.inj h
        exact .trying hm (.refused _ rfl)
      · simp at h
  | _ => simp [Pending.isSend] at hp

theorem step_trying (hP : Undergoes P) {task : Task} {k : List Pending} (hm : P m)
    (h : Trying task k) (hs : (Flow.busy m task k).step bus = some (f', bus')) : Sent P f' := by
  cases h with
  | attempting d => exact Flow.of_move (attempt d hm) hs
  | pausing t d =>
    simp only [Flow.step, Flow.work, Flow.cut?, Option.map_none] at hs
    split at hs
    · exact Flow.of_move (x := (_, _)) (.trying hm (.paused _ d)) hs
    · simp at hs
  | paused r d =>
    exact Flow.of_move (x := (_, _)) (.trying (hP.marked _ (hP.cleared hm)) (.attempting d)) hs
  | transmitting outcome edits hp => exact Flow.of_move (deliver outcome edits hm hp) hs
  | delaying t outcome edits hp =>
    simp only [Flow.step, Flow.work] at hs
    split at hs
    · exact Flow.of_move (x := (_, _)) (.trying hm (.delayed _ _ _ hp)) hs
    · exact cut hm hp (Flow.cut_of_move hs).1
  | delayed r outcome edits hp =>
    exact Flow.of_move (x := (_, _)) (.trying hm (.transmitting _ _ hp)) hs
  | hanging hp => exact cut hm hp (Flow.cut_of_move hs).1
  | refused fault hp => exact Flow.of_move (refused hP fault hm hp) hs

theorem step_succeeding {task : Task} {k : List Pending} (h : Succeeding task k)
    (hs : (Flow.busy m task k).step bus = some (f', bus')) :
    Sent P f' ∨ f'.Enters ∧ Sent (fun _ => True) f' := by
  cases h with
  | editing edits findings hp =>
    cases edits with
    | nil => exact .inl (Flow.of_move (x := (_, _)) (.succeeding m (.edited _ hp)) hs)
    | cons e rest =>
      by_cases he : e = .handleFault
      · subst he
        cases htake : m.takeHandler with
        | none =>
          refine .inl (Flow.of_move ?_ hs)
          simp only [Flow.edit, Flow.runHandler, htake]
          exact .succeeding m (.unhandled rest findings hp)
        | some taken =>
          obtain ⟨x, m'⟩ := taken
          refine .inr (Flow.of_move (P := fun f => f.Enters ∧ Sent (fun _ => True) f) ?_ hs)
          simp only [Flow.edit, Flow.runHandler, htake]
          exact ⟨⟨_, _, _, rfl⟩, .handling (fun _ => trivial)
            (.busy m' (.mediate x) [.reply (.proceed true)]) rest findings hp⟩
      · refine .inl (Flow.of_move ?_ hs)
        simp only [Flow.edit]
        exact .succeeding _ (.editing rest _ hp)
  | unhandled rest findings hp =>
    exact .inl (Flow.of_move (x := (_, _)) (.succeeding m (.editing rest _ hp)) hs)
  | edited findings hp =>
    exact .inl (Flow.of_move (x := (_, _)) (.succeeding m (.delivered hp)) hs)
  | @delivered p hp =>
    left
    cases p with
    | implicit mode => exact Flow.of_move (x := (_, _)) (.succeeded m) hs
    | attempt d started deadline => exact Flow.of_move (.succeeded m) hs
    | _ => simp [Pending.isSend] at hp

theorem step_handling (hP : ∀ m, P m) {rest : List (Edit Mediator)} {findings : List Finding}
    {p : Pending} (hp : p.isSend = true)
    (hs : (f.andThen [.edits rest findings, .reply (.proceed true), p]).step bus =
      some (f', bus')) : Sent P f' := by
  cases hfinished : f.finished? with
  | some outcome =>
    obtain ⟨m, r⟩ := outcome
    obtain rfl := Flow.finished?_eq_some.1 hfinished
    exact Flow.of_move (x := (_, _)) (.succeeding m (.editing rest _ hp)) hs
  | none =>
    rw [Flow.step_andThen_or_cut hfinished] at hs
    cases hstep : f.step bus with
    | some x =>
      rw [hstep] at hs
      exact Flow.of_move (x := (_, _)) (.handling hP x.1 rest findings hp) hs
    | none =>
      rw [hstep] at hs
      exact cut (hP _) hp (Flow.cut_of_move hs).1

/-- Every move leads to a state of the send, or enters a handler. -/
theorem step (hP : Undergoes P) (h : Sent P f) (hs : f.step bus = some (f', bus')) :
    Sent P f' ∨ f'.Enters ∧ Sent (fun _ => True) f' := by
  cases h with
  | trying hm h => exact .inl (step_trying hP hm h hs)
  | succeeding m h => exact step_succeeding h hs
  | handling hP f rest findings hp => exact .inl (step_handling hP hp hs)
  | failed => simp [Flow.answer, Flow.step, Flow.work] at hs
  | succeeded => simp [Flow.answer, Flow.step, Flow.work] at hs

theorem reaches {ok : Bus → Prop} (h : Sent (fun _ => True) f) (hr : Flow.Reaches ok f f') :
    Sent (fun _ => True) f' := by
  induction hr with
  | refl => exact h
  | move _ _ hs ih =>
    obtain hg | ⟨-, hg⟩ := ih.step undergoes_true hs
    · exact hg
    · exact hg

theorem reachesDirectly (hP : Undergoes P) {ok : Bus → Prop} (h : Sent P f)
    (hr : Flow.ReachesDirectly ok f f') : Sent P f' := by
  induction hr with
  | refl => exact h
  | move _ _ hs hdirect ih =>
    obtain hg | ⟨henters, -⟩ := ih.step hP hs
    · exact hg
    · exact absurd henters hdirect

end Sent

section Fails

variable {ok : Bus → Prop} {c : Call} {m m' : Message} {bus : Bus} {r : Reply} {e : Failure}

theorem Sent.of_failed {P : Message → Prop} (h : Sent P (Flow.answer m' r []))
    (he : r.verdict = .error e) : P m' ∧ e.AttachedTo m' := by
  obtain rfl | ⟨e', rfl, hm', hattached⟩ := h.of_answer
  · simp [Reply.verdict] at he
  · obtain rfl := Except.error.inj he
    exact ⟨hm', hattached⟩

/-- A send that fails leaves its fault on the message. -/
theorem attachedTo_of_send (hr : Flow.Reaches ok (Flow.send c m [] bus).1 (Flow.answer m' r []))
    (he : r.verdict = .error e) : e.AttachedTo m' :=
  (((Sent.send undergoes_true c trivial).reaches hr).of_failed he).2

/-- A send that fails with no handler entered on the way has done nothing to the message but
attempts. -/
theorem undergone_of_send {P : Message → Prop} (hP : Undergoes P) (hm : P m)
    (hr : Flow.ReachesDirectly ok (Flow.send c m [] bus).1 (Flow.answer m' r []))
    (he : r.verdict = .error e) : P m' :=
  (((Sent.send hP c hm).reachesDirectly hP hr).of_failed he).1

end Fails

end ServiceBus
