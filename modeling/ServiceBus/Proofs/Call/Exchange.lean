import ServiceBus.Proofs.Call.Sending
import ServiceBus.Proofs.Flow.Outcome

/-
ServiceBus.Proofs.Call.Exchange — what of a message outlasts a send.

Between the message that a call sends and the one that it has back, attempts are
marked and cleared away, the reply replaces the body, and the channel makes its
edits. A property of messages that survives each of these (`Edit.Lasts`,
`Outlasts`) survives the send as a whole: `send_endsIn` says so of every course of a
send, with as many attempts, waits and cut-offs as there may be, while the bus
changes in any way that leaves the channels to such edits (`Bus.Allows`).

`Exchange` lists the work of a send, step by step; a send that succeeds comes to
its end from there.
-/
namespace ServiceBus

/-- What becomes of the messages in the channels is made of such edits only. -/
def Bus.Allows (allowed : Edit Mediator → Prop) (bus : Bus) : Prop :=
  ∀ channel, ∀ edits ∈ (bus.transport channel).edits, ∀ e ∈ edits, allowed e

/-- An edit that takes no time and keeps a property of messages. -/
structure Edit.Lasts (P : Message → Prop) (e : Edit Mediator) : Prop where
  plain : e.isHandleFault = false
  keeps : ∀ m bus, P m → P (e.perform m bus).2.1

/-- A property of messages that a send keeps, but for the edits of its channel. -/
structure Outlasts (P : Message → Prop) : Prop where
  marked : ∀ {m} name, P m → P (m.setProperty Property.lastEndpoint (.text name))
  cleared : ∀ {m}, P m → P m.clearCallProperties
  answered : ∀ {m} payload, P m → P { m.setPayload payload with response := true }

/-- Whether pending work is that of a send which waits for its channel. -/
def Pending.isSend : Pending → Bool
  | .implicit _ => true
  | .attempt .. => true
  | _ => false

/-! ## The work of a send -/

/-- The task of a send and the work behind it. -/
inductive Exchange (P : Message → Prop) : Task → List Pending → Prop where
  | attempting (d : Dispatch) : Exchange P (.attempt d) []
  | pausing (t : Timer) (d : Dispatch) : Exchange P (.sleep t) [.retry d]
  | paused (r : Reply) (d : Dispatch) : Exchange P (.reply r) [.retry d]
  | transmitting {edits : List (Edit Mediator)} {p : Pending} (outcome : Outcome)
      (hedits : ∀ e ∈ edits, e.Lasts P) (hp : p.isSend = true) :
      Exchange P (.transmit outcome edits) [p]
  /-- Waits for the channel. -/
  | delaying {edits : List (Edit Mediator)} {p : Pending} (t : Timer) (outcome : Outcome)
      (hedits : ∀ e ∈ edits, e.Lasts P) (hp : p.isSend = true) :
      Exchange P (.sleep t) [.transmit outcome edits, p]
  | delayed {edits : List (Edit Mediator)} {p : Pending} (r : Reply) (outcome : Outcome)
      (hedits : ∀ e ∈ edits, e.Lasts P) (hp : p.isSend = true) :
      Exchange P (.reply r) [.transmit outcome edits, p]
  | hanging {p : Pending} (hp : p.isSend = true) : Exchange P .hang [p]
  | editing {edits : List (Edit Mediator)} {p : Pending} (findings : List Finding)
      (hedits : ∀ e ∈ edits, e.Lasts P) (hp : p.isSend = true) :
      Exchange P (.edit edits findings) [.reply (.proceed true), p]
  | edited {p : Pending} (r : Reply) (hp : p.isSend = true) :
      Exchange P (.reply r) [.reply (.proceed true), p]
  | replied {p : Pending} (r : Reply) (hp : p.isSend = true) : Exchange P (.reply r) [p]

/-- A send on its way or at its end; what the message of a failed one is like does not
matter. -/
inductive Exchanging (P : Message → Prop) : Flow → Prop where
  | underway {m : Message} {task : Task} {k : List Pending} (hm : P m) (h : Exchange P task k) :
      Exchanging P (.busy m task k)
  | ended {m : Message} {r : Reply} (h : ∀ flag, r.verdict = .ok flag → P m) :
      Exchanging P (Flow.answer m r [])

namespace Exchanging

variable {P : Message → Prop} {m : Message} {bus : Bus}

theorem failed (m : Message) (e : Failure) : Exchanging P (Flow.answer m (.failed e) []) :=
  .ended (by simp [Reply.verdict])

/-- A property that holds of the message and its reply holds at the end of the send. -/
theorem of_answer {r : Reply} (h : Exchanging P (Flow.answer m r [])) {flag : Bool}
    (hr : r.verdict = .ok flag) : P m := by
  generalize hf : Flow.answer m r [] = f at h
  cases h with
  | underway hm _ =>
    obtain ⟨rfl, -, -⟩ := Flow.busy.inj hf
    exact hm
  | ended h =>
    obtain ⟨rfl, hreply, -⟩ := Flow.busy.inj hf
    obtain rfl := Task.reply.inj hreply
    exact h flag hr

/-! ## The moves of a send -/

/-- The channel is given a message. -/
theorem transmit {p : Pending} (hm : P m) (hp : p.isSend = true) (hok : bus.Allows (·.Lasts P))
    (channel : String) (address : Option String) :
    Exchanging P (Flow.transmit channel address m [p] bus).1 := by
  refine .underway hm (.transmitting _ ?_ hp)
  exact Transport.edits_of_send (hok channel) _

theorem attempt (d : Dispatch) (hm : P m) (hok : bus.Allows (·.Lasts P)) :
    Exchanging P (Flow.attempt d m [] bus).1 := by
  unfold Flow.attempt
  split
  · exact failed m _
  · split
    · exact failed m _
    · cases d.timeout.limit with
      | none => exact transmit hm rfl hok _ _
      | some limit =>
        have hstarted : (bus.startTimer limit).2.Allows (·.Lasts P) := hok
        exact transmit hm rfl hstarted _ _

theorem send (hP : Outlasts P) (c : Call) (hm : P m) (hok : bus.Allows (·.Lasts P)) :
    Exchanging P (Flow.send c m [] bus).1 := by
  unfold Flow.send
  split
  · unfold Flow.dispatch
    split
    · exact failed m _
    · exact .underway (hP.marked _ hm) (.attempting _)
  · exact transmit hm rfl hok _ _

theorem deliver (hP : Outlasts P) {outcome : Outcome} {edits : List (Edit Mediator)}
    {p : Pending} (hm : P m) (hedits : ∀ e ∈ edits, e.Lasts P) (hp : p.isSend = true) :
    Exchanging P (Flow.deliver outcome edits m [p] bus).1 := by
  cases outcome with
  | success => exact .underway hm (.editing _ hedits hp)
  | respond payload => exact .underway (hP.answered payload hm) (.editing _ hedits hp)
  | fault fault => exact .underway hm (.replied _ hp)
  | hang => exact .underway hm (.hanging hp)
  | after delay rest => exact .underway hm (.delaying _ _ hedits hp)

theorem edit {edits : List (Edit Mediator)} {findings : List Finding} {p : Pending} (hm : P m)
    (hedits : ∀ e ∈ edits, e.Lasts P) (hp : p.isSend = true) :
    Exchanging P (Flow.edit edits findings m [.reply (.proceed true), p] bus).1 := by
  unfold Flow.edit
  split
  · exact .underway hm (.edited _ hp)
  · exact absurd (hedits .handleFault (by simp)).plain (by simp [Edit.isHandleFault])
  · next e rest _ =>
    rw [List.forall_mem_cons] at hedits
    exact .underway (hedits.1.keeps m bus hm) (.editing _ hedits.2 hp)

/-- A failed attempt is followed by another one, at once or later, or by a failure. -/
theorem undelivered (hP : Outlasts P) (d : Dispatch) (started : Time) (fault : TransportFault)
    (hm : P m) : Exchanging P (Flow.undelivered d started fault m [] bus).1 := by
  unfold Flow.undelivered
  simp only
  split
  · exact failed m _
  · split
    · split
      · exact .underway (hP.marked _ (hP.cleared hm)) (.attempting d)
      · exact .underway hm (.pausing _ d)
    · exact failed _ _

/-- The reply of the channel ends the send, or the attempt. -/
theorem replied (hP : Outlasts P) {r : Reply} {p : Pending} (hm : P m) (hp : p.isSend = true) :
    Exchanging P (Flow.resume r m p [] bus).1 := by
  cases p with
  | implicit mode =>
    simp only [Flow.resume]
    split
    · exact failed _ _
    · exact .ended fun _ _ => hm
  | attempt d started deadline =>
    simp only [Flow.resume]
    split
    · exact undelivered hP d started _ hm
    · exact .ended fun _ _ => hm
  | _ => simp [Pending.isSend] at hp

/-- An attempt that is cut off is refused. -/
theorem cut {p : Pending} {f : Flow} (hm : P m) (hp : p.isSend = true)
    (h : Flow.cut? m bus [p] = some f) : Exchanging P f := by
  cases p with
  | implicit mode => simp [Flow.cut?] at h
  | attempt d started deadline =>
    cases deadline with
    | none => simp [Flow.cut?] at h
    | some t =>
      simp only [Flow.cut?] at h
      split at h
      · obtain rfl := Option.some.inj h
        exact .underway hm (.replied _ rfl)
      · simp at h
  | _ => simp [Pending.isSend] at hp

/-- Every move of a send leads to a state of the send. -/
theorem step (hP : Outlasts P) {f f' : Flow} {bus' : Bus} (h : Exchanging P f)
    (hok : bus.Allows (·.Lasts P)) (hs : f.step bus = some (f', bus')) : Exchanging P f' := by
  cases h with
  | ended => simp [Flow.answer, Flow.step, Flow.work] at hs
  | underway hm h =>
    cases h with
    | attempting d => exact Flow.of_move (attempt d hm hok) hs
    | pausing t d =>
      simp only [Flow.step, Flow.work, Flow.cut?, Option.map_none] at hs
      split at hs
      · exact Flow.of_move (x := (_, _)) (.underway hm (.paused _ d)) hs
      · simp at hs
    | paused r d =>
      exact Flow.of_move (x := (_, _)) (.underway (hP.marked _ (hP.cleared hm)) (.attempting d)) hs
    | transmitting outcome hedits hp => exact Flow.of_move (deliver hP hm hedits hp) hs
    | delaying t outcome hedits hp =>
      simp only [Flow.step, Flow.work] at hs
      split at hs
      · exact Flow.of_move (x := (_, _)) (.underway hm (.delayed _ _ hedits hp)) hs
      · exact cut hm hp (Flow.cut_of_move hs).1
    | delayed r outcome hedits hp =>
      exact Flow.of_move (x := (_, _)) (.underway hm (.transmitting _ hedits hp)) hs
    | hanging hp =>
      exact cut hm hp (Flow.cut_of_move hs).1
    | editing findings hedits hp => exact Flow.of_move (edit hm hedits hp) hs
    | edited r hp =>
      simp only [Flow.step, Flow.work, Flow.resume] at hs
      split at hs
      · exact Flow.of_move (x := (_, _)) (.underway hm (.replied _ hp)) hs
      · exact Flow.of_move (x := (_, _)) (.underway hm (.replied _ hp)) hs
    | replied r hp => exact Flow.of_move (replied hP hm hp) hs

end Exchanging

/-- What outlasts a send, and the edits of its channel, still holds when the send has
succeeded. -/
theorem send_endsIn {P : Message → Prop} (hP : Outlasts P) (c : Call) {m : Message} {bus : Bus}
    (hm : P m) (hok : bus.Allows (·.Lasts P)) :
    Flow.EndsIn (·.Allows (·.Lasts P)) (fun m' r => ∀ flag, r.verdict = .ok flag → P m')
      (Flow.send c m [] bus).1 :=
  .of_invariant (Exchanging.send hP c hm hok) (fun h hok hs => h.step hP hok hs)
    fun _ _ h _ hr => h.of_answer hr

end ServiceBus
