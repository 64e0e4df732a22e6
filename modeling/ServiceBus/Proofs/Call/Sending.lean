import ServiceBus.Proofs.Call.WayBack
import ServiceBus.Flow.Step

/-
ServiceBus.Proofs.Call.Sending — what the channel of a call was given, whatever
becomes of the send.

A send makes attempts, waits for a channel and is cut off; `Sending c w` lists
the states that it can be in by itself, with nothing left for later. In each of
them the message still has the way back `w` as long as another attempt may
follow, and once the channel has the message, the message that the channel was
given last has that way back (`Bus.Saw`). A channel may change the message after
a send that succeeds, but does not hand it to its fault handlers
(`Transport.Plain`).

`Sends.step` says that every move leads from one of these states to another
one, so when the send has succeeded, the channel saw the way back.
-/
namespace ServiceBus

/-- Whether an edit hands the message to its fault handlers. -/
def Edit.isHandleFault {μ : Type} : Edit μ → Bool
  | .handleFault => true
  | _ => false

/-- A channel never hands a message to its fault handlers. -/
def Transport.Plain (t : Transport) : Prop :=
  ∀ edits ∈ t.edits, ∀ e ∈ edits, e.isHandleFault = false

/-- The message that a channel was given last has this way back. -/
def Bus.Saw (bus : Bus) (channel : String) (w : Continuation × List FaultHandler) : Prop :=
  ∃ sent earlier, (bus.transport channel).sent = sent :: earlier ∧ sent.message.wayBack = w

namespace Bus

variable {bus : Bus}

theorem transport_setTransport (channel : String) (t : Transport) :
    (bus.setTransport channel t).transport channel = t := by
  rw [transport, setTransport, Dict.get?_insert, if_pos rfl]
  rfl

theorem transport_congr {bus' : Bus} (h : bus'.transports = bus.transports) (channel : String) :
    bus'.transport channel = bus.transport channel := by
  rw [transport, transport, h]

theorem Saw.congr {bus' : Bus} {channel : String} {w : Continuation × List FaultHandler}
    (h : bus.Saw channel w) (ht : bus'.transports = bus.transports) : bus'.Saw channel w := by
  rw [Saw, transport_congr ht]
  exact h

theorem recordFailure_transports (e : Endpoint) (code : Int32) (s : Settings) :
    (bus.recordFailure e code s).2.transports = bus.transports := by
  simp only [recordFailure]
  split <;> rfl

theorem perform_transports (e : Edit Mediator) (m : Message) :
    (e.perform m bus).2.2.transports = bus.transports := by
  cases e <;> simp only [Edit.perform] <;> (repeat' split) <;> rfl

end Bus

/-- What holds of everything that a channel may do to messages holds of what it does to one. -/
theorem Transport.edits_of_send {P : Edit Mediator → Prop} {t : Transport}
    (h : ∀ edits ∈ t.edits, ∀ e ∈ edits, P e) (n : Nat) : ∀ e ∈ (t.edits[n]?).getD [], P e := by
  cases hnext : t.edits[n]? with
  | none => simp
  | some edits => exact h edits (List.mem_of_getElem? hnext)

theorem Transport.accept_spec (t : Transport) (address : Option String) (m : Message) :
    (t.accept address m).2.sent = ⟨address, m⟩ :: t.sent ∧
      (t.accept address m).2.edits = t.edits := by
  simp only [accept, nextOutcome]
  repeat' split
  all_goals exact ⟨rfl, rfl⟩

/-! ## The states of a send -/

/-- The work of a send that waits for its channel. -/
inductive AwaitsChannel (c : Call) : Pending → Prop where
  | implicit (mode : SendMode) : AwaitsChannel c (.implicit mode)
  | attempt {d : Dispatch} (started : Time) (deadline : Option Timer)
      (h : d.channel = c.transport) : AwaitsChannel c (.attempt d started deadline)

/-- The states of the send of a call for a message with the way back `w`. -/
inductive Sending (c : Call) (w : Continuation × List FaultHandler) : Flow → Bus → Prop where
  | attempting {m : Message} {d : Dispatch} {bus : Bus} (hm : m.wayBack = w)
      (hd : d.channel = c.transport) : Sending c w (.busy m (.attempt d) []) bus
  /-- Waits for the next attempt. -/
  | pausing {m : Message} {d : Dispatch} {t : Timer} {bus : Bus} (hm : m.wayBack = w)
      (hd : d.channel = c.transport) : Sending c w (.busy m (.sleep t) [.retry d]) bus
  | paused {m : Message} {r : Reply} {d : Dispatch} {bus : Bus} (hm : m.wayBack = w)
      (hd : d.channel = c.transport) : Sending c w (Flow.answer m r [.retry d]) bus
  | transmitting {m : Message} {outcome : Outcome} {edits : List (Edit Mediator)} {p : Pending}
      {bus : Bus} (hm : m.wayBack = w) (hsaw : bus.Saw c.transport w)
      (hedits : ∀ e ∈ edits, e.isHandleFault = false) (hp : AwaitsChannel c p) :
      Sending c w (.busy m (.transmit outcome edits) [p]) bus
  /-- Waits for the channel. -/
  | delaying {m : Message} {t : Timer} {outcome : Outcome} {edits : List (Edit Mediator)}
      {p : Pending} {bus : Bus} (hm : m.wayBack = w) (hsaw : bus.Saw c.transport w)
      (hedits : ∀ e ∈ edits, e.isHandleFault = false) (hp : AwaitsChannel c p) :
      Sending c w (.busy m (.sleep t) [.transmit outcome edits, p]) bus
  | delayed {m : Message} {r : Reply} {outcome : Outcome} {edits : List (Edit Mediator)}
      {p : Pending} {bus : Bus} (hm : m.wayBack = w) (hsaw : bus.Saw c.transport w)
      (hedits : ∀ e ∈ edits, e.isHandleFault = false) (hp : AwaitsChannel c p) :
      Sending c w (Flow.answer m r [.transmit outcome edits, p]) bus
  | hanging {m : Message} {p : Pending} {bus : Bus} (hm : m.wayBack = w)
      (hsaw : bus.Saw c.transport w) (hp : AwaitsChannel c p) : Sending c w (.busy m .hang [p]) bus
  /-- What the channel makes of the message is not sent any more. -/
  | editing {m : Message} {edits : List (Edit Mediator)} {findings : List Finding} {p : Pending}
      {bus : Bus} (hsaw : bus.Saw c.transport w)
      (hedits : ∀ e ∈ edits, e.isHandleFault = false) (hp : AwaitsChannel c p) :
      Sending c w (.busy m (.edit edits findings) [.reply (.proceed true), p]) bus
  | edited {m : Message} {findings : List Finding} {p : Pending} {bus : Bus}
      (hsaw : bus.Saw c.transport w) (hp : AwaitsChannel c p) :
      Sending c w (Flow.answer m (.edited findings) [.reply (.proceed true), p]) bus
  | replied {m : Message} {r : Reply} {p : Pending} {bus : Bus} (hsaw : bus.Saw c.transport w)
      (hm : ∀ fault, r = .refused fault → m.wayBack = w) (hp : AwaitsChannel c p) :
      Sending c w (Flow.answer m r [p]) bus
  | failed {m : Message} {e : Failure} {bus : Bus} :
      Sending c w (Flow.answer m (.failed e) []) bus
  | done {m : Message} {r : Reply} {bus : Bus} (hsaw : bus.Saw c.transport w) :
      Sending c w (Flow.answer m r []) bus

namespace Sending

variable {c : Call} {w : Continuation × List FaultHandler} {f : Flow} {bus bus' : Bus}

/-- A change of the bus that leaves the channels alone. -/
theorem congr (h : Sending c w f bus) (ht : bus'.transports = bus.transports) :
    Sending c w f bus' := by
  cases h with
  | attempting hm hd => exact .attempting hm hd
  | pausing hm hd => exact .pausing hm hd
  | paused hm hd => exact .paused hm hd
  | transmitting hm hsaw hedits hp => exact .transmitting hm (hsaw.congr ht) hedits hp
  | delaying hm hsaw hedits hp => exact .delaying hm (hsaw.congr ht) hedits hp
  | delayed hm hsaw hedits hp => exact .delayed hm (hsaw.congr ht) hedits hp
  | hanging hm hsaw hp => exact .hanging hm (hsaw.congr ht) hp
  | editing hsaw hedits hp => exact .editing (hsaw.congr ht) hedits hp
  | edited hsaw hp => exact .edited (hsaw.congr ht) hp
  | replied hsaw hm hp => exact .replied (hsaw.congr ht) hm hp
  | failed => exact .failed
  | done hsaw => exact .done (hsaw.congr ht)

/-- A send that has succeeded has given its message to the channel. -/
theorem saw {m : Message} {r : Reply} {flag : Bool} (h : Sending c w (Flow.answer m r []) bus)
    (hr : r.verdict = .ok flag) : bus.Saw c.transport w := by
  cases h with
  | failed => simp [Reply.verdict] at hr
  | done hsaw => exact hsaw

end Sending

/-- A state of a send, on a bus whose channel is plain. -/
structure Sends (c : Call) (w : Continuation × List FaultHandler) (x : Flow × Bus) : Prop where
  sending : Sending c w x.1 x.2
  plain : (x.2.transport c.transport).Plain

/-! ## The moves of a send -/

namespace Sends

variable {c : Call} {w : Continuation × List FaultHandler} {m : Message} {bus : Bus}

/-- A change of the bus that leaves the channels alone. -/
theorem congr {f : Flow} {bus' : Bus} (h : Sends c w (f, bus))
    (ht : bus'.transports = bus.transports) : Sends c w (f, bus') := by
  refine ⟨h.sending.congr ht, ?_⟩
  show (bus'.transport c.transport).Plain
  rw [Bus.transport_congr ht]
  exact h.plain

/-- The channel is given a message. -/
theorem transmit {p : Pending} (hm : m.wayBack = w) (hp : AwaitsChannel c p)
    (hplain : (bus.transport c.transport).Plain) (address : Option String) :
    Sends c w (Flow.transmit c.transport address m [p] bus) := by
  obtain ⟨hsent, hedits⟩ :=
    (bus.transport c.transport).accept_spec (address.or m.destination) m
  have haccepted : (Flow.transmit c.transport address m [p] bus).2.transport c.transport =
      ((bus.transport c.transport).accept (address.or m.destination) m).2 :=
    Bus.transport_setTransport _ _
  refine ⟨.transmitting hm ?_ ?_ hp, ?_⟩
  · rw [Bus.Saw, haccepted]
    exact ⟨_, _, hsent, hm⟩
  · exact Transport.edits_of_send hplain _
  · rw [haccepted, Transport.Plain, hedits]
    exact hplain

theorem attempt {d : Dispatch} (hm : m.wayBack = w) (hd : d.channel = c.transport)
    (hplain : (bus.transport c.transport).Plain) : Sends c w (Flow.attempt d m [] bus) := by
  unfold Flow.attempt
  split
  · exact ⟨.failed, hplain⟩
  · split
    · exact ⟨.failed, hplain⟩
    · cases hl : d.timeout.limit with
      | none =>
        simp only [hd]
        exact transmit hm (.attempt _ _ hd) hplain _
      | some limit =>
        have hstarted : ((bus.startTimer limit).2.transport c.transport).Plain := hplain
        simp only [hd]
        exact transmit hm (.attempt _ _ hd) hstarted _

/-- A send begins with its first attempt, or gives its message to the channel at
once. -/
theorem send (hm : m.wayBack = w) (hplain : (bus.transport c.transport).Plain) :
    Sends c w (Flow.send c m [] bus) := by
  unfold Flow.send
  split
  · unfold Flow.dispatch
    split
    · exact ⟨.failed, hplain⟩
    · exact ⟨.attempting hm rfl, hplain⟩
  · exact transmit hm (.implicit _) hplain _

theorem deliver {outcome : Outcome} {edits : List (Edit Mediator)} {p : Pending}
    (hm : m.wayBack = w) (hsaw : bus.Saw c.transport w)
    (hedits : ∀ e ∈ edits, e.isHandleFault = false) (hp : AwaitsChannel c p)
    (hplain : (bus.transport c.transport).Plain) :
    Sends c w (Flow.deliver outcome edits m [p] bus) := by
  cases outcome with
  | success => exact ⟨.editing hsaw hedits hp, hplain⟩
  | respond payload => exact ⟨.editing hsaw hedits hp, hplain⟩
  | fault fault => exact ⟨.replied hsaw (fun _ _ => hm) hp, hplain⟩
  | hang => exact ⟨.hanging hm hsaw hp, hplain⟩
  | after delay rest => exact ⟨.delaying hm hsaw hedits hp, hplain⟩

theorem edit {edits : List (Edit Mediator)} {findings : List Finding} {p : Pending}
    (hsaw : bus.Saw c.transport w) (hedits : ∀ e ∈ edits, e.isHandleFault = false)
    (hp : AwaitsChannel c p) (hplain : (bus.transport c.transport).Plain) :
    Sends c w (Flow.edit edits findings m [.reply (.proceed true), p] bus) := by
  unfold Flow.edit
  split
  · exact ⟨.edited hsaw hp, hplain⟩
  · exact absurd (hedits .handleFault (by simp)) (by simp [Edit.isHandleFault])
  · next e rest _ =>
    have hrest : ∀ e ∈ rest, e.isHandleFault = false := fun e he => hedits e (by simp [he])
    have hunchanged : (e.perform m bus).2.2.transports = bus.transports :=
      Bus.perform_transports e m
    refine ⟨.editing (hsaw.congr hunchanged) hrest hp, ?_⟩
    show (Bus.transport _ c.transport).Plain
    rw [Bus.transport_congr hunchanged]
    exact hplain

/-- A failed attempt is followed by another one, at once or later, or by a failure. -/
theorem undelivered {d : Dispatch} (hm : m.wayBack = w) (hd : d.channel = c.transport)
    (hplain : (bus.transport c.transport).Plain) (started : Time) (fault : TransportFault) :
    Sends c w (Flow.undelivered d started fault m [] bus) := by
  unfold Flow.undelivered
  simp only
  split
  · exact ⟨.failed, hplain⟩
  · next e _ =>
    generalize hrecord : Bus.recordFailure _ e _ d.settings = recorded
    obtain ⟨verdict, bus'⟩ := recorded
    -- recording the failure leaves the channels alone
    have hunchanged : bus'.transports = bus.transports := by
      have h := congrArg (fun x => Bus.transports x.2) hrecord
      simp only [Bus.recordFailure_transports] at h
      exact h.symm
    cases verdict with
    | retry delay =>
      simp only
      split
      · exact congr ⟨.attempting (hm : (Flow.marked d m.clearCallProperties).wayBack = w) hd,
          hplain⟩ hunchanged
      · exact congr ⟨.pausing hm hd, hplain⟩ hunchanged
    | _ => exact congr ⟨.failed, hplain⟩ hunchanged

/-- The reply of the channel ends the send, or the attempt. -/
theorem replied {r : Reply} {p : Pending} (hsaw : bus.Saw c.transport w)
    (hm : ∀ fault, r = .refused fault → m.wayBack = w) (hp : AwaitsChannel c p)
    (hplain : (bus.transport c.transport).Plain) : Sends c w (Flow.resume r m p [] bus) := by
  cases hp with
  | implicit mode =>
    simp only [Flow.resume]
    split
    · exact ⟨.failed, hplain⟩
    · exact ⟨.done hsaw, hplain⟩
  | attempt started deadline hd =>
    simp only [Flow.resume]
    split
    · next fault => exact undelivered (hm fault rfl) hd hplain _ _
    · have hdone : Sends c w (Flow.answer m (.proceed true) [], bus) := ⟨.done hsaw, hplain⟩
      refine hdone.congr ?_
      split <;> rfl

/-- An attempt that is cut off is refused. -/
theorem cut {p : Pending} {f : Flow} (hm : m.wayBack = w) (hsaw : bus.Saw c.transport w)
    (hp : AwaitsChannel c p) (hplain : (bus.transport c.transport).Plain)
    (h : Flow.cut? m bus [p] = some f) : Sends c w (f, bus) := by
  cases hp with
  | implicit mode => simp [Flow.cut?] at h
  | attempt started deadline hd =>
    cases deadline with
    | none => simp [Flow.cut?] at h
    | some t =>
      simp only [Flow.cut?] at h
      split at h
      · obtain rfl := Option.some.inj h
        exact ⟨.replied hsaw (fun _ _ => hm) (.attempt _ _ hd), hplain⟩
      · simp at h

/-- Every move of a send leads to a state of the send. -/
theorem step {f : Flow} {x : Flow × Bus} (h : Sends c w (f, bus)) (hs : f.step bus = some x) :
    Sends c w x := by
  obtain ⟨hsending, hplain⟩ := h
  cases hsending with
  | attempting hm hd =>
    obtain rfl := Option.some.inj hs
    exact attempt hm hd hplain
  | pausing hm hd =>
    simp only [Flow.step, Flow.work, Flow.cut?, Option.map_none] at hs
    split at hs
    · obtain rfl := Option.some.inj hs
      exact ⟨.paused hm hd, hplain⟩
    · simp at hs
  | paused hm hd =>
    obtain rfl := Option.some.inj hs
    exact ⟨.attempting (hm : (Flow.marked _ _).wayBack = w) hd, hplain⟩
  | transmitting hm hsaw hedits hp =>
    obtain rfl := Option.some.inj hs
    exact deliver hm hsaw hedits hp hplain
  | delaying hm hsaw hedits hp =>
    simp only [Flow.step, Flow.work] at hs
    split at hs
    · obtain rfl := Option.some.inj hs
      exact ⟨.delayed hm hsaw hedits hp, hplain⟩
    · obtain ⟨f'', hcut, he⟩ := Option.map_eq_some_iff.1 hs
      obtain ⟨rfl, rfl⟩ := Prod.mk.inj he
      exact cut hm hsaw hp hplain hcut
  | delayed hm hsaw hedits hp =>
    obtain rfl := Option.some.inj hs
    exact ⟨.transmitting hm hsaw hedits hp, hplain⟩
  | hanging hm hsaw hp =>
    obtain ⟨f', hcut, rfl⟩ := Option.map_eq_some_iff.1 hs
    exact cut hm hsaw hp hplain hcut
  | editing hsaw hedits hp =>
    obtain rfl := Option.some.inj hs
    exact edit hsaw hedits hp hplain
  | edited hsaw hp =>
    obtain rfl := Option.some.inj hs
    exact ⟨.replied hsaw (by simp) hp, hplain⟩
  | replied hsaw hm hp =>
    obtain rfl := Option.some.inj hs
    exact replied hsaw hm hp hplain
  | failed => simp [Flow.step, Flow.work] at hs
  | done hsaw => simp [Flow.step, Flow.work] at hs

end Sends

end ServiceBus
