import ServiceBus.Proofs.Call.Exchange
import ServiceBus.Proofs.Dispatch.Service

/-
ServiceBus.Proofs.Dispatch.Channels — what moves do to channels.

Only a send that gives its message away changes a channel: the end of an attempt
changes none (`transports_ended`). What a channel will do to messages that it delivers
stays what it is in any case, so a bus that allows only some edits goes on to do so
(`Bus.Allows.step`).
-/
namespace ServiceBus

theorem Bus.transport_setTransport_of_ne {channel other : String} (h : other ≠ channel)
    (bus : Bus) (t : Transport) :
    (bus.setTransport channel t).transport other = bus.transport other := by
  rw [transport, setTransport, Dict.get?_insert, if_neg h]
  rfl

namespace Flow

variable {f f' : Flow} {bus bus' : Bus}

/-- The end of an attempt leaves the channels alone. -/
theorem transports_ended (r : Reply) (d : Dispatch) (started : Time) (deadline : Option Timer)
    (m : Message) (k : List Pending) (bus : Bus) :
    (resume r m (.attempt d started deadline) k bus).2.transports = bus.transports := by
  -- what the recording of the failure gives
  have recorded {bus bus' : Bus} {e : Endpoint} {code : Int32} {s : Settings} {v : Verdict}
      (h : bus.recordFailure e code s = (v, bus')) : bus'.transports = bus.transports := by
    have hrecorded := bus.recordFailure_transports e code s
    rwa [h] at hrecorded
  cases r with
  | refused fault =>
    simp only [resume, undelivered]
    split
    · rfl
    · split
      · next heq =>
        split
        · exact (recorded heq).trans rfl
        · exact (recorded heq).trans rfl
      · next heq => exact (recorded heq).trans rfl
  | _ =>
    simp only [resume, delivered]
    cases d.mode <;> rfl

theorem edits_transmit (channel : String) (address : Option String) (m : Message)
    (k : List Pending) (bus : Bus) (other : String) :
    ((transmit channel address m k bus).2.transport other).edits = (bus.transport other).edits := by
  obtain ⟨-, hedits⟩ := (bus.transport channel).accept_spec (address.or m.destination) m
  by_cases h : other = channel
  · subst h
    rw [transmit, Bus.transport_setTransport]
    exact hedits
  · rw [transmit, Bus.transport_setTransport_of_ne h]

theorem edits_attempt (d : Dispatch) (m : Message) (k : List Pending) (bus : Bus)
    (channel : String) :
    ((attempt d m k bus).2.transport channel).edits = (bus.transport channel).edits := by
  unfold attempt
  split
  · rfl
  · split
    · rfl
    · cases d.timeout.limit with
      | none => exact edits_transmit _ _ m _ bus channel
      | some limit => exact edits_transmit _ _ m _ (bus.startTimer limit).2 channel

/-- A call without endpoint fails before it sends, or it gives its message away. -/
theorem edits_call {c : Call} (hc : c.endpoint = none) (m : Message) (k : List Pending) (bus : Bus)
    (channel : String) :
    ((call c m k bus).2.transport channel).edits = (bus.transport channel).edits := by
  have same {bus' : Bus} (hservice : bus'.service = bus.service) :
      (bus'.transport channel).edits = (bus.transport channel).edits := by
    rw [Bus.transport_congr (congrArg Service.transports hservice)]
  obtain ⟨-, -, -, -, -, -, hservice⟩ | ⟨sent, p, bus', -, hservice, hcall⟩ :=
    call_cases c m k bus
  · exact same hservice
  · rw [hcall, send, hc]
    exact (edits_transmit _ _ sent _ bus' channel).trans (same hservice)

/-- No move changes what a channel will do to messages. -/
theorem edits_of_step (h : f.step bus = some (f', bus')) (channel : String) :
    (bus'.transport channel).edits = (bus.transport channel).edits := by
  obtain hservice | ⟨m, task, k, g, -, hloud, hw, -⟩ := service_of_step f h
  · rw [Bus.transport_congr (congrArg Service.transports hservice)]
  · cases hloud with
    | attempt d =>
      have hattempt := edits_attempt d m k bus channel
      obtain hw : some (attempt d m k bus) = some (g, bus') := hw
      rwa [Option.some.inj hw] at hattempt
    | ended r d started deadline k =>
      have hended := transports_ended r d started deadline m k bus
      obtain hw : some (resume r m (.attempt d started deadline) k bus) = some (g, bus') := hw
      rw [Option.some.inj hw] at hended
      rw [Bus.transport_congr hended]
    | @implicit c hc k =>
      have hcall := edits_call hc m k bus channel
      obtain hw : some (call c m k bus) = some (g, bus') := hw
      rwa [Option.some.inj hw] at hcall

end Flow

/-- A bus that allows only some edits goes on to do so. -/
theorem Bus.Allows.step {allowed : Edit Mediator → Prop} {bus bus' : Bus} {f f' : Flow}
    (h : bus.Allows allowed) (hs : f.step bus = some (f', bus')) : bus'.Allows allowed := by
  intro channel edits hedits
  rw [Flow.edits_of_step hs] at hedits
  exact h channel edits hedits

end ServiceBus
