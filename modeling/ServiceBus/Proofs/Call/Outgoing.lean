import ServiceBus.Proofs.Call.WayBack

/-
ServiceBus.Proofs.Call.Outgoing — which message a call sends, and what it leaves for
later.

A call moves the body and records the envelope. Then it sends the message itself and
waits (`asked`), sends it with its top frame pushed once more (`handedOver`), or
sends a copy of that and goes on with the message it has (`prepared`). There is one
equation for each, and one for a body that cannot be moved.
-/
namespace ServiceBus.Call

/-- The message of a call with its body moved and its envelope recorded. -/
def recorded (c : Call) (m : Message) : Message :=
  c.rehoming.record (c.rehoming.outbound m (.capture m)).1 (.capture m)

/-- The message as a blocking call sends it. -/
def asked (c : Call) (m : Message) : Message :=
  let marked := (c.recorded m).setProperty Property.blockingSender (.text c.name)
  Flow.noteHandler
    { marked with properties := marked.properties.eraseAll Property.perBlockingCall }

variable {c : Call} {m : Message}

theorem recorded_wayBack : (c.recorded m).wayBack = m.wayBack :=
  (c.rehoming.wayBack_record _ _).trans (c.rehoming.outbound_cases m _).1

theorem asked_wayBack : (c.asked m).wayBack = m.wayBack := by
  rw [asked, Message.wayBack_noteHandler]
  exact recorded_wayBack

theorem headHandlerId?_congr {m' : Message} (h : m'.wayBack = m.wayBack) :
    m'.headHandlerId? = m.headHandlerId? := by
  simp only [Message.headHandlerId?, Message.headHandler?, (Message.wayBack_eq.1 h).2]

/-- A blocking call sends, unless its body cannot be moved. -/
theorem call_eq_send_asked (hmode : c.blocking = true)
    (hready : (c.rehoming.outbound m (.capture m)).2 = .ok ()) (k : List Pending) (bus : Bus) :
    Flow.call c m k bus =
      Flow.send c (c.asked m) (.blockingCall c (.capture m) m.headHandlerId? :: k) bus := by
  obtain ⟨m', hm'⟩ : ∃ m', c.rehoming.outbound m (.capture m) = (m', .ok ()) :=
    ⟨_, Prod.ext rfl hready⟩
  have hhead : (c.recorded m).headHandlerId? = m.headHandlerId? :=
    headHandlerId?_congr recorded_wayBack
  rw [← hhead]
  simp only [Flow.call, hmode, Bool.not_true, Bool.false_and, Bool.false_eq_true, if_false, hm',
    if_true, asked, recorded]
  rfl

/-- A call of a message that wants no reply sends a copy. -/
theorem call_eq_send_copy (hmode : c.blocking = false) (hframes : m.continuation ≠ [])
    (hready : (c.rehoming.outbound m (.capture m)).2 = .ok ()) (hout : m.isOutOnly = true)
    (k : List Pending) (bus : Bus) :
    Flow.call c m k bus = Flow.send c ((c.handedOver m).fork bus.freshId.1)
      (.outOnly c (c.prepared m) :: k) bus.freshId.2 := by
  obtain ⟨top, rest, hframes⟩ := List.exists_cons_of_ne_nil hframes
  have hempty : m.continuation.isEmpty = false := by rw [hframes]; rfl
  have hprepared : (c.prepared m).isOutOnly = true := prepared_isOutOnly.trans hout
  have hsame : (c.prepared m).continuation = top :: rest :=
    (congrArg Prod.fst prepared_wayBack).trans hframes
  obtain ⟨m', hm'⟩ : ∃ m', c.rehoming.outbound m (Envelope.capture m) = (m', .ok ()) :=
    ⟨_, Prod.ext rfl hready⟩
  rw [handedOver_eq hframes]
  simp only [prepared, hm'] at hprepared hsame
  simp only [Flow.call, hmode, hempty, Bool.not_false, Bool.true_and, Bool.false_eq_true, if_false,
    hm', hprepared, if_true, prepared, Message.setProperty, Message.fork, hsame]
  rfl

/-- Where the body cannot be moved, a call fails before anything is sent. -/
theorem call_eq_failed (hmode : c.blocking = true ∨ m.continuation ≠ []) {e : Failure}
    (hfails : (c.rehoming.outbound m (.capture m)).2 = .error e) (k : List Pending) (bus : Bus) :
    Flow.call c m k bus =
      (Flow.answer (c.rehoming.outbound m (.capture m)).1 (.failed e) k, bus) := by
  have hframe : (!c.blocking && m.continuation.isEmpty) = false := by
    cases hmode with
    | inl h => simp [h]
    | inr h => simp [h]
  obtain ⟨m', hm'⟩ : ∃ m', c.rehoming.outbound m (Envelope.capture m) = (m', .error e) :=
    ⟨_, Prod.ext rfl hfails⟩
  simp only [Flow.call, hframe, Bool.false_eq_true, if_false, hm']

end ServiceBus.Call
