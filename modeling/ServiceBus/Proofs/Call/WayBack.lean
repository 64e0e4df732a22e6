import ServiceBus.Flow.Call

/-
ServiceBus.Proofs.Call.WayBack — what a call does to the way back of a message.

The way back is the frames to resume at together with the chain of fault
handlers. Rehoming, error marks and the bookkeeping of calls leave it alone
(one lemma for each); a call that is handed off pushes the top frame once more
(`handedOver_wayBack`), and its response path takes that frame off again
(`respond_eq_ok`).
-/
namespace ServiceBus

namespace Message

/-- The frames to resume at, and the fault handlers that are registered. -/
def wayBack (m : Message) : Continuation × List FaultHandler := (m.continuation, m.faultHandlers)

theorem wayBack_eq {m : Message} {frames : Continuation} {handlers : List FaultHandler} :
    m.wayBack = (frames, handlers) ↔ m.continuation = frames ∧ m.faultHandlers = handlers := by
  simp only [wayBack, Prod.mk.injEq]

/-! ## What leaves the way back alone -/

section WayBack

variable (m : Message)

@[simp] theorem wayBack_setProperty (name : String) (v : Value) :
    (m.setProperty name v).wayBack = m.wayBack := rfl
@[simp] theorem wayBack_removeProperty (name : String) :
    (m.removeProperty name).wayBack = m.wayBack := rfl
@[simp] theorem wayBack_clearCallProperties : m.clearCallProperties.wayBack = m.wayBack := rfl

@[simp] theorem wayBack_setError (code : Int32) (text : String) (detail : Option String) :
    (m.setError code text detail).wayBack = m.wayBack := by
  cases detail <;> rfl

@[simp] theorem wayBack_setPayload (p : Payload) : (m.setPayload p).wayBack = m.wayBack := by
  unfold setPayload
  split <;> rfl

@[simp] theorem wayBack_setSlot (s : Slot) (v : Value) : (m.setSlot s v).wayBack = m.wayBack := by
  cases s <;> rfl

@[simp] theorem wayBack_noteHandler : (Flow.noteHandler m).wayBack = m.wayBack := by
  unfold Flow.noteHandler
  split <;> rfl

end WayBack

/-! ## What leaves the mark of a message that wants no reply alone -/

section OutOnly

variable (m : Message)

theorem isOutOnly_congr {m m' : Message}
    (h : m'.properties.get? Property.outOnly = m.properties.get? Property.outOnly) :
    m'.isOutOnly = m.isOutOnly := by
  simp only [isOutOnly, isTrue, property?, h]

theorem isOutOnly_setProperty {name : String} (h : name ≠ Property.outOnly) (v : Value) :
    (m.setProperty name v).isOutOnly = m.isOutOnly := by
  refine isOutOnly_congr ?_
  rw [setProperty, Dict.get?_insert, if_neg h.symm]

theorem isOutOnly_removeProperty {name : String} (h : name ≠ Property.outOnly) :
    (m.removeProperty name).isOutOnly = m.isOutOnly := by
  refine isOutOnly_congr ?_
  rw [removeProperty, Dict.get?_erase, if_neg h.symm]

@[simp] theorem isOutOnly_clearCallProperties : m.clearCallProperties.isOutOnly = m.isOutOnly := by
  refine isOutOnly_congr ?_
  rw [clearCallProperties, Dict.get?_eraseAll, if_neg (by decide)]

@[simp] theorem isOutOnly_noteHandler : (Flow.noteHandler m).isOutOnly = m.isOutOnly := by
  unfold Flow.noteHandler
  split
  · exact isOutOnly_setProperty _ (by decide) _
  · rfl

end OutOnly

end Message

/-! ## Rehoming -/

namespace Rehoming

variable (r : Rehoming) (m : Message) (before : Envelope)

@[simp] theorem wayBack_writeTarget (target : PayloadTarget) (p : Payload) :
    (writeTarget m target p).wayBack = m.wayBack := by
  cases target with
  | body => exact m.wayBack_setPayload p
  | slot s => exact m.wayBack_setSlot s _

@[simp] theorem wayBack_setOrRemove (name : String) (text : Option String) :
    (setOrRemove m name text).wayBack = m.wayBack := by
  cases text <;> rfl

theorem isOutOnly_setOrRemove {name : String} (h : name ≠ Property.outOnly)
    (text : Option String) : (setOrRemove m name text).isOutOnly = m.isOutOnly := by
  cases text with
  | none => exact m.isOutOnly_removeProperty h
  | some s => exact m.isOutOnly_setProperty h _

/-- The way out changes the body, its types, and where the former body is parked. -/
theorem outbound_cases :
    (r.outbound m before).1.wayBack = m.wayBack ∧
      (r.outbound m before).1.isOutOnly = m.isOutOnly := by
  unfold outbound
  split
  · exact ⟨rfl, rfl⟩
  · -- the body is parked before anything else
    have parked (b : Bool) :
        (if b then m.setProperty Property.parkedBody m.payload.toValue else m).wayBack =
            m.wayBack ∧
          (if b then m.setProperty Property.parkedBody m.payload.toValue else m).isOutOnly =
            m.isOutOnly := by
      cases b with
      | false => exact ⟨rfl, rfl⟩
      | true => exact ⟨rfl, m.isOutOnly_setProperty (by decide) _⟩
    simp only
    split
    · exact parked _
    · split
      · split
        · exact parked _
        · exact parked _
      · exact parked _

@[simp] theorem wayBack_record : (r.record m before).wayBack = m.wayBack := by
  simp only [record, Message.wayBack_setProperty, wayBack_setOrRemove]
  split <;> split <;> rfl

@[simp] theorem isOutOnly_record : (r.record m before).isOutOnly = m.isOutOnly := by
  simp only [record]
  rw [Message.isOutOnly_setProperty _ (by decide), Message.isOutOnly_setProperty _ (by decide),
    Message.isOutOnly_setProperty _ (by decide), isOutOnly_setOrRemove _ (by decide),
    isOutOnly_setOrRemove _ (by decide)]
  cases r.effectiveType before <;> cases r.target <;>
    simp only [Message.isOutOnly_setProperty _ (show Property.sourceMessageType ≠ _ by decide),
      Message.isOutOnly_setProperty _ (show Property.inboundTarget ≠ _ by decide)]

@[simp] theorem wayBack_inbound : (r.inbound m before).wayBack = m.wayBack := by
  unfold inbound
  split
  · rfl
  · next target _ =>
    have written := wayBack_writeTarget m target m.payload
    simp only
    split
    · exact written
    · split
      · exact written
      · split
        · exact written
        · exact written

end Rehoming

/-! ## A call that is handed off -/

namespace Call

variable (c : Call) (m : Message)

/-- The message of a call that is handed off before the frame is pushed. -/
def prepared : Message :=
  let envelope := Envelope.capture m
  (Flow.noteHandler
    (c.rehoming.record (c.rehoming.outbound m envelope).1 envelope)).clearCallProperties

/-- The message as a call that is handed off sends it: the top frame is there twice. -/
def handedOver : Message :=
  let m := (c.prepared m).setProperty Property.continuationCall (.bool true)
  match m.continuation with
  | top :: _ => m.pushFrame top
  | [] => m

variable {c m}

theorem prepared_wayBack : (c.prepared m).wayBack = m.wayBack := by
  simp only [prepared, Message.wayBack_clearCallProperties, Message.wayBack_noteHandler,
    Rehoming.wayBack_record]
  exact (c.rehoming.outbound_cases m _).1

theorem prepared_isOutOnly : (c.prepared m).isOutOnly = m.isOutOnly := by
  simp only [prepared, Message.isOutOnly_clearCallProperties, Message.isOutOnly_noteHandler,
    Rehoming.isOutOnly_record]
  exact (c.rehoming.outbound_cases m _).2

theorem marked_continuation :
    ((c.prepared m).setProperty Property.continuationCall (.bool true)).continuation =
      m.continuation :=
  congrArg Prod.fst prepared_wayBack

theorem handedOver_eq {top : Frame} {rest : Continuation} (h : m.continuation = top :: rest) :
    c.handedOver m =
      ((c.prepared m).setProperty Property.continuationCall (.bool true)).pushFrame top := by
  simp only [handedOver, marked_continuation, h]

theorem handedOver_wayBack {top : Frame} {rest : Continuation} {handlers : List FaultHandler}
    (h : m.wayBack = (top :: rest, handlers)) :
    (c.handedOver m).wayBack = (top :: top :: rest, handlers) := by
  obtain ⟨hframes, hhandlers⟩ := Message.wayBack_eq.1 (prepared_wayBack (c := c).trans h)
  rw [handedOver_eq (Message.wayBack_eq.1 h).1, Message.wayBack_eq]
  exact ⟨congrArg (top :: ·) hframes, hhandlers⟩

theorem handedOver_isOutOnly : (c.handedOver m).isOutOnly = m.isOutOnly := by
  have hmarked : ((c.prepared m).setProperty Property.continuationCall (.bool true)).isOutOnly =
      m.isOutOnly := by
    rw [Message.isOutOnly_setProperty _ (by decide), prepared_isOutOnly]
  cases hframes : m.continuation with
  | nil =>
    simp only [handedOver, marked_continuation, hframes]
    exact hmarked
  | cons top rest =>
    rw [handedOver_eq hframes]
    exact hmarked

/-- A call that is handed off sends, unless the message has no frame, its body cannot be
moved or no reply is wanted. -/
theorem call_eq_send (hmode : c.blocking = false) {top : Frame} {rest : Continuation}
    (hframes : m.continuation = top :: rest)
    (hready : (c.rehoming.outbound m (Envelope.capture m)).2 = .ok ())
    (hrequest : m.isOutOnly = false) (k : List Pending) (bus : Bus) :
    Flow.call c m k bus = Flow.send c (c.handedOver m) (.handOff c :: k) bus := by
  have hempty : m.continuation.isEmpty = false := by rw [hframes]; rfl
  have hout : (c.prepared m).isOutOnly = false := prepared_isOutOnly.trans hrequest
  have hsame : ((c.prepared m).setProperty Property.continuationCall (.bool true)).continuation =
      top :: rest := marked_continuation.trans hframes
  obtain ⟨m', hm'⟩ : ∃ m', c.rehoming.outbound m (Envelope.capture m) = (m', .ok ()) :=
    ⟨_, Prod.ext rfl hready⟩
  rw [handedOver_eq hframes]
  simp only [prepared, hm'] at hout hsame
  simp only [Flow.call, hmode, hempty, Bool.not_false, Bool.true_and, Bool.false_eq_true, if_false,
    hm', hout, hsame, prepared]

/-- The response path takes the top frame off, and nothing else of the way back. -/
theorem respond_eq_ok {top : Frame} {rest : Continuation} {handlers : List FaultHandler}
    {bus : Bus} (h : m.wayBack = (top :: rest, handlers))
    (hendpoint : ∀ name, c.endpoint = some name → ∃ e, bus.concrete name = .ok e) :
    ∃ m' bus', c.respond m bus = (.ok top, m', bus') ∧ m'.wayBack = (rest, handlers) := by
  obtain ⟨hframes, hhandlers⟩ := Message.wayBack_eq.1 h
  have hback : (({ m with continuation := rest, response := true } : Message).removeProperty
      Property.continuationCall).wayBack = (rest, handlers) := by
    rw [Message.wayBack_removeProperty, Message.wayBack_eq]
    exact ⟨rfl, hhandlers⟩
  simp only [respond, Message.resume, hframes]
  cases hname : c.endpoint with
  | none => exact ⟨_, bus, rfl, (c.rehoming.wayBack_inbound _ _).trans hback⟩
  | some name =>
    obtain ⟨e, he⟩ := hendpoint name hname
    simp only [Bus.recordResponse, he]
    exact ⟨_, _, rfl, (c.rehoming.wayBack_inbound _ _).trans hback⟩

end Call

end ServiceBus
