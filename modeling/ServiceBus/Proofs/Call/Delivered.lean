import ServiceBus.Proofs.Call.Restored
import ServiceBus.Proofs.Dispatch.Channels

/-
ServiceBus.Proofs.Call.Delivered — whether the reply reaches its target.

The way back first puts the reply where the target wants it. With a source it then takes the
parked body off the message and makes it the body again. So a reply that went to the
body is lost, unless it is just what comes back, and one that went to the parking place
is taken off with it. In every other property and in every variable the reply
stays (`Rehoming.holds_inbound`, `Call.delivers`).
-/
namespace ServiceBus

namespace PayloadTarget

/-- The target of a message holds a body: itself, or its value in a property or a variable. -/
def Holds (target : PayloadTarget) (m : Message) (p : Payload) : Prop :=
  match target with
  | .body => m.payload = p
  | .slot place => m.slot? place = some p.toValue

/-- The reply in its target outlasts that a body is put back: it is out of its way, or it is this
body. -/
def Spares (target : PayloadTarget) (back reply : Payload) : Prop :=
  match target with
  | .body => back = reply
  | .slot place => place ≠ .property Property.parkedBody

end PayloadTarget

namespace Rehoming

variable {r : Rehoming} {target : PayloadTarget} {m : Message} {before : Envelope}

theorem holds_writeTarget (m : Message) (target : PayloadTarget) (p : Payload) :
    target.Holds (writeTarget m target p) p := by
  match target with
  | .body =>
    show (m.setPayload p).payload = p
    unfold Message.setPayload
    split <;> rfl
  | .slot (.property name) => exact (m.property?_setProperty ..).trans (if_pos rfl)
  | .slot (.variable name) => exact (Dict.get?_insert ..).trans (if_pos rfl)

/-- With a source, the parked body takes the place of the body, and is itself taken off. -/
theorem inbound_spec (htarget : r.target = some target) (hsource : r.source.isSome = true)
    (m : Message) (before : Envelope) :
    (r.inbound m before).payload =
        .ofValue (((writeTarget m target m.payload).property? Property.parkedBody).getD .null)
          before.messageType ∧
      ∀ place, (r.inbound m before).slot? place =
        ((writeTarget m target m.payload).removeProperty Property.parkedBody).slot? place := by
  have hnone : r.source.isNone = false := by
    rw [← Option.not_isSome, hsource]
    rfl
  have same {a b : Message} (hproperties : a.properties = b.properties) (hvars : a.vars = b.vars)
      (place : Slot) : a.slot? place = b.slot? place := by
    cases place with
    | property name => simp only [Message.slot?, hproperties]
    | _ => simp only [Message.slot?, hvars]
  simp only [inbound, htarget, hnone, Bool.false_eq_true, if_false]
  split
  · exact ⟨rfl, same rfl rfl⟩
  · split <;> exact ⟨rfl, same rfl rfl⟩

/-- The way back leaves the reply in its target, whatever the message is, exactly if it puts
nothing back or the reply outlasts it. -/
theorem holds_inbound (htarget : r.target = some target) (m : Message) (before : Envelope) :
    target.Holds (r.inbound m before) m.payload ↔ r.source = none ∨ target.Spares
      (.ofValue ((m.property? Property.parkedBody).getD .null) before.messageType) m.payload := by
  cases hsource : r.source with
  | none =>
    have hwritten : r.inbound m before = writeTarget m target m.payload := by
      simp only [inbound, htarget, hsource, Option.isNone_none, if_true]
    rw [hwritten]
    exact iff_of_true (holds_writeTarget m target m.payload) (.inl rfl)
  | some source =>
    have hisSome : r.source.isSome = true := by rw [hsource]; rfl
    obtain ⟨hbody, hplaces⟩ := inbound_spec htarget hisSome m before
    rw [or_iff_right (by simp)]
    cases target with
    | body =>
      have hparked : (writeTarget m .body m.payload).property? Property.parkedBody =
          m.property? Property.parkedBody := by
        show (m.setPayload m.payload).property? _ = _
        unfold Message.setPayload
        split <;> rfl
      rw [PayloadTarget.Holds, hbody, hparked]
      rfl
    | slot place =>
      cases place with
      | property name =>
        have hremoved : (r.inbound m before).slot? (.property name) =
            if name = Property.parkedBody then none else some m.payload.toValue :=
          (hplaces _).trans ((Message.property?_removeProperty ..).trans
            (congrArg (ite _ none) ((m.property?_setProperty ..).trans (if_pos rfl))))
        rw [PayloadTarget.Holds, PayloadTarget.Spares, hremoved]
        split <;> simp [*]
      | _ =>
        refine iff_of_true ((hplaces _).trans ?_) Slot.noConfusion
        exact (Dict.get?_insert ..).trans (if_pos rfl)

end Rehoming

namespace Call

variable {c : Call} {target : PayloadTarget}

/-- Whenever a call succeeds, its target holds the reply exactly if nothing is put back on top of
it: the call has no source, the target is a variable or a property other than the parking
place, or it is the body and the parked body comes back as the reply. -/
theorem delivers (htarget : c.rehoming.target = some target) (m : Message) :
    (∀ back before, target.Holds (c.rehoming.inbound back before) back.payload ↔
      c.rehoming.source = none ∨ target.Spares
        (.ofValue ((back.property? Property.parkedBody).getD .null) before.messageType)
        back.payload) ∧
    c.Returning m fun arrived after => (target.Holds after arrived.payload ↔
      c.rehoming.source = none ∨
        target.Spares (.ofValue m.payload.toValue m.messageType) arrived.payload) := by
  refine ⟨Rehoming.holds_inbound htarget, returning fun arrived back hkept hsame => ?_⟩
  rw [← hsame.payload, Rehoming.holds_inbound htarget]
  cases hsource : c.rehoming.source with
  | none => exact iff_of_true (.inl rfl) (.inl rfl)
  | some source =>
    have hparked : back.property? Property.parkedBody = some m.payload.toValue :=
      body_of_kept (by rw [hsource]; rfl) (by rw [htarget]; rfl) hkept
    rw [hparked]
    rfl

end Call

namespace Question

/-- The answer goes to the variable that it is to go to. -/
theorem delivers_answer :
    (ask none).rehoming.target = some (.slot (.variable "answer")) ∧
      ∃ after, Flow.Reaches (·.Allows Edit.OnlyReply)
          (.busy (order (.json (.int 7)) (some ContentType.json)) (.mediate (.call (ask none))) [])
          (Flow.answer after (.proceed true) []) ∧
        after.slot? (.variable "answer") = some (.int 42) := by
  obtain ⟨hinbound, -⟩ :=
    Call.delivers (c := ask none) rfl (order (.json (.int 7)) (some ContentType.json))
  exact ⟨rfl, _, reaches none (order_asks _ _), (hinbound _ _).2 (.inr Slot.noConfusion)⟩

/-- A call that asks for the answer as the body. -/
def askForBody : Call where
  name := "ask"
  transport := "channel"
  blocking := true
  rehoming := { source := some (.slot (.property "question")), target := some .body }

/-- The reply to such a call does not get there: the body is the old one. -/
theorem answer_lost : ∃ after,
    (bus.transport "channel").standing = .respond (.json (.int 42)) ∧
      askForBody.rehoming.target = some .body ∧
      Flow.Reaches (·.Allows Edit.OnlyReply)
        (.busy (order (.json (.int 7)) (some ContentType.json)) (.mediate (.call askForBody)) [])
        (Flow.answer after (.proceed true) []) ∧
      after.payload = .json (.int 7) := by
  have hends : Flow.Reaches (·.Allows Edit.OnlyReply)
      (.busy (order (.json (.int 7)) (some ContentType.json)) (.mediate (.call askForBody)) [])
      ((Flow.busy (order (.json (.int 7)) (some ContentType.json))
        (.mediate (.call askForBody)) []).run 6 bus).1 :=
    Flow.Reaches.run (fun hok hs => Bus.Allows.step hok hs) 6 bus_allows
  exact ⟨_, rfl, rfl, hends, rfl⟩

end Question

end ServiceBus
