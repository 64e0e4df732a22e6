import ServiceBus.Proofs.Call.WayBack

/-
ServiceBus.Proofs.Call.Recorded — what a call leaves on the message for the way back
of its reply.

`Rehoming.record` writes the message type, the content type and the headers from
before the call into properties, whatever an earlier call has left there, and
`Envelope.ofProperties` reads them back: `ofProperties_record`. A field that was not
set is told apart from one that was, because its property is removed.
-/
namespace ServiceBus

namespace Message

section Properties

variable (m : Message) (name other : String) (v : Value)

@[simp] theorem property?_setProperty :
    (m.setProperty name v).property? other = if other = name then some v else m.property? other :=
  Dict.get?_insert ..

@[simp] theorem property?_removeProperty :
    (m.removeProperty name).property? other = if other = name then none else m.property? other :=
  Dict.get?_erase ..

@[simp] theorem property?_setError (code : Int32) (text : String) (detail : Option String) :
    (m.setError code text detail).property? other =
      if other = Property.errorDetail then detail.map .text
      else if other = Property.errorMessage then some (.text text)
      else if other = Property.errorCode then some (.int code.toInt)
      else m.property? other := by
  cases detail <;> simp [setError]

@[simp] theorem property?_clearCallProperties :
    m.clearCallProperties.property? other =
      if other ∈ Property.perCall then none else m.property? other :=
  Dict.get?_eraseAll ..

@[simp] theorem property?_noteHandler :
    (Flow.noteHandler m).property? other =
      if other = Property.lastFaultHandler then
        (m.headHandlerId?.map (.text ·.text)).or (m.property? other)
      else m.property? other := by
  unfold Flow.noteHandler
  cases m.headHandlerId? with
  | none => simp
  | some id => exact property?_setProperty ..

end Properties

end Message

/-- Headers that are written as a value are read back. -/
theorem Schema.dict_headersValue (headers : Dict String) :
    Schema.dict Schema.text (Envelope.headersValue headers) = .ok headers := by
  have read {f : String × Value → Except SchemaError (String × String)}
      (hf : ∀ name text, f (name, .text text) = .ok (name, text)) (es : List (String × String)) :
      (es.map fun e => (e.1, Value.text e.2)).mapM f = .ok es := by
    induction es with
    | nil => rfl
    | cons e rest ih =>
      rw [List.map_cons, List.mapM_cons, ih, hf]
      rfl
  simp only [Schema.dict, Envelope.headersValue, Dict.map]
  rw [read fun _ _ => rfl]
  exact congrArg Except.ok (Dict.ofList_entries headers)

namespace Rehoming

variable (r : Rehoming) (m : Message) (before : Envelope)

@[simp] theorem property?_setOrRemove (name other : String) (text : Option String) :
    (setOrRemove m name text).property? other =
      if other = name then text.map Value.text else m.property? other := by
  cases text with
  | none => exact m.property?_removeProperty name other
  | some s => exact m.property?_setProperty name other _

/-- The properties that the response path reads. -/
theorem property?_record :
    (r.record m before).property? Property.savedMessageType = before.messageType.map .text ∧
      (r.record m before).property? Property.savedContentType = before.contentType.map .text ∧
      (r.record m before).property? Property.savedHeaders =
        some (Envelope.headersValue before.headers) := by
  simp [record, Property.savedMessageType, Property.savedContentType, Property.savedHeaders,
    Property.targetAvailable, Property.sourceAvailable]

end Rehoming

namespace Envelope

/-- The properties that an envelope is read from. -/
def names : List String :=
  [Property.savedMessageType, Property.savedContentType, Property.savedHeaders]

theorem ofProperties_congr {m m' : Message}
    (h : ∀ name ∈ names, m'.property? name = m.property? name) :
    ofProperties m' = ofProperties m := by
  have htype := h Property.savedMessageType (by simp [names])
  have hcontent := h Property.savedContentType (by simp [names])
  have hheaders := h Property.savedHeaders (by simp [names])
  simp only [ofProperties, Message.textProperty?, htype, hcontent, hheaders]

/-- What was recorded is read back, with absent fields absent, whatever the properties
held before. -/
theorem ofProperties_record (r : Rehoming) (m : Message) (before : Envelope) :
    ofProperties (r.record m before) = before := by
  obtain ⟨htype, hcontent, hheaders⟩ := r.property?_record m before
  have text (s : Option String) : (s.map Value.text).bind Value.text? = s := by
    cases s <;> rfl
  simp only [ofProperties, Message.textProperty?, htype, hcontent, hheaders, text,
    Schema.dict_headersValue]

end Envelope

/-! ## What a call leaves alone -/

/-- The properties that a call, its rehoming and its response path write. -/
def Property.bookkeeping : List String :=
  perCall ++ [continuationCall, lastFaultHandler, parkedBody, inboundTarget, sourceMessageType,
    savedMessageType, savedContentType, sourceAvailable, targetAvailable, savedHeaders]

namespace Rehoming

variable (r : Rehoming) (m : Message) (before : Envelope) {name : String}

theorem outbound_keeps (h : name ≠ Property.parkedBody) :
    (r.outbound m before).1.property? name = m.property? name := by
  unfold outbound
  split
  · rfl
  · have parked (b : Bool) :
        (if b then m.setProperty Property.parkedBody m.payload.toValue else m).property? name =
          m.property? name := by
      cases b with
      | false => rfl
      | true => exact (m.property?_setProperty ..).trans (if_neg h)
    simp only
    split
    · exact parked _
    · split
      · split
        · exact parked _
        · exact parked _
      · exact parked _

theorem record_keeps (h : name ∉ Property.bookkeeping) :
    (r.record m before).property? name = m.property? name := by
  simp only [Property.bookkeeping, List.mem_append, List.mem_cons, List.not_mem_nil, or_false,
    not_or] at h
  obtain ⟨-, -, -, -, htarget, hsource, htype, hcontent, hsourced, htargeted, hheaders⟩ := h
  simp only [record, Message.property?_setProperty, property?_setOrRemove, if_neg htype,
    if_neg hcontent, if_neg hsourced, if_neg htargeted, if_neg hheaders]
  cases r.effectiveType before <;> cases r.target <;>
    simp only [Message.property?_setProperty, if_neg hsource, if_neg htarget]

end Rehoming

namespace Call

variable {c : Call} {m : Message} {name : String}

theorem prepared_keeps (h : name ∉ Property.bookkeeping) :
    (c.prepared m).property? name = m.property? name := by
  have hcall : name ∉ Property.perCall := fun hin => h (List.mem_append_left _ hin)
  have hparked : name ≠ Property.parkedBody := by
    rintro rfl
    exact h (by decide)
  have hhandler : name ≠ Property.lastFaultHandler := by
    rintro rfl
    exact h (by decide)
  rw [prepared, Message.property?_clearCallProperties, if_neg hcall, Message.property?_noteHandler,
    if_neg hhandler, Rehoming.record_keeps _ _ _ h, Rehoming.outbound_keeps _ _ _ hparked]

theorem property?_handedOver :
    (c.handedOver m).property? name =
      if name = Property.continuationCall then some (.bool true)
      else (c.prepared m).property? name := by
  have hpushed : (c.handedOver m).property? name =
      ((c.prepared m).setProperty Property.continuationCall (.bool true)).property? name := by
    unfold handedOver
    simp only
    split <;> rfl
  rw [hpushed, Message.property?_setProperty]

theorem handedOver_keeps (h : name ∉ Property.bookkeeping) :
    (c.handedOver m).property? name = m.property? name := by
  have hcontinuation : name ≠ Property.continuationCall := by
    rintro rfl
    exact h (by decide)
  rw [property?_handedOver, if_neg hcontinuation, prepared_keeps h]

end Call

end ServiceBus
