import ServiceBus.Proofs.Call.Returned

/-
ServiceBus.Proofs.Call.Restored — what a call gives back of the body and the labels from
before it.

A call that takes its request from elsewhere and puts the reply elsewhere parks the body of
the message, and puts it back when the reply is there (`Rehoming.Parks`). Parked is the value
of the body alone. Which kind of body it was is guessed from the message type, so
`Call.restores_body` says exactly for which bodies and types the guess is right
(`Payload.Keeps`): the value `null` and text under most types do not come back as what they
were.

The headers come back in any case. The message type and the content type come back only
where the way out has switched them, that is, where both the message and the source name a
type and the two differ (`Rehoming.switched?`). Everywhere else the old body goes on under
the types that the message has when the reply is there: those of the reply, or those that
the way out has given to a message without a type (`Call.restores_labels`).
-/
namespace ServiceBus

/-! ## The body that comes back -/

namespace Rehoming

/-- The body is parked before the call and put back after it: the request comes from
somewhere, and the reply goes to a property or a variable other than the parking place. -/
structure Parks (r : Rehoming) (place : Slot) : Prop where
  source : r.source.isSome = true
  target : r.target = some (.slot place)
  apart : place ≠ .property Property.parkedBody

variable {r : Rehoming} {place : Slot} {m : Message} {before : Envelope}

/-- The way out parks the body, also where the source is the parking place. -/
theorem parked_outbound (hsource : r.source.isSome = true) (htarget : r.target.isSome = true) :
    (r.outbound m before).1.property? Property.parkedBody = some m.payload.toValue := by
  have parked : (m.setProperty Property.parkedBody m.payload.toValue).property?
      Property.parkedBody = some m.payload.toValue :=
    (m.property?_setProperty ..).trans (if_pos rfl)
  obtain ⟨source, hsource⟩ := Option.isSome_iff_exists.1 hsource
  simp only [outbound, hsource, htarget, if_true]
  split
  · exact parked
  · split
    · split
      · exact parked
      · exact parked
    · exact parked

theorem parked_record (r : Rehoming) (m : Message) (before : Envelope) :
    (r.record m before).property? Property.parkedBody = m.property? Property.parkedBody := by
  simp only [record, Message.property?_setProperty, property?_setOrRemove,
    if_neg (show Property.parkedBody ≠ Property.savedHeaders by decide),
    if_neg (show Property.parkedBody ≠ Property.targetAvailable by decide),
    if_neg (show Property.parkedBody ≠ Property.sourceAvailable by decide),
    if_neg (show Property.parkedBody ≠ Property.savedContentType by decide),
    if_neg (show Property.parkedBody ≠ Property.savedMessageType by decide)]
  cases r.effectiveType before <;> cases r.target <;>
    simp only [Message.property?_setProperty,
      if_neg (show Property.parkedBody ≠ Property.sourceMessageType by decide),
      if_neg (show Property.parkedBody ≠ Property.inboundTarget by decide)]

/-- The message type that comes back after a call, if the way out has switched it. -/
def switched? (r : Rehoming) (before : Envelope) : Option String :=
  match r.sourceType, before.messageType with
  | some source, some own => if Text.eqIgnoringCase source own then none else some own
  | _, _ => none

/-- The message with the reply in its place, and with the parked body and the headers from
before the call. -/
def putBack (m : Message) (place : Slot) (before : Envelope) : Message :=
  let written := writeTarget m (.slot place) m.payload
  { written.removeProperty Property.parkedBody with
    payload := .ofValue ((written.property? Property.parkedBody).getD .null) before.messageType
    headers := before.headers }

/-- The way back puts the body back, and the types where they were switched. -/
theorem Parks.inbound_eq (h : r.Parks place) : r.inbound m before =
    match r.switched? before with
    | some own => (putBack m place before).setContentType own (before.contentType.getD own)
    | none => putBack m place before := by
  have hnone : r.source.isNone = false := by
    rw [← Option.not_isSome, h.source]
    rfl
  have hgate : r.inbound m before =
      if sameType (r.effectiveType before) before.messageType then putBack m place before
      else match before.messageType with
        | some t => (putBack m place before).setContentType t (before.contentType.getD t)
        | none => putBack m place before := by
    simp only [inbound, h.target, hnone, Bool.false_eq_true, if_false]
    rfl
  rw [hgate]
  obtain ⟨own, content, headers⟩ := before
  generalize putBack m place ⟨own, content, headers⟩ = back
  cases own with
  | none => cases hsource : r.sourceType <;> simp [effectiveType, switched?, sameType, hsource]
  | some own =>
    cases hsource : r.sourceType with
    | none => simp [effectiveType, switched?, sameType, hsource, Text.eqIgnoringCase]
    | some source =>
      cases hsame : Text.eqIgnoringCase source own <;>
        simp [effectiveType, switched?, sameType, hsource, hsame]

/-- The body that comes back is made of the parked value: the reply goes to another place. -/
theorem Parks.payload_inbound (h : r.Parks place) {v : Value}
    (hparked : m.property? Property.parkedBody = some v) :
    (r.inbound m before).payload = .ofValue v before.messageType := by
  have hkept : (writeTarget m (.slot place) m.payload).property? Property.parkedBody = some v := by
    refine Eq.trans ?_ hparked
    match place, h.apart with
    | .variable name, _ => rfl
    | .property name, hapart =>
      refine (m.property?_setProperty ..).trans (if_neg fun hsame => hapart ?_)
      rw [hsame]
  have hback : (putBack m place before).payload = .ofValue v before.messageType := by
    simp only [putBack, hkept, Option.getD_some]
  rw [h.inbound_eq]
  split
  · exact hback
  · exact hback

end Rehoming

namespace Payload

/-- A body that its value and a message type are enough to make again. -/
def Keeps : Payload → Option String → Prop
  | .empty, _ => True
  | .json .null, _ => False
  | .json (.text _), type => isXmlType type = false ∧ type ≠ some ContentType.text
  | .json _, _ => True
  | .xml _, type => isXmlType type = true
  | .text _, type => type = some ContentType.text

theorem ofValue_toValue_iff (p : Payload) (type : Option String) :
    ofValue p.toValue type = p ↔ p.Keeps type := by
  have htext : isXmlType (some ContentType.text) = false := by decide
  cases p with
  | empty => simp [toValue, ofValue, Keeps]
  | json v =>
    cases v with
    | text s =>
      simp only [toValue, ofValue, Keeps]
      split
      · simp [*]
      · split <;> simp [*]
    | _ => simp [toValue, ofValue, Keeps]
  | xml s =>
    simp only [toValue, ofValue, Keeps]
    split
    · simp [*]
    · split <;> simp [*]
  | text s =>
    simp only [toValue, ofValue, Keeps]
    split
    · next hxml =>
      refine iff_of_false (by simp) ?_
      rintro rfl
      rw [htext] at hxml
      exact Bool.false_ne_true hxml
    · split <;> simp [*]

end Payload

namespace Call

variable {c : Call} {place : Slot} {m : Message}

/-- The parked body is among what was recorded. -/
theorem body_of_kept (hsource : c.rehoming.source.isSome = true)
    (htarget : c.rehoming.target.isSome = true) {back : Message} (hkept : c.Kept m back) :
    back.property? Property.parkedBody = some m.payload.toValue := by
  rw [hkept _ ⟨by decide, by decide⟩, Message.property?_noteHandler, if_neg (by decide), recorded,
    Rehoming.parked_record, Rehoming.parked_outbound hsource htarget]

theorem parked_of_kept (h : c.rehoming.Parks place) {back : Message} (hkept : c.Kept m back) :
    back.property? Property.parkedBody = some m.payload.toValue :=
  body_of_kept h.source (by rw [h.target]; rfl) hkept

/-- A call that parks the body of its message gives it back, when it succeeds, as its value
and the message type say. That is the body from before the call exactly if these are enough
to make it again. -/
theorem restores_body (h : c.rehoming.Parks place) (m : Message) :
    c.Returning m fun _ after =>
      after.payload = .ofValue m.payload.toValue m.messageType ∧
        (after.payload = m.payload ↔ m.payload.Keeps m.messageType) := by
  refine returning fun arrived back hkept _ => ?_
  have hpayload : (c.rehoming.inbound back (.capture m)).payload =
      .ofValue m.payload.toValue m.messageType :=
    h.payload_inbound (parked_of_kept h hkept)
  exact ⟨hpayload, hpayload ▸ Payload.ofValue_toValue_iff m.payload m.messageType⟩

end Call

/-! ## The labels that come back -/

namespace Rehoming

/-- The labels after a call: where the type was switched, those from before the call with the
content type in the headers too; else the types that the message has. -/
def labels (r : Rehoming) (before arrived : Envelope) : Envelope :=
  match r.switched? before with
  | some own =>
    let content := before.contentType.getD own
    ⟨some own, some content, before.headers.insert contentTypeHeader content⟩
  | none => ⟨arrived.messageType, arrived.contentType, before.headers⟩

variable {r : Rehoming} {place : Slot} {m : Message} {before : Envelope}

theorem Parks.capture_inbound (h : r.Parks place) :
    Envelope.capture (r.inbound m before) = r.labels before (.capture m) := by
  have hback : Envelope.capture (putBack m place before) =
      ⟨m.messageType, m.contentType, before.headers⟩ := by
    cases place <;> rfl
  rw [h.inbound_eq, labels]
  cases r.switched? before with
  | none => exact hback
  | some own =>
    have hheaders : (putBack m place before).headers = before.headers := rfl
    simp only [Envelope.capture, Message.setContentType, hheaders]

end Rehoming

namespace Call

variable {c : Call} {place : Slot}

/-- The labels that a call which parks the body leaves when it succeeds. They are those from
before the call exactly if the type was switched and the message had a content type that its
headers repeated, or if it was not switched and the reply had the types of the message. -/
theorem restores_labels (h : c.rehoming.Parks place) (m : Message) :
    c.Returning m fun arrived after =>
      Envelope.capture after = c.rehoming.labels (.capture m) (.capture arrived) ∧
      (Envelope.capture after = .capture m ↔
        match c.rehoming.switched? (.capture m) with
        | some _ => ∃ content, m.contentType = some content ∧
            m.headers.get? contentTypeHeader = some content
        | none => arrived.messageType = m.messageType ∧ arrived.contentType = m.contentType) := by
  refine returning fun arrived back _ hsame => ?_
  have hback : Envelope.capture back = .capture arrived := by
    rw [Envelope.capture, hsame.messageType, hsame.contentType, hsame.headers]
    rfl
  have hlabels : Envelope.capture (c.rehoming.inbound back (.capture m)) =
      c.rehoming.labels (.capture m) (.capture arrived) := by
    rw [h.capture_inbound, hback]
  refine ⟨hlabels, ?_⟩
  rw [hlabels, Rehoming.labels]
  cases hswitched : c.rehoming.switched? (.capture m) with
  | none => simp [Envelope.capture]
  | some own =>
    have hown : m.messageType = some own := by
      unfold Rehoming.switched? at hswitched
      split at hswitched
      · split at hswitched
        · simp at hswitched
        · obtain rfl := Option.some.inj hswitched
          assumption
      · simp at hswitched
    cases hcontent : m.contentType with
    | none => simp [Envelope.capture, hcontent]
    | some content => simp [Envelope.capture, hown, hcontent, Dict.insert_eq_self_iff]

end Call

/-! ## A question and its answer

The request of the call is a question in a property, and its answer goes to a variable. The
channel answers with a number, and so makes the type of the message that of a JSON text. -/

namespace Question

/-- A call that waits for the answer to a question. -/
def ask (sourceType : Option String) : Call where
  name := "ask"
  transport := "channel"
  blocking := true
  rehoming := ⟨some (.slot (.property "question")), some (.slot (.variable "answer")), sourceType⟩

def order (payload : Payload) (messageType : Option String) : Message where
  id := ⟨0⟩
  properties := (∅ : Dict Value).insert "question" (.text "how much?")
  payload
  messageType
  contentType := messageType

/-- The channel answers with a number. -/
def bus : Bus where
  transports := (∅ : Dict Transport).insert "channel" { standing := .respond (.json (.int 42)) }

/-- The message with the answer. -/
def answered (m : Message) : Message :=
  { m.setPayload (.json (.int 42)) with response := true }

theorem order_asks (payload : Payload) (messageType : Option String) :
    (order payload messageType).property? "question" ≠ none := by
  simp [order, Message.property?, Dict.get?_insert]

theorem bus_allows : bus.Allows Edit.OnlyReply := by
  intro channel edits hedits
  have hnone : (bus.transport channel).edits = [] := by
    rw [Bus.transport, bus, Dict.get?_insert]
    split <;> rfl
  simp [hnone] at hedits

/-- The call ends with success. -/
theorem reaches (sourceType : Option String) {m : Message}
    (hquestion : m.property? "question" ≠ none) :
    Flow.Reaches (·.Allows Edit.OnlyReply) (.busy m (.mediate (.call (ask sourceType))) [])
      (Flow.answer ((ask sourceType).rehoming.inbound (answered ((ask sourceType).asked m))
        (.capture m)) (.proceed true) []) := by
  have hready : ((ask sourceType).rehoming.outbound m (.capture m)).2 = .ok () := by
    obtain ⟨v, hv⟩ := Option.ne_none_iff_exists'.1 hquestion
    obtain hv : m.properties.get? "question" = some v := hv
    simp only [ask, Rehoming.outbound, PayloadSource.isBody, Rehoming.readSource, Message.slot?,
      Option.isSome_some, if_true, Bool.false_eq_true, if_false, Message.setProperty,
      Dict.get?_insert, if_neg (show "question" ≠ Property.parkedBody by decide), hv]
    split <;> rfl
  have hbrings : Brings ((ask sourceType).asked m) (answered ((ask sourceType).asked m)) :=
    (Brings.outlasts _).answered _ (Brings.refl _)
  have hlast := Call.afterBlockingCall_eq (c := ask sourceType) (r := .proceed true) hbrings rfl []
  have hasked := Call.call_eq_send_asked (c := ask sourceType) rfl hready [] bus
  generalize (ask sourceType).asked m = sent at hlast hasked ⊢
  -- what is left for later while the channel works
  obtain ⟨k, hk⟩ : ∃ k, k = [Pending.implicit SendMode.blocking,
    .blockingCall (ask sourceType) (.capture m) m.headHandlerId?] := ⟨_, rfl⟩
  have given : (Flow.busy sent (.transmit (.respond (.json (.int 42))) []) k).step bus =
      some (.busy (answered sent) (.edit [] []) (.reply (.proceed true) :: k), bus) := rfl
  have edited : (Flow.busy (answered sent) (.edit [] []) (.reply (.proceed true) :: k)).step bus =
      some (Flow.answer (answered sent) (.edited []) (.reply (.proceed true) :: k), bus) := rfl
  have replied : (Flow.answer (answered sent) (.edited []) (.reply (.proceed true) :: k)).step
      bus = some (Flow.answer (answered sent) (.proceed true) k, bus) := rfl
  have sending : (Flow.answer (answered sent) (.proceed true) k).step bus = some
      (Flow.answer (answered sent) (.proceed true)
        [.blockingCall (ask sourceType) (.capture m) m.headHandlerId?], bus) := by
    rw [hk]
    rfl
  have entered : (Flow.busy m (.mediate (.call (ask sourceType))) []).step bus =
      some (.busy sent (.transmit (.respond (.json (.int 42))) []) k,
        (Flow.send (ask sourceType) sent [] bus).2) := by
    refine (congrArg some hasked).trans ?_
    rw [hk]
    simp only [Flow.send, ask, Flow.transmit, Option.none_or]
    cases sent.destination <;> rfl
  have last : (Flow.answer (answered sent) (.proceed true)
      [.blockingCall (ask sourceType) (.capture m) m.headHandlerId?]).step bus = some
        (Flow.answer ((ask sourceType).rehoming.inbound (answered sent) (.capture m))
          (.proceed true) [], bus) :=
    congrArg (fun f => some (f, bus)) hlast
  exact .of_step bus_allows entered (.of_step bus_allows given (.of_step bus_allows edited
    (.of_step bus_allows replied (.of_step bus_allows sending (.of_step bus_allows last .refl)))))

theorem parks (sourceType : Option String) :
    (ask sourceType).rehoming.Parks (.variable "answer") :=
  ⟨rfl, rfl, Slot.noConfusion⟩

/-- A number comes back as it was. -/
theorem restores_body_number : (ask none).rehoming.Parks (.variable "answer") ∧
    (Payload.json (.int 7)).Keeps (some ContentType.json) ∧
    ∃ after, Flow.Reaches (·.Allows Edit.OnlyReply)
      (.busy (order (.json (.int 7)) (some ContentType.json)) (.mediate (.call (ask none))) [])
      (Flow.answer after (.proceed true) []) ∧ after.payload = .json (.int 7) := by
  have hends := reaches none (order_asks (.json (.int 7)) (some ContentType.json))
  obtain ⟨-, -, -, -, -, -, hrestored⟩ :=
    (Call.restores_body (parks none) (order (.json (.int 7)) (some ContentType.json))).waited rfl
      _ _ hends rfl
  exact ⟨parks none, trivial, _, hends, hrestored.2 trivial⟩

/-- A text under the type of XML comes back under this type, which the source had switched. -/
theorem restores_labels_xml : (ask (some "text/plain")).rehoming.Parks (.variable "answer") ∧
    ∃ after, Flow.Reaches (·.Allows Edit.OnlyReply)
      (.busy (order (.xml "<order/>") (some "application/xml"))
        (.mediate (.call (ask (some "text/plain")))) [])
      (Flow.answer after (.proceed true) []) ∧ after.messageType = some "application/xml" := by
  have hends := reaches (some "text/plain") (order_asks (.xml "<order/>") (some "application/xml"))
  obtain ⟨_, _, _, -, -, hlabels, -⟩ := (Call.restores_labels (parks (some "text/plain"))
    (order (.xml "<order/>") (some "application/xml"))).waited rfl _ _ hends rfl
  exact ⟨parks _, _, hends, congrArg Envelope.messageType hlabels⟩

end Question

open Question in
/-- The body does not always come back as it was: a text under a type with a parameter comes
back as a JSON text. -/
theorem body_changed : ∃ (c : Call) (place : Slot) (m after : Message),
    c.rehoming.Parks place ∧ c.blocking = true ∧
    Flow.Reaches (·.Allows Edit.OnlyReply) (.busy m (.mediate (.call c)) [])
      (Flow.answer after (.proceed true) []) ∧
    m.messageType = some "text/plain; charset=utf-8" ∧ m.payload = .text "order 7" ∧
    after.payload = .json (.text "order 7") :=
  ⟨ask none, .variable "answer", order (.text "order 7") (some "text/plain; charset=utf-8"), _,
    parks none, rfl, reaches none (order_asks _ _), rfl, rfl, rfl⟩

open Question in
/-- The labels do not always come back: where the source has no type of its own, the old body
goes on under the type of the reply. -/
theorem body_under_reply_type : ∃ (c : Call) (place : Slot) (m after : Message),
    c.rehoming.Parks place ∧ c.blocking = true ∧
    Flow.Reaches (·.Allows Edit.OnlyReply) (.busy m (.mediate (.call c)) [])
      (Flow.answer after (.proceed true) []) ∧
    m.messageType = some "text/plain" ∧ m.contentType = some "text/plain" ∧
    m.payload = .text "order 7" ∧ after.payload = .text "order 7" ∧
    after.messageType = some "application/json" ∧ after.contentType = some "application/json" :=
  ⟨ask none, .variable "answer", order (.text "order 7") (some "text/plain"), _, parks none, rfl,
    reaches none (order_asks _ _), rfl, rfl, rfl, rfl, rfl, rfl⟩

end ServiceBus
