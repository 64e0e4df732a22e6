import ServiceBus.Proofs.Call.Rejected
import ServiceBus.Proofs.Call.Resent
import ServiceBus.Proofs.Call.Returned

/-
ServiceBus.Proofs.Call.Copied — what goes on when a call sends a copy.

A call of a message that wants no reply sends a copy, and goes on with the message that it
has. The channel is given the copy: it has an identity of its own, one frame more, and the
mark of a call that is handed off. But the body is moved before the copy is made, and only
the response path would move it back. So the message that goes on has the request in place of
its body, under the type of the request (`Call.copies`); its frames and its handlers are
those from before the call.
-/
namespace ServiceBus

namespace Rehoming

variable {r : Rehoming} {m : Message}

/-- The body that the way out puts in place. -/
def request (r : Rehoming) (m : Message) : Payload :=
  match r.source with
  | none => m.payload
  | some .body => m.payload
  | some (.inline p) => p
  | some (.slot place) =>
    .ofValue (((r.parking m).slot? place).getD .null) (r.effectiveType (.capture m))

/-- Types and headers of the message with the request. -/
def requestLabels (r : Rehoming) (m : Message) : Envelope :=
  match r.newType? m with
  | some type => ⟨some type, some type, m.headers.insert contentTypeHeader type⟩
  | none => .capture m

theorem parking_same : (r.parking m).payload = m.payload ∧
    Envelope.capture (r.parking m) = .capture m := by
  unfold parking
  split <;> exact ⟨rfl, rfl⟩

/-- What the way out makes of body, types and headers. -/
theorem outbound_spec (h : (r.outbound m (.capture m)).2 = .ok ()) :
    (r.outbound m (.capture m)).1.payload = r.request m ∧
      Envelope.capture (r.outbound m (.capture m)).1 = r.requestLabels m := by
  cases hsource : r.source with
  | none =>
    have hnew : r.newType? m = none := by simp only [newType?, hsource]
    simp only [outbound, hsource, request, requestLabels, hnew, and_self]
  | some source =>
    have hread : readSource (r.parking m) source (r.effectiveType (.capture m)) =
        .ok (r.request m) := by
      cases source with
      | body => simp only [readSource, request, hsource, parking_same]
      | inline p => simp only [readSource, request, hsource]
      | slot place =>
        cases hplace : (r.parking m).slot? place with
        | none =>
          exact absurd ((slot?_parking hsource).1 hplace) (outbound_eq_ok_iff.1 h place)
        | some v => simp only [readSource, request, hsource, hplace, Option.getD_some]
    rw [outbound_eq hsource, hread, requestLabels]
    obtain ⟨-, hlabels⟩ := parking_same (r := r) (m := m)
    cases r.newType? m with
    | none => exact ⟨rfl, hlabels⟩
    | some type =>
      have hheaders : (r.parking m).headers = m.headers := congrArg Envelope.headers hlabels
      refine ⟨rfl, ?_⟩
      simp only [Envelope.capture, Message.setContentType, hheaders]

theorem record_same (r : Rehoming) (m : Message) (before : Envelope) :
    (r.record m before).payload = m.payload ∧
      Envelope.capture (r.record m before) = .capture m := by
  have set (m : Message) (name : String) (v : Value) :
      (m.setProperty name v).payload = m.payload ∧
        Envelope.capture (m.setProperty name v) = .capture m := ⟨rfl, rfl⟩
  have setOrRemoved (m : Message) (name : String) (text : Option String) :
      (setOrRemove m name text).payload = m.payload ∧
        Envelope.capture (setOrRemove m name text) = .capture m := by
    cases text <;> exact ⟨rfl, rfl⟩
  simp only [record, set, setOrRemoved]
  cases r.target <;> cases r.effectiveType before <;> simp only [set, and_self]

/-- A type that the way out switches to is another one. -/
theorem requestLabels_eq_iff : r.requestLabels m = .capture m ↔ r.newType? m = none := by
  unfold requestLabels
  cases hnew : r.newType? m with
  | none => simp
  | some type =>
    refine iff_of_false (fun hsame => ?_) (by simp)
    have htype : m.messageType = some type := (congrArg Envelope.messageType hsame).symm
    unfold newType? at hnew
    split at hnew
    · split at hnew
      · simp at hnew
      · next hother =>
        obtain rfl := Option.some.inj hnew
        simp [htype, sameType, Text.eqIgnoringCase] at hother
    · simp at hnew

end Rehoming

theorem sameReply_iff {a b : Message} :
    SameReply a b ↔ a.payload = b.payload ∧ Envelope.capture a = .capture b := by
  rw [Envelope.capture, Envelope.capture, Envelope.mk.injEq]
  exact ⟨fun h => ⟨h.payload, h.messageType, h.contentType, h.headers⟩,
    fun h => ⟨h.1, h.2.1, h.2.2.1, h.2.2.2⟩⟩

namespace Call

variable {c : Call} {m : Message} {ok : Bus → Prop}

theorem prepared_spec (h : c.Ready m) :
    (c.prepared m).payload = c.rehoming.request m ∧
      Envelope.capture (c.prepared m) = c.rehoming.requestLabels m := by
  have hnoted (m : Message) : (Flow.noteHandler m).clearCallProperties.payload = m.payload ∧
      Envelope.capture (Flow.noteHandler m).clearCallProperties = .capture m := by
    unfold Flow.noteHandler
    split <;> exact ⟨rfl, rfl⟩
  have hprepared : c.prepared m = (Flow.noteHandler (c.recorded m)).clearCallProperties := rfl
  obtain ⟨hbody, hlabels⟩ := Rehoming.outbound_spec h.moved
  obtain ⟨hbody', hlabels'⟩ :=
    c.rehoming.record_same (c.rehoming.outbound m (.capture m)).1 (.capture m)
  rw [hprepared, (hnoted _).1, (hnoted _).2]
  exact ⟨hbody'.trans hbody, hlabels'.trans hlabels⟩

/-! ## What the channel is given -/

/-- Whenever a call succeeds, its channel was given the message that the call has for it. -/
theorem given_of_success (hready : c.Ready m) {given : List Message} {after : Message} {r : Reply}
    (h : Flow.Gives ok (fun _ => True) c.transport (.busy m (.mediate (.call c)) []) given
      (Flow.answer after r [])) (hr : r.verdict = .ok true) :
    ∃ bus sent later, ok bus ∧ given = sent :: later ∧
      (sent = (c.outgoing m bus).1 ∨
        ∃ name, sent = (c.outgoing m bus).1.setProperty Property.lastEndpoint (.text name)) := by
  obtain ⟨hnone, -⟩ | ⟨bus, f, bus', new, rest, hok, hs, -, hnew, rfl, hrest⟩ := h.eq_or_step
  · simp [Flow.answer] at hnone
  · obtain ⟨rfl, hgiven⟩ := new_of_call hready hs hnew
    rw [hgiven]
    split
    · exact ⟨bus, _, rest, hok, rfl, .inl rfl⟩
    · next hendpoint =>
      -- the first attempt is the next move
      obtain ⟨name, hendpoint⟩ := Option.ne_none_iff_exists'.1 hendpoint
      obtain ⟨d, e, -, hchannel, hname, hattempt⟩ | ⟨e, hfailed⟩ := sending_cases hendpoint m bus
      · rw [hattempt] at hrest
        obtain ⟨hnone, -⟩ | ⟨b, f, b', new, later, -, hs', -, hnew', rfl, hlast⟩ :=
          hrest.eq_or_step
        · simp [Flow.answer, Flow.andThen] at hnone
        · rw [← hchannel] at hnew'
          obtain ⟨-, e, rfl⟩ | ⟨hgiven, -⟩ := Flow.new_of_attempt hs' hnew'
          · exact absurd hr (verdict_of_failed rfl hlast.reaches)
          · rw [hgiven]
            exact ⟨bus, _, later, hok, rfl, .inr ⟨d.endpoint, rfl⟩⟩
      · rw [hfailed] at hrest
        exact absurd hr (verdict_of_failed rfl hrest.reaches)

/-- The copy of a message as a channel is given it. -/
structure Copies (m sent : Message) : Prop where
  identity : sent.id ≠ m.id
  frames : ∃ top rest, m.continuation = top :: rest ∧ sent.continuation = top :: m.continuation
  handedOff : sent.property? Property.continuationCall = some (.bool true)

theorem copies_outgoing (hroute : c.route m = .outOnly) (hready : c.Ready m) {bus : Bus}
    (hnew : m.id.serial < bus.nextId) : Copies m (c.outgoing m bus).1 := by
  have hframes : m.continuation ≠ [] := hready.frame.resolve_left fun hmode => by
    simp [route, hmode] at hroute
  obtain ⟨top, rest, hframes⟩ := List.exists_cons_of_ne_nil hframes
  simp only [outgoing, hroute]
  refine ⟨?_, ⟨top, rest, hframes, ?_⟩, ?_⟩
  · intro hsame
    have hserial : bus.nextId = m.id.serial := congrArg Id.serial hsame
    omega
  · rw [hframes]
    exact (Message.wayBack_eq.1 (handedOver_wayBack (Message.wayBack_eq.2 ⟨hframes, rfl⟩))).1
  · exact property?_handedOver.trans (if_pos rfl)

theorem Copies.marked {sent : Message} (h : Copies m sent) (name : String) :
    Copies m (sent.setProperty Property.lastEndpoint (.text name)) :=
  ⟨h.identity, h.frames, (Message.property?_setProperty ..).trans
    ((if_neg (by decide)).trans h.handedOff)⟩

theorem resume_waiting_copy (hroute : c.route m = .outOnly) {copy : Message} {r : Reply}
    {flag : Bool} {bus : Bus} (hr : r.verdict = .ok flag) :
    Flow.resume r copy (c.waiting m) [] bus =
      (Flow.answer (c.prepared m) (.proceed true) [], bus) := by
  simp only [waiting, hroute, Flow.resume, Flow.afterOutOnly, hr]

/-- The message that goes on is the one that the copy was made of. -/
theorem prepared_of_success (hroute : c.route m = .outOnly) {copy after : Message} {r r' : Reply}
    (h : Flow.Reaches ok (Flow.answer copy r' [c.waiting m]) (Flow.answer after r []))
    (hr : r.verdict = .ok true) : after = c.prepared m := by
  cases hverdict : r'.verdict with
  | error e => exact absurd hr (verdict_of_failed hverdict h)
  | ok flag =>
    obtain hnone | ⟨bus, f, bus', -, hs, hrest⟩ := h.eq_or_step
    · simp [Flow.answer] at hnone
    · have hresume : Flow.resume r' copy (c.waiting m) [] bus =
          (Flow.answer (c.prepared m) (.proceed true) [], bus) :=
        resume_waiting_copy hroute hverdict
      obtain ⟨rfl, rfl⟩ := Prod.mk.inj (Option.some.inj (hs.symm.trans (congrArg some hresume)))
      exact (Flow.busy.inj hrest.of_answer).1

/-- A call of a message that wants no reply gives its channel a copy, and succeeds when that is
handed off. The message that goes on has its frames and its handlers from before the call,
but the request of the call in place of its body, with its type. So body, types and headers
stay exactly if the request is the body itself and has no other type. -/
theorem copies (hroute : c.route m = .outOnly) (hready : c.Ready m)
    (hnew : ∀ bus, ok bus → m.id.serial < bus.nextId) :
    (∀ bus copy r flag, ok bus →
      Flow.Reaches ok (c.sending m bus).1 (Flow.answer copy r []) → r.verdict = .ok flag →
      Flow.Reaches ok (Flow.call c m [] bus).1 (Flow.answer (c.prepared m) (.proceed true) [])) ∧
    (∀ given after r, Flow.Gives ok (fun _ => True) c.transport (.busy m (.mediate (.call c)) [])
        given (Flow.answer after r []) → r.verdict = .ok true →
      after = c.prepared m ∧ ∃ sent later, given = sent :: later ∧ Copies m sent) ∧
    (c.prepared m).wayBack = m.wayBack ∧
    (c.prepared m).payload = c.rehoming.request m ∧
    Envelope.capture (c.prepared m) = c.rehoming.requestLabels m ∧
    (SameReply (c.prepared m) m ↔
      c.rehoming.request m = m.payload ∧ c.rehoming.newType? m = none) := by
  obtain ⟨hbody, hlabels⟩ := prepared_spec hready
  refine ⟨fun bus copy r flag hok hsent hr => ?_, fun given after r h hr => ?_, prepared_wayBack,
    hbody, hlabels, ?_⟩
  · rw [call_of_ready hready]
    exact .move (hsent.andThen [c.waiting m]) hok (congrArg some (resume_waiting_copy hroute hr))
  · obtain ⟨bus, sent, later, hok, rfl, hsent⟩ := given_of_success hready h hr
    have hcopy := copies_outgoing hroute hready (hnew bus hok)
    refine ⟨?_, sent, later, rfl, ?_⟩
    · obtain ⟨hnone, -⟩ | ⟨_, f, _, _, _, -, hs, -, hgiven, -, hrest⟩ := h.eq_or_step
      · simp [Flow.answer] at hnone
      · obtain ⟨rfl, -⟩ := new_of_call hready hs hgiven
        obtain ⟨f', he, -⟩ | ⟨_, _, _, _, -, -, hbehind⟩ :=
          hrest.of_andThen waiting_isAttempt fun _ _ => trivial
        · cases f' <;> simp [Flow.answer, Flow.andThen] at he
        · exact prepared_of_success hroute hbehind.reaches hr
    · obtain rfl | ⟨name, rfl⟩ := hsent
      · exact hcopy
      · exact hcopy.marked name
  · rw [sameReply_iff, hbody, hlabels, Rehoming.requestLabels_eq_iff]

end Call

/-! ## A notice about an order

The message wants no reply. Besides the order in its body it has a text in a property. -/

namespace Notice

def notify (rehoming : Rehoming) : Call := { name := "notify", transport := "wire", rehoming }

def message : Message where
  id := ⟨0⟩
  properties := Dict.ofList
    [(Property.outOnly, .bool true), ("notice", .text "order 7 was placed")]
  payload := .json (.object [("order", .int 7)])
  messageType := some ContentType.json
  contentType := some ContentType.json
  continuation := [Frame.start .named "flow"]

def bus : Bus where
  transports := Dict.ofList [("wire", {})]
  nextId := 1

/-- The call after some moves. -/
def stage (rehoming : Rehoming) (n : Nat) : Flow × Bus :=
  (Flow.busy message (.mediate (.call (notify rehoming))) []).run n bus

/-- What the channel was given by then. -/
def given (rehoming : Rehoming) (n : Nat) : List Message :=
  ((stage rehoming n).2.transport "wire").calls.map SentMessage.message

/-- The buses on which the identity of the message is taken. -/
def Taken (bus : Bus) : Prop := message.id.serial < bus.nextId

instance : DecidablePred Taken := fun bus => Nat.decLt message.id.serial bus.nextId

theorem gives (rehoming : Rehoming) (htaken : ∀ i < 6, Taken (stage rehoming i).2) :
    Flow.Gives Taken (fun _ => True) "wire" (.busy message (.mediate (.call (notify rehoming))) [])
      (given rehoming 6) (stage rehoming 6).1 := by
  obtain ⟨given, hcourse, hgiven⟩ : ∃ given,
      Flow.Gives Taken (fun _ => True) "wire"
        (.busy message (.mediate (.call (notify rehoming))) []) given (stage rehoming 6).1 ∧
      Notice.given rehoming 6 = [] ++ given :=
    Flow.Gives.run 6 htaken fun _ _ => trivial
  rwa [hgiven]

/-- A call that sends the body as it is leaves it as it is. -/
theorem copies_plain :
    (notify {}).route message = .outOnly ∧ (notify {}).Ready message ∧
      (∀ bus, Taken bus → message.id.serial < bus.nextId) ∧
      ∃ after sent, Flow.Gives Taken (fun _ => True) "wire"
          (.busy message (.mediate (.call (notify {}))) []) [sent]
          (Flow.answer after (.proceed true) []) ∧
        Call.Copies message sent ∧ SameReply after message := by
  have hready : (notify {}).Ready message := ⟨.inr (by simp [message]), rfl⟩
  have hcourse := gives {} (by decide)
  obtain ⟨after, hafter⟩ : ∃ after, (stage {} 6).1 = Flow.answer after (.proceed true) [] :=
    ⟨_, rfl⟩
  obtain ⟨sent, hsent⟩ : ∃ sent, given {} 6 = [sent] := ⟨_, rfl⟩
  rw [hafter, hsent] at hcourse
  obtain ⟨-, hgives, -, -, -, hsame⟩ :=
    Call.copies (c := notify {}) (m := message) rfl hready fun _ htaken => htaken
  obtain ⟨rfl, first, later, hfirst, hcopy⟩ := hgives _ _ _ hcourse rfl
  obtain ⟨rfl, -⟩ := List.cons.inj hfirst
  exact ⟨rfl, hready, fun _ htaken => htaken, _, _, hcourse, hcopy, hsame.2 ⟨rfl, rfl⟩⟩

/-- The text of the notice. -/
def fromNotice : Rehoming where
  source := some (.slot (.property "notice"))
  sourceType := some ContentType.text

/-- A call that sends the notice goes on with the notice in place of the order. -/
theorem order_lost :
    (notify fromNotice).route message = .outOnly ∧ (notify fromNotice).Ready message ∧
      ∃ after, (stage fromNotice 6).1 = Flow.answer after (.proceed true) [] ∧
        after.payload = .text "order 7 was placed" ∧
        after.messageType = some ContentType.text ∧ after.contentType = some ContentType.text ∧
        after.headers.get? contentTypeHeader = some ContentType.text :=
  ⟨rfl, ⟨.inr (by simp [message]), rfl⟩, _, rfl, rfl, rfl, rfl, rfl⟩

end Notice

end ServiceBus
