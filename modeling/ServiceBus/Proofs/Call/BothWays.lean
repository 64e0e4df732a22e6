import ServiceBus.Proofs.Call.Exchange
import ServiceBus.Proofs.Call.Outgoing
import ServiceBus.Proofs.Call.Recorded

/-
ServiceBus.Proofs.Call.BothWays — a reply is put in its place in the same way on both
ways back.

A blocking call keeps the envelope of the message while it waits, and moves the
reply by it. A call that is handed off leaves the envelope on the message, and the
response path reads it from there. `rehomes_alike` says that both leave the same
message, apart from the bookkeeping of calls.

  - `Brings sent arrived` says what may become of a message on its way through a
    channel and back: its body, types, headers and the marks of attempts change.
    A send brings nothing else (`send_brings`).
  - `Agree known a b` says that two messages are the same but for properties other
    than the known ones; `Rehoming.inbound` keeps that, and makes the property of
    its target a known one (`Agree.inbound`).
-/
namespace ServiceBus

/-! ## On the way through a channel -/

/-- What may become of a message between its sending and the arrival of the reply. -/
structure Brings (sent arrived : Message) : Prop where
  property : ∀ name, name ∉ Property.perCall → arrived.property? name = sent.property? name
  unmarked : sent.property? Property.blockingSenderError = none →
    arrived.property? Property.blockingSenderError = none
  vars : arrived.vars = sent.vars
  wayBack : arrived.wayBack = sent.wayBack

/-- An edit that changes no more of a message than a reply does. -/
structure Edit.OnlyReply (e : Edit Mediator) : Prop where
  plain : e.isHandleFault = false
  changes : ∀ m bus, ∃ payload messageType contentType headers response,
    (e.perform m bus).2.1 = { m with payload, messageType, contentType, headers, response }

namespace Brings

variable {sent m : Message}

theorem refl (m : Message) : Brings m m := ⟨fun _ _ => rfl, id, rfl, rfl⟩

/-- A reply changes the body, its types, the headers and the mark of a reply. -/
theorem reply (h : Brings sent m) (payload : Payload) (messageType contentType : Option String)
    (headers : Dict String) (response : Bool) :
    Brings sent { m with payload, messageType, contentType, headers, response } :=
  ⟨h.property, h.unmarked, h.vars, h.wayBack⟩

theorem outlasts (sent : Message) : Outlasts (Brings sent) where
  marked name h := by
    refine ⟨fun other hother => ?_, fun hnone => ?_, h.vars, h.wayBack⟩
    · have hne : other ≠ Property.lastEndpoint := by
        rintro rfl
        exact hother (by decide)
      rw [Message.property?_setProperty, if_neg hne]
      exact h.property other hother
    · rw [Message.property?_setProperty, if_neg (by decide)]
      exact h.unmarked hnone
  cleared h := by
    refine ⟨fun other hother => ?_, fun _ => ?_, h.vars, h.wayBack⟩
    · rw [Message.property?_clearCallProperties, if_neg hother]
      exact h.property other hother
    · rw [Message.property?_clearCallProperties, if_pos (by decide)]
  answered payload h := by
    unfold Message.setPayload
    split <;> exact h.reply ..

theorem lasts {e : Edit Mediator} (h : e.OnlyReply) (sent : Message) : e.Lasts (Brings sent) where
  plain := h.plain
  keeps m bus hm := by
    obtain ⟨payload, messageType, contentType, headers, response, he⟩ := h.changes m bus
    rw [he]
    exact hm.reply ..

end Brings

/-- A send over channels that reply, and do nothing else to the message, brings no other
change. -/
theorem send_brings (c : Call) (sent : Message) {bus : Bus} (hok : bus.Allows Edit.OnlyReply) :
    Flow.EndsIn (·.Allows Edit.OnlyReply)
      (fun arrived r => ∀ flag, r.verdict = .ok flag → Brings sent arrived)
      (Flow.send c sent [] bus).1 := by
  have hlasts {bus : Bus} (h : bus.Allows Edit.OnlyReply) : bus.Allows (·.Lasts (Brings sent)) :=
    fun channel edits hedits e he => Brings.lasts (h channel edits hedits e he) sent
  exact (send_endsIn (Brings.outlasts sent) c (Brings.refl sent) (hlasts hok)).anti hlasts

/-! ## Messages that agree -/

/-- Two messages with the same body, types and headers. -/
structure SameReply (a b : Message) : Prop where
  payload : a.payload = b.payload
  messageType : a.messageType = b.messageType
  contentType : a.contentType = b.contentType
  headers : a.headers = b.headers

/-- Two messages that are the same but for other properties than the known ones. -/
structure Agree (known : String → Prop) (a b : Message) : Prop extends SameReply a b where
  vars : a.vars = b.vars
  property : ∀ name, known name → a.property? name = b.property? name

namespace Agree

variable {known : String → Prop} {a b : Message}

theorem mono {known' : String → Prop} (h : Agree known a b)
    (hk : ∀ name, known' name → known name) :
    Agree known' a b :=
  ⟨h.toSameReply, h.vars, fun name hname => h.property name (hk name hname)⟩

theorem setProperty (h : Agree known a b) (name : String) (v : Value) :
    Agree (fun other => other = name ∨ known other) (a.setProperty name v)
      (b.setProperty name v) := by
  refine ⟨⟨h.payload, h.messageType, h.contentType, h.headers⟩, h.vars, fun other hother => ?_⟩
  rw [Message.property?_setProperty, Message.property?_setProperty]
  by_cases hn : other = name
  · rw [if_pos hn, if_pos hn]
  · rw [if_neg hn, if_neg hn]
    exact h.property other (hother.resolve_left hn)

theorem removeProperty (h : Agree known a b) (name : String) :
    Agree known (a.removeProperty name) (b.removeProperty name) := by
  refine ⟨⟨h.payload, h.messageType, h.contentType, h.headers⟩, h.vars, fun other hother => ?_⟩
  rw [Message.property?_removeProperty, Message.property?_removeProperty, h.property other hother]

theorem setVariable (h : Agree known a b) (name : String) (v : Value) :
    Agree known (a.setVariable name v) (b.setVariable name v) :=
  ⟨⟨h.payload, h.messageType, h.contentType, h.headers⟩,
    congrArg (·.insert name v) h.vars, h.property⟩

theorem setPayload (h : Agree known a b) (p : Payload) :
    Agree known (a.setPayload p) (b.setPayload p) := by
  unfold Message.setPayload
  split
  · exact ⟨⟨rfl, rfl, rfl, h.headers⟩, h.vars, h.property⟩
  · exact ⟨⟨rfl, h.messageType, h.contentType, h.headers⟩, h.vars, h.property⟩

/-- The property that a target stands for, if it is one. -/
def inTarget (target : Option PayloadTarget) (name : String) : Prop :=
  target = some (.slot (.property name))

theorem writeTarget (h : Agree known a b) (target : PayloadTarget) (p : Payload) :
    Agree (fun name => inTarget (some target) name ∨ known name)
      (Rehoming.writeTarget a target p) (Rehoming.writeTarget b target p) := by
  cases target with
  | body => exact (h.setPayload p).mono fun name hname => hname.resolve_left (by simp [inTarget])
  | slot s =>
    match s with
    | .variable n =>
      exact (h.setVariable n _).mono fun name hname => hname.resolve_left (by simp [inTarget])
    | .property n =>
      refine (h.setProperty n _).mono fun name hname => hname.imp_left fun htarget => ?_
      simpa [inTarget, eq_comm] using htarget

/-- The way back of a reply keeps the agreement of two messages on which the same body is
parked, and puts the reply into the same place. -/
theorem inbound (h : Agree known a b) (hparked : known Property.parkedBody) (r : Rehoming)
    (before : Envelope) :
    Agree (fun name => inTarget r.target name ∨ known name) (r.inbound a before)
      (r.inbound b before) := by
  unfold Rehoming.inbound
  cases htarget : r.target with
  | none => exact h.mono fun name hname => hname.resolve_left (by simp [inTarget])
  | some target =>
    have hwritten := h.writeTarget target a.payload
    have hparked' := hwritten.property Property.parkedBody (.inr hparked)
    have hremoved := hwritten.removeProperty Property.parkedBody
    simp only [← h.payload]
    split
    · exact hwritten
    · rw [hparked']
      split
      · exact ⟨⟨rfl, hremoved.messageType, hremoved.contentType, rfl⟩, hremoved.vars,
          hremoved.property⟩
      · split
        · exact ⟨⟨rfl, rfl, rfl, rfl⟩, hremoved.vars, hremoved.property⟩
        · exact ⟨⟨rfl, hremoved.messageType, hremoved.contentType, rfl⟩, hremoved.vars,
            hremoved.property⟩

end Agree

/-! ## Both ways back -/

namespace Call

/-- The properties that calls keep no books in: neither for one attempt, nor while a reply is
awaited. -/
def Lasting (name : String) : Prop :=
  name ∉ Property.perCall ∧ name ≠ Property.continuationCall

section

variable {c d : Call} {m : Message}

theorem recorded_congr (hsame : d.rehoming = c.rehoming) : d.recorded m = c.recorded m := by
  rw [recorded, recorded, hsame]

theorem asked_property? (name : String) :
    (c.asked m).property? name =
      if name = Property.lastFaultHandler then
        ((c.recorded m).headHandlerId?.map (.text ·.text)).or ((c.recorded m).property? name)
      else if name ∈ Property.perBlockingCall then none
      else if name = Property.blockingSender then some (.text c.name)
      else (c.recorded m).property? name := by
  have hcleared : ({ (c.recorded m).setProperty Property.blockingSender (.text c.name) with
      properties := ((c.recorded m).setProperty Property.blockingSender
        (.text c.name)).properties.eraseAll Property.perBlockingCall } : Message).property? name =
      if name ∈ Property.perBlockingCall then none
      else if name = Property.blockingSender then some (.text c.name)
      else (c.recorded m).property? name :=
    (Dict.get?_eraseAll ..).trans
      (congrArg (ite (name ∈ Property.perBlockingCall) none) (Message.property?_setProperty ..))
  rw [asked, Message.property?_noteHandler, hcleared]
  split
  · next h =>
    subst h
    rw [if_neg (by decide), if_neg (by decide)]
    rfl
  · rfl

theorem asked_unmarked : (c.asked m).property? Property.blockingSenderError = none := by
  rw [asked_property?, if_neg (by decide), if_pos (by decide)]

theorem asked_property?_of_lasting (name : String) (h : name ∉ Property.perCall) :
    (c.asked m).property? name = (Flow.noteHandler (c.recorded m)).property? name := by
  have hsender : name ≠ Property.blockingSender := by
    rintro rfl
    exact h (by decide)
  have hsubset : Property.perBlockingCall ⊆ Property.perCall := by decide
  rw [asked_property?, if_neg fun hin => h (hsubset hin), if_neg hsender,
    Message.property?_noteHandler]

theorem handedOver_property? (name : String) (h : Lasting name) :
    (c.handedOver m).property? name = (Flow.noteHandler (c.recorded m)).property? name := by
  rw [property?_handedOver, if_neg h.2, prepared, Message.property?_clearCallProperties, if_neg h.1]
  rfl

theorem noteHandler_vars (m : Message) : (Flow.noteHandler m).vars = m.vars := by
  unfold Flow.noteHandler
  split <;> rfl

theorem asked_vars : (c.asked m).vars = (c.recorded m).vars := noteHandler_vars _

theorem handedOver_vars : (c.handedOver m).vars = (c.recorded m).vars := by
  have hpushed : (c.handedOver m).vars = (c.prepared m).vars := by
    unfold handedOver
    simp only
    split <;> rfl
  rw [hpushed]
  exact noteHandler_vars _

/-- The envelope outlasts the send and the first steps of the response path. -/
theorem ofProperties_of_lasting {b : Message} (h : ∀ name, Lasting name →
    b.property? name = (Flow.noteHandler (c.recorded m)).property? name) :
    Envelope.ofProperties b = .capture m := by
  have hread : Envelope.ofProperties b = Envelope.ofProperties (c.recorded m) := by
    refine Envelope.ofProperties_congr fun name hname => ?_
    simp only [Envelope.names, List.mem_cons, List.not_mem_nil, or_false] at hname
    have hlasting : Lasting name ∧ name ≠ Property.lastFaultHandler := by
      rcases hname with rfl | rfl | rfl <;> exact ⟨⟨by decide, by decide⟩, by decide⟩
    rw [h name hlasting.1]
    exact (Message.property?_noteHandler ..).trans (if_neg hlasting.2)
  rw [hread]
  exact Envelope.ofProperties_record ..

/-- A blocking call whose send brought a reply moves it by the envelope that it kept. -/
theorem afterBlockingCall_eq {a : Message} (ha : Brings (c.asked m) a) {r : Reply} {flag : Bool}
    (hr : r.verdict = .ok flag) (k : List Pending) :
    Flow.afterBlockingCall c (.capture m) m.headHandlerId? r a k =
      Flow.answer (c.rehoming.inbound a (.capture m)) (.proceed true) k := by
  have hhead : a.headHandlerId? = m.headHandlerId? :=
    headHandlerId?_congr (ha.wayBack.trans asked_wayBack)
  have hunmarked : a.isTrue Property.blockingSenderError = false := by
    rw [Message.isTrue, ha.unmarked asked_unmarked]
  simp only [Flow.afterBlockingCall, hr, hhead, ne_eq, not_true_eq_false, if_false, hunmarked,
    Bool.false_eq_true]

/-- The message that the response path rehomes: the frame to resume at is off. -/
def resumed (b : Message) : Message :=
  { b with continuation := b.continuation.tail, response := true }.removeProperty
    Property.continuationCall

/-- The response path moves the reply by the envelope that it reads from the message. -/
theorem respond_eq {b : Message} {top : Frame} {rest : Continuation}
    (hframes : b.continuation = top :: rest) {bus : Bus}
    (hendpoint : ∀ name, d.endpoint = some name → ∃ e, bus.concrete name = .ok e) :
    ∃ bus', d.respond b bus =
      (.ok top, d.rehoming.inbound (resumed b) (Envelope.ofProperties (resumed b)), bus') := by
  simp only [respond, Message.resume, hframes, resumed, List.tail_cons]
  cases hname : d.endpoint with
  | none => exact ⟨bus, rfl⟩
  | some name =>
    obtain ⟨e, he⟩ := hendpoint name hname
    simp only [Bus.recordResponse, he]
    exact ⟨_, rfl⟩

theorem resumed_property? {b : Message} (name : String) (h : Lasting name) :
    (resumed b).property? name = b.property? name := by
  rw [resumed, Message.property?_removeProperty, if_neg h.2]
  rfl

/-- When the replies are there, the two messages agree. -/
theorem agree_of_brings (hsame : d.rehoming = c.rehoming) {a b : Message}
    (ha : Brings (c.asked m) a) (hb : Brings (d.handedOver m) b) (hreply : SameReply a b) :
    Agree Lasting a (resumed b) := by
  refine ⟨⟨hreply.1, hreply.2, hreply.3, hreply.4⟩, ?_, fun name hname => ?_⟩
  · rw [ha.vars, asked_vars, ← recorded_congr hsame, ← handedOver_vars, ← hb.vars]
    rfl
  · rw [ha.property name hname.1, asked_property?_of_lasting name hname.1, ← recorded_congr hsame,
      ← handedOver_property? name hname, ← hb.property name hname.1, resumed_property? name hname]

end

/-- The reply to a call is put in its place in the same way whether the call waited for it or
it came over the response path, whatever the rehoming, the message and the reply are.

The message type, the content type and the headers from before the call come back as they
were, absent ones as absent, whatever earlier calls have left in their properties. Where the
body cannot be moved, both calls fail alike. Else they send what is recorded, as itself or as
a copy, and a send brings back nothing that would make a difference. Once the same reply is
there, both ways lead to the same body, types, headers and variables, and to the same property
of the target, if it is one, and to the same properties that calls keep no books in. -/
theorem rehomes_alike {c d : Call} (hc : c.blocking = true) (hd : d.blocking = false)
    (hsame : d.rehoming = c.rehoming) (m : Message) :
    (∀ recorded : Message,
      Envelope.ofProperties (c.rehoming.record recorded (.capture m)) = .capture m) ∧
    (∀ e k bus, (c.rehoming.outbound m (.capture m)).2 = .error e → m.continuation ≠ [] →
      Flow.call c m k bus = Flow.call d m k bus) ∧
    (∀ k bus, (c.rehoming.outbound m (.capture m)).2 = .ok () → m.continuation ≠ [] →
      Flow.call c m k bus =
        Flow.send c (c.asked m) (.blockingCall c (.capture m) m.headHandlerId? :: k) bus ∧
      Flow.call d m k bus =
        if m.isOutOnly then
          Flow.send d ((d.handedOver m).fork bus.freshId.1) (.outOnly d (d.prepared m) :: k)
            bus.freshId.2
        else Flow.send d (d.handedOver m) (.handOff d :: k) bus) ∧
    (∀ call sent bus, bus.Allows Edit.OnlyReply → Flow.EndsIn (·.Allows Edit.OnlyReply)
      (fun arrived r => ∀ flag, r.verdict = .ok flag → Brings sent arrived)
      (Flow.send call sent [] bus).1) ∧
    ∀ a b, Brings (c.asked m) a →
      (Brings (d.handedOver m) b ∨ ∃ id, Brings ((d.handedOver m).fork id) b) → SameReply a b →
      ∀ r flag, r.verdict = .ok flag → ∀ top rest, b.continuation = top :: rest →
      ∀ bus, (∀ name, d.endpoint = some name → ∃ e, bus.concrete name = .ok e) →
      ∃ a' b' bus',
        (∀ k, Flow.afterBlockingCall c (.capture m) m.headHandlerId? r a k =
          Flow.answer a' (.proceed true) k) ∧
        d.respond b bus = (.ok top, b', bus') ∧
        Agree (fun name => Agree.inTarget c.rehoming.target name ∨ Lasting name) a' b' := by
  have hready :
      (d.rehoming.outbound m (.capture m)).2 = (c.rehoming.outbound m (.capture m)).2 := by
    rw [hsame]
  refine ⟨fun recorded => Envelope.ofProperties_record _ recorded _,
    fun e k bus hfails hframes => ?_,
    fun k bus hsends hframes => ⟨call_eq_send_asked hc hsends k bus, ?_⟩,
    fun call sent bus hok => send_brings call sent hok, ?_⟩
  · rw [call_eq_failed (.inl hc) hfails, call_eq_failed (.inr hframes) (hready.trans hfails), hsame]
  · obtain ⟨top, rest, hcons⟩ := List.exists_cons_of_ne_nil hframes
    split
    · next hout => exact call_eq_send_copy hd hframes (hready.trans hsends) hout k bus
    · next hout =>
      exact call_eq_send hd hcons (hready.trans hsends) (Bool.eq_false_iff.2 hout) k bus
  · intro a b ha hb hreply r flag hr top rest hframes bus hendpoint
    have hb : Brings (d.handedOver m) b := by
      obtain hb | ⟨id, hb⟩ := hb
      · exact hb
      · exact ⟨hb.property, hb.unmarked, hb.vars, hb.wayBack⟩
    have hagree : Agree Lasting a (resumed b) := agree_of_brings hsame ha hb hreply
    -- the envelope that the response path reads is the one that the blocking call kept
    have henvelope : Envelope.ofProperties (resumed b) = .capture m :=
      ofProperties_of_lasting (c := d) fun name hname => by
        rw [resumed_property? name hname, hb.property name hname.1, handedOver_property? name hname]
    obtain ⟨bus', hrespond⟩ := respond_eq hframes hendpoint
    rw [henvelope, hsame] at hrespond
    exact ⟨_, _, bus', afterBlockingCall_eq ha hr, hrespond,
      hagree.inbound ⟨by decide, by decide⟩ c.rehoming (.capture m)⟩

/-! ## A rehoming from and to properties that calls keep books in -/

namespace Overlap

/-- The body comes from where the message type is saved, and the reply goes to where the
content type is saved. -/
def rehoming : Rehoming where
  source := some (.slot (.property Property.savedMessageType))
  target := some (.slot (.property Property.savedContentType))
  sourceType := some "text/plain"

def waits : Call := { name := "waits", transport := "channel", blocking := true, rehoming }

def handsOff : Call := { name := "hands off", transport := "channel", rehoming }

/-- A message without content type, on which an earlier call has left both types. -/
def message : Message where
  id := ⟨0⟩
  properties := Dict.ofList
    [(Property.savedMessageType, .text "left behind"), (Property.savedContentType, .text "stale")]
  payload := .text "body"
  headers := Dict.ofList [("trace", "1")]
  messageType := some "text/html"
  continuation := [Frame.start .named "flow"]

/-- A message with the reply in place of its body. -/
def replied (sent : Message) : Message :=
  { sent with payload := .text "reply", headers := ∅, response := true }

theorem rehomes_alike_overlap :
    (rehoming.outbound message (.capture message)).2 = .ok () ∧
      SameReply (replied (waits.asked message)) (replied (handsOff.handedOver message)) ∧
      ∃ a b bus,
        (∀ k, Flow.afterBlockingCall waits (.capture message) none (.proceed true)
          (replied (waits.asked message)) k = Flow.answer a (.proceed true) k) ∧
        handsOff.respond (replied (handsOff.handedOver message)) {} =
          (.ok (Frame.start .named "flow"), b, bus) ∧
        Agree (fun name => name = Property.savedContentType ∨ Lasting name) a b ∧
        b.property? Property.savedContentType = some (.text "reply") ∧
        b.messageType = some "text/html" ∧ b.contentType = some "text/html" := by
  have hreply :
      SameReply (replied (waits.asked message)) (replied (handsOff.handedOver message)) := by
    refine ⟨?_, by decide, by decide, ?_⟩
    · simp only [replied]
    · simp only [replied]
  have hbrings (m : Message) : Brings m (replied m) := (Brings.refl m).reply ..
  refine ⟨rfl, hreply, ?_⟩
  have hframes : (handsOff.handedOver message).continuation =
      [Frame.start .named "flow", Frame.start .named "flow"] := by
    have hback : message.wayBack = ([Frame.start .named "flow"], []) := rfl
    exact (Message.wayBack_eq.1 (handedOver_wayBack hback)).1
  obtain ⟨-, -, -, -, hways⟩ := rehomes_alike (c := waits) (d := handsOff) rfl rfl rfl message
  obtain ⟨a, b, bus, hwaits, hresponds, hagree⟩ := hways _ _ (hbrings _) (.inl (hbrings _)) hreply
    (.proceed true) true rfl _ _ hframes {} (by simp [handsOff])
  refine ⟨a, b, bus, hwaits, hresponds, hagree.mono fun name hname => ?_, ?_⟩
  · refine hname.imp_left ?_
    rintro rfl
    rfl
  · have hb : b = (handsOff.respond (replied (handsOff.handedOver message)) {}).2.1 := by
      rw [hresponds]
    rw [hb]
    exact ⟨rfl, rfl, rfl⟩

end Overlap

end Call

end ServiceBus
