import ServiceBus.Proofs.Call.Failing
import ServiceBus.Proofs.Call.Outgoing

/-
ServiceBus.Proofs.Call.Diversion — what a call does with the failure of its send.

Failures are treated in three ways. A dispatch that failed or was refused goes to the
newest fault handler: that one alone is taken off the chain, the frames are dropped,
its sequence is entered, and the call stops whatever the sequence replies, unless it
fails itself. Without a handler the failure is passed on. A discarded message stops
with a mark, and every other failure is passed on as it is. `Flow.Diverts` says this of a
flow, without a word about how the flow comes to it.

A call sends by one of three routes, and a fault may come back later on the response
path. `Call.diverts` says that behind each of these stands the same treatment, of the
message that the route leaves for it; and that this message has the frames and the
handlers from before the call, unless a handler was entered during the send. The latter
rests on what a channel may do: no `Outcome` both fails and changes the message, so a
channel that drops frames before it fails is not covered.
-/
namespace ServiceBus

/-! ## The routes of a call -/

namespace Call

/-- In which way a call sends its message. -/
inductive Route where
  /-- It waits for the reply. -/
  | blocking
  /-- The reply comes back on the response path. -/
  | handOff
  /-- A copy is handed off, and no reply is wanted. -/
  | outOnly
deriving DecidableEq

/-- The route that a call takes with a message. -/
def route (c : Call) (m : Message) : Route :=
  if c.blocking then .blocking else if m.isOutOnly then .outOnly else .handOff

/-- The call gets as far as sending. -/
structure Ready (c : Call) (m : Message) : Prop where
  frame : c.blocking = true ∨ m.continuation ≠ []
  moved : (c.rehoming.outbound m (.capture m)).2 = .ok ()

/-- The message that a call sends, and the bus with the identity of a copy taken. -/
def outgoing (c : Call) (m : Message) (bus : Bus) : Message × Bus :=
  match c.route m with
  | .blocking => (c.asked m, bus)
  | .handOff => (c.handedOver m, bus)
  | .outOnly => ((c.handedOver m).fork bus.freshId.1, bus.freshId.2)

/-- The send of a call, without the work that waits for it. -/
def sending (c : Call) (m : Message) (bus : Bus) : Flow × Bus :=
  Flow.send c (c.outgoing m bus).1 [] (c.outgoing m bus).2

/-- The work that waits for the send of a call. -/
def waiting (c : Call) (m : Message) : Pending :=
  match c.route m with
  | .blocking => .blockingCall c (.capture m) m.headHandlerId?
  | .handOff => .handOff c
  | .outOnly => .outOnly c (c.prepared m)

/-- The message that a call goes on with when its send has failed with the message
`sent`. -/
def left (c : Call) (m sent : Message) : Message :=
  match c.route m with
  | .blocking => sent.setProperty Property.blockingSenderError (.bool true)
  | .handOff => sent.popFrame
  | .outOnly => copyError sent (c.prepared m)

variable {c : Call} {m sent : Message} {bus : Bus}

theorem call_of_ready (h : c.Ready m) :
    Flow.call c m [] bus =
      ((c.sending m bus).1.andThen [c.waiting m], (c.sending m bus).2) := by
  have sends (sent : Message) (p : Pending) (bus : Bus) : Flow.send c sent [p] bus =
      ((Flow.send c sent [] bus).1.andThen [p], (Flow.send c sent [] bus).2) :=
    (Flow.goes_send c sent bus).andThen [] [p]
  by_cases hmode : c.blocking = true
  · rw [call_eq_send_asked hmode h.moved, sends]
    simp only [sending, outgoing, waiting, route, hmode, if_true]
  · rw [Bool.not_eq_true] at hmode
    have hframes := h.frame.resolve_left (by simp [hmode])
    by_cases hout : m.isOutOnly = true
    · rw [call_eq_send_copy hmode hframes h.moved hout, sends]
      simp only [sending, outgoing, waiting, route, hmode, hout, if_true, Bool.false_eq_true,
        if_false]
    · rw [Bool.not_eq_true] at hout
      obtain ⟨top, rest, hframes⟩ := List.exists_cons_of_ne_nil hframes
      rw [call_eq_send hmode hframes h.moved hout, sends]
      simp only [sending, outgoing, waiting, route, hmode, hout, Bool.false_eq_true, if_false]

end Call

theorem Rehoming.isDispatch_of_outbound {r : Rehoming} {m : Message} {before : Envelope}
    {e : Failure} (h : (r.outbound m before).2 = .error e) : e.isDispatch = false := by
  have unread {source : PayloadSource} {m : Message} {type : Option String}
      (h : readSource m source type = .error e) : e.isDispatch = false := by
    unfold readSource at h
    split at h
    · simp at h
    · simp at h
    · split at h
      · simp at h
      · obtain rfl := Except.error.inj h
        rfl
  unfold outbound at h
  split at h
  · simp at h
  · simp only at h
    split at h
    · next hsource =>
      obtain rfl := Except.error.inj h
      split at hsource
      · simp at hsource
      · exact unread hsource
    · split at h
      · split at h
        · simp at h
        · simp at h
      · simp at h

namespace Call

variable {c : Call} {m sent : Message} {bus : Bus}

/-- A call that does not get as far as sending fails with no failure of a dispatch, and
leaves the way back alone. -/
theorem call_of_not_ready (h : ¬ c.Ready m) : ∃ m' e,
    Flow.call c m [] bus = (Flow.answer m' (.failed e) [], bus) ∧ e.isDispatch = false ∧
      m'.wayBack = m.wayBack := by
  by_cases hframe : c.blocking = true ∨ m.continuation ≠ []
  · cases hmoved : (c.rehoming.outbound m (.capture m)).2 with
    | ok => exact absurd ⟨hframe, hmoved⟩ h
    | error e =>
      exact ⟨_, e, call_eq_failed hframe hmoved [] bus, Rehoming.isDispatch_of_outbound hmoved,
        (c.rehoming.outbound_cases m _).1⟩
  · obtain ⟨hmode, hframes⟩ := not_or.1 hframe
    rw [not_not] at hframes
    refine ⟨m, .invariant .noFrameForCall, ?_, rfl, rfl⟩
    simp [Flow.call, hmode, hframes]

theorem waiting_isAttempt : ∀ p ∈ [c.waiting m], p.isAttempt = false := by
  simp only [List.mem_singleton, forall_eq]
  unfold waiting
  cases c.route m <;> rfl

/-- What waits for a send that failed goes on with the message that is left for it. -/
theorem resume_waiting {r : Reply} {e : Failure} (he : r.verdict = .error e) :
    Flow.resume r sent (c.waiting m) [] bus = (Flow.divert e (c.left m sent) [], bus) := by
  unfold waiting left
  cases c.route m <;>
    simp only [Flow.resume, Flow.afterBlockingCall, Flow.afterHandOff, Flow.afterOutOnly, he]

theorem copyError_wayBack (copy : Message) : (copyError copy m).wayBack = m.wayBack := by
  unfold copyError
  generalize [Property.errorCode, Property.errorMessage, Property.errorDetail] = names
  induction names generalizing m with
  | nil => rfl
  | cons name names ih =>
    rw [List.foldl_cons, ih]
    split <;> rfl

/-- A send that leaves the way back alone leaves the one from before the call. -/
theorem left_wayBack (h : c.Ready m) (hsent : sent.wayBack = (c.outgoing m bus).1.wayBack) :
    (c.left m sent).wayBack = m.wayBack := by
  unfold left
  unfold outgoing at hsent
  cases hroute : c.route m with
  | blocking =>
    rw [hroute] at hsent
    exact hsent.trans asked_wayBack
  | outOnly => exact (copyError_wayBack sent).trans prepared_wayBack
  | handOff =>
    rw [hroute] at hsent
    have hframes : m.continuation ≠ [] := h.frame.resolve_left fun hmode => by
      simp [route, hmode] at hroute
    obtain ⟨top, rest, hframes⟩ := List.exists_cons_of_ne_nil hframes
    -- the frame that was pushed comes off again
    obtain ⟨hcontinuation, hhandlers⟩ := Message.wayBack_eq.1
      (hsent.trans (handedOver_wayBack (Message.wayBack_eq.2 ⟨hframes, rfl⟩)))
    rw [Message.wayBack_eq]
    exact ⟨(congrArg List.tail hcontinuation).trans hframes.symm, hhandlers⟩

end Call

/-! ## Three treatments of a failure -/

/-- What a handler's sequence replied, as a call reports it. -/
def Reply.diverted : Reply → Reply
  | .failed e => .failed e
  | _ => .proceed false

namespace Flow

/-- The message with a failed dispatch described on it. -/
def described (e : Failure) (m : Message) : Message :=
  let named := match e with
    | .suspended _ code _ => m.setError code e.message none
    | _ => m
  (named.setProperty Property.sendingFault (.bool true)).setProperty Property.errorException
    (.text e.message)

theorem described_wayBack (e : Failure) (m : Message) : (described e m).wayBack = m.wayBack := by
  cases e <;> simp [described]

/-- The message as its newest handler takes it over, with the chain behind that handler. -/
def takenOver (e : Failure) (m : Message) (rest : List FaultHandler) : Message :=
  { described e m with faultHandlers := rest, continuation := [] }

/-- How a flow treats a failure that its send has left on the message `m`. -/
structure Diverts (ok : Bus → Prop) (e : Failure) (m : Message) (f : Flow) : Prop where
  /-- The newest handler runs, and the flow ends as its sequence does, but stopped. -/
  handled : ∀ code, e.code? = some code → ∀ handler rest, m.faultHandlers = handler :: rest →
    f = .busy (takenOver e m rest) (.mediate handler.sequence) [.reply (.proceed false)] ∧
      ∀ m' r, Reaches ok f (answer m' r []) ↔
        ∃ r', Reaches ok (.busy (takenOver e m rest) (.mediate handler.sequence) [])
          (answer m' r' []) ∧ r = r'.diverted
  unhandled : ∀ code, e.code? = some code → m.faultHandlers = [] →
    f = answer (described e m) (.failed e) []
  discarded : ∀ note, e = .timeout note →
    f = answer (m.setProperty Property.responseDiscarded (.bool true)) (.proceed false) []
  passed : e.isDispatch = false → f = answer m (.failed e) []

section Diverts

variable {ok : Bus → Prop} {e : Failure} {m m' : Message} {r : Reply} {f : Flow}

theorem Reaches.of_answer {g : Flow} (h : Reaches ok (answer m r []) g) : g = answer m r [] := by
  obtain rfl | ⟨bus, f', bus', -, hs, -⟩ := h.eq_or_step
  · rfl
  · simp [answer, step, work] at hs

/-- Work that replies in place of any but a failure. -/
theorem reaches_reply_iff (hok : ∃ bus, ok bus) (f : Flow) (m' : Message) (r : Reply) :
    Reaches ok (f.andThen [.reply (.proceed false)]) (answer m' r []) ↔
      ∃ r', Reaches ok f (answer m' r' []) ∧ r = r'.diverted := by
  have replies (m : Message) (r' : Reply) (bus : Bus) :
      (answer m r' [.reply (.proceed false)]).step bus = some (answer m r'.diverted [], bus) := by
    cases r' <;> rfl
  constructor
  · intro h
    obtain ⟨f', he, -⟩ | ⟨m₁, r', hend, hbehind⟩ := h.of_andThen (by simp [Pending.isAttempt])
    · cases f' <;> simp [answer, andThen] at he
    · obtain he | ⟨bus, f₁, bus', -, hs, hr⟩ := hbehind.eq_or_step
      · simp [answer] at he
      · rw [replies] at hs
        obtain ⟨rfl, -⟩ := Prod.mk.inj (Option.some.inj hs)
        obtain ⟨rfl, hreply, -⟩ := Flow.busy.inj hr.of_answer
        exact ⟨r', hend, Task.reply.inj hreply⟩
  · rintro ⟨r', hend, rfl⟩
    obtain ⟨bus, hbus⟩ := hok
    exact .move (hend.andThen [.reply (.proceed false)]) hbus (replies m' r' bus)

theorem divert_of_not_isDispatch {k : List Pending} (h : e.isDispatch = false) :
    divert e m k = answer m (.failed e) k := by
  cases e with
  | dispatch code text detail => simp [Failure.isDispatch] at h
  | suspended endpoint code remaining => simp [Failure.isDispatch] at h
  | timeout note => simp [Failure.isDispatch] at h
  | _ => rfl

/-- What a call does with a failure is one of the three treatments. -/
theorem divert_diverts (hok : ∃ bus, ok bus) (e : Failure) (m : Message) :
    Diverts ok e m (divert e m []) := by
  have sorted : e.code? ≠ none → divert e m [] =
      runHandler (described e m) (.proceed false) (.failed e) [] := by
    intro h
    cases e with
    | dispatch code text detail => rfl
    | suspended endpoint code remaining => rfl
    | _ => simp [Failure.code?] at h
  have hchain : (described e m).faultHandlers = m.faultHandlers :=
    congrArg Prod.snd (described_wayBack e m)
  refine ⟨fun code hcode handler rest hhandlers => ?_, fun code hcode hhandlers => ?_, ?_, ?_⟩
  · have hf : divert e m [] =
        .busy (takenOver e m rest) (.mediate handler.sequence) [.reply (.proceed false)] := by
      rw [sorted (by simp [hcode])]
      simp only [runHandler, Message.takeHandler, hchain, hhandlers, takenOver]
    refine ⟨hf, fun m' r => ?_⟩
    rw [hf]
    exact reaches_reply_iff hok (.busy (takenOver e m rest) (.mediate handler.sequence) []) m' r
  · rw [sorted (by simp [hcode])]
    simp only [runHandler, Message.takeHandler, hchain, hhandlers]
  · rintro note rfl
    rfl
  · exact divert_of_not_isDispatch

/-- Where no handler takes the message over, it keeps its way back. -/
theorem Diverts.wayBack (h : Diverts ok e m f) (hnone : e.code? = none ∨ m.faultHandlers = []) :
    ∃ m' r, f = answer m' r [] ∧ m'.wayBack = m.wayBack := by
  cases hcode : e.code? with
  | some code =>
    exact ⟨_, _, h.unhandled code hcode (hnone.resolve_left (by simp [hcode])),
      described_wayBack e m⟩
  | none =>
    cases e with
    | timeout note => exact ⟨_, _, h.discarded note rfl, m.wayBack_setProperty _ _⟩
    | dispatch code text detail => simp [Failure.code?] at hcode
    | suspended endpoint code remaining => simp [Failure.code?] at hcode
    | _ => exact ⟨m, _, h.passed rfl, rfl⟩

end Diverts

end Flow

/-! ## Faults on the response path -/

namespace Call

/-- The failure that a fault on the response path surfaces as, and the message with it. -/
def surfaced (c : Call) (fault : TransportFault) (m : Message) (bus : Bus) :
    Failure × Message × Bus :=
  match m.resume with
  | .error e => (e, m, bus)
  | .ok (_, m) =>
    let m := { m with response := true }
    match c.endpoint with
    | some name =>
      match bus.recordFaultResponse name fault m with
      | (.error e, m, bus) => (e, m, bus)
      | (.ok e, m, bus) => (e, m, bus)
    | none =>
      let (e, m) := implicitFailure c.mode fault m
      (e, m, bus)

/-- What is known of a fault that surfaces: the frame that was waited at is gone, and the
fault is attached. -/
theorem surfaced_spec (c : Call) (fault : TransportFault) (m : Message) (bus : Bus) :
    Flow.faultResponse c fault m bus =
        (Flow.divert (c.surfaced fault m bus).1 (c.surfaced fault m bus).2.1 [],
          (c.surfaced fault m bus).2.2) ∧
      (c.surfaced fault m bus).2.1.wayBack = (m.continuation.tail, m.faultHandlers) ∧
      (c.surfaced fault m bus).1.AttachedTo (c.surfaced fault m bus).2.1 := by
  unfold Flow.faultResponse surfaced Message.resume
  cases hframes : m.continuation with
  | nil => exact ⟨rfl, Message.wayBack_eq.2 ⟨hframes, rfl⟩, Failure.attachedTo_of_isDispatch rfl m⟩
  | cons top rest =>
    cases c.endpoint with
    | none =>
      refine ⟨rfl, ?_, Failure.attachedTo_setError _ _ _ _⟩
      exact Message.wayBack_setError _ _ _ _
    | some endpoint =>
      simp only [Bus.recordFaultResponse]
      cases hconcrete : bus.concrete endpoint with
      | error e =>
        have he := Bus.isDispatch_of_concrete hconcrete
        exact ⟨by rw [Flow.divert_of_not_isDispatch he], rfl, Failure.attachedTo_of_isDispatch he _⟩
      | ok e =>
        refine ⟨rfl, ?_, Endpoint.surface_attachedTo _ _ _ _ _⟩
        show (Endpoint.surface _ _ _ _ _).2.wayBack = _
        rw [Endpoint.surface_message]
        exact Message.wayBack_setError _ _ _ _

/-! ## Every call -/

theorem undergoes_wayBack (w : Continuation × List FaultHandler) :
    Undergoes fun m => m.wayBack = w where
  marked _ h := (Message.wayBack_setProperty _ _ _).trans h
  cleared h := (Message.wayBack_clearCallProperties _).trans h
  described code text detail h := (Message.wayBack_setError _ code text detail).trans h

/-- Whatever happens on the bus meanwhile, a call that fails to send treats the failure by
its kind: at once where it does not get as far as sending, else with the message that
its route leaves for it; and so does a fault on the response path. The frames and the
handlers that are left are those from before the call, unless a handler was entered
during the send: a channel that fails, or is cut off, leaves the message it was given as
it is (`Flow.deliver`). -/
theorem diverts {ok : Bus → Prop} (hok : ∃ bus, ok bus) (c : Call) (m : Message) (bus : Bus) :
    (¬ c.Ready m → ∃ m' e, Flow.call c m [] bus = (Flow.answer m' (.failed e) [], bus) ∧
      e.isDispatch = false ∧ m'.wayBack = m.wayBack) ∧
    (c.Ready m → ∀ sent r e, r.verdict = .error e →
      Flow.Reaches ok (c.sending m bus).1 (Flow.answer sent r []) →
      Flow.Reaches ok (Flow.call c m [] bus).1 (Flow.answer sent r [c.waiting m]) ∧
      ∀ bus', ∃ f, (Flow.answer sent r [c.waiting m]).step bus' = some (f, bus') ∧
        Flow.Diverts ok e (c.left m sent) f ∧
        (Flow.ReachesDirectly ok (c.sending m bus).1 (Flow.answer sent r []) →
          (c.left m sent).wayBack = m.wayBack ∧
            (e.code? = none ∨ m.faultHandlers = [] →
              ∃ m' r', f = Flow.answer m' r' [] ∧ m'.wayBack = m.wayBack))) ∧
    ∀ fault, (c.surfaced fault m bus).2.1.wayBack = (m.continuation.tail, m.faultHandlers) ∧
      Flow.Diverts ok (c.surfaced fault m bus).1 (c.surfaced fault m bus).2.1
        (Flow.faultResponse c fault m bus).1 := by
  refine ⟨call_of_not_ready, fun hready sent r e he hsent => ⟨?_, fun bus' => ?_⟩, fun fault => ?_⟩
  · rw [call_of_ready hready]
    exact hsent.andThen [c.waiting m]
  · refine ⟨Flow.divert e (c.left m sent) [], congrArg some (resume_waiting he),
      Flow.divert_diverts hok e _, fun hdirect => ?_⟩
    have hback : (c.left m sent).wayBack = m.wayBack :=
      left_wayBack hready (undergone_of_send (undergoes_wayBack _) rfl hdirect he)
    refine ⟨hback, fun hnone => ?_⟩
    obtain ⟨m', r', hf, hm'⟩ := (Flow.divert_diverts hok e (c.left m sent)).wayBack
      (hnone.imp_right (congrArg Prod.snd hback).trans)
    exact ⟨m', r', hf, hm'.trans hback⟩
  · obtain ⟨hresponse, hback, -⟩ := surfaced_spec c fault m bus
    rw [hresponse]
    exact ⟨hback, Flow.divert_diverts hok _ _⟩

/-! A call that is handed off to a channel which refuses, on a message with two handlers. -/

namespace Refused

/-- The sequence of a handler, which replies that the flow goes on. -/
def rescue : Mediator := .recorder { id := "rescue", name := "rescue" }

def newest : FaultHandler := ⟨⟨1⟩, "newest", rescue⟩

def oldest : FaultHandler := ⟨⟨2⟩, "oldest", rescue⟩

def message : Message where
  id := ⟨0⟩
  continuation := [Frame.start .named "flow"]
  faultHandlers := [newest, oldest]

def handsOff : Call := { name := "quote", transport := "wire" }

def fault : TransportFault := { code := some 7, message := some "no route" }

def bus : Bus := { transports := Dict.ofList [("wire", { script := [.fault fault] })] }

/-- The message of the failed send. -/
def sent : Message := (handsOff.handedOver message).setError 7 "no route" none

def failure : Failure := .dispatch 7 "no route" none

theorem diverts_refused :
    handsOff.Ready message ∧
      Flow.ReachesDirectly (fun _ => True) (handsOff.sending message bus).1
        (Flow.answer sent (.failed failure) []) ∧
      (handsOff.left message sent).wayBack = message.wayBack ∧
      (Flow.answer sent (.failed failure) [handsOff.waiting message]).step bus =
        some (.busy (Flow.takenOver failure (handsOff.left message sent) [oldest])
          (.mediate rescue) [.reply (.proceed false)], bus) := by
  have hready : handsOff.Ready message := ⟨.inr (by simp [message]), rfl⟩
  have hrefused : (handsOff.sending message bus).1.step bus =
      some (Flow.answer (handsOff.handedOver message) (.refused fault) [.implicit .handOff], bus) :=
    rfl
  have hfailed :
      (Flow.answer (handsOff.handedOver message) (.refused fault) [.implicit .handOff]).step bus =
        some (Flow.answer sent (.failed failure) [], bus) := rfl
  have hdirect : Flow.ReachesDirectly (fun _ => True) (handsOff.sending message bus).1
      (Flow.answer sent (.failed failure) []) :=
    .move (.move .refl trivial hrefused (by simp [Flow.Enters, Flow.answer])) trivial hfailed
      (by simp [Flow.Enters, Flow.answer])
  have hany : ∃ _ : Bus, True := ⟨bus, trivial⟩
  obtain ⟨-, hsends, -⟩ := diverts hany handsOff message bus
  obtain ⟨-, hgoes⟩ := hsends hready sent (.failed failure) failure rfl hdirect.reaches
  obtain ⟨f, hstep, hdiverts, hback⟩ := hgoes bus
  obtain ⟨hleft, -⟩ := hback hdirect
  obtain ⟨hf, -⟩ := hdiverts.handled 7 rfl newest [oldest] (congrArg Prod.snd hleft)
  exact ⟨hready, hdirect, hleft, hstep.trans (by rw [hf]; rfl)⟩

end Refused

end Call

end ServiceBus
