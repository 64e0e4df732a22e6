import ServiceBus.Proofs.Call.Diversion
import ServiceBus.Proofs.Call.Exchange
import ServiceBus.Proofs.Call.Recorded

/-
ServiceBus.Proofs.Call.HandedOff — what a branch is like whose call was handed off.

A branch that stops is asked by the marks on its message whether it waits for a reply
(`Scatter.awaitsReply`). A call that is handed off sets one mark and pushes a frame. It
leaves the marks of an earlier failure or of a discarded reply as they are, and so does
the making of a branch (`Scatter.branch_marred`). `Call.HandsOff` says that the call of a
message has been handed off: the sequences around it stop (`HandsOff.reaches`), and the
branch counts as waiting unless such a mark was there before the call
(`HandsOff.awaitsReply`).
-/
namespace ServiceBus

namespace Message

/-- What tells whether a branch that stopped waits for a reply. -/
def marks (m : Message) : Bool × Bool × Bool × Bool :=
  (m.isTrue Property.continuationCall, m.isTrue Property.sendingFault,
    m.isTrue Property.responseDiscarded, m.continuation.isEmpty)

/-- Whether a message bears the mark of a failed send or of a discarded reply. -/
def isMarred (m : Message) : Bool :=
  m.isTrue Property.sendingFault || m.isTrue Property.responseDiscarded

theorem isTrue_congr {m m' : Message} {name : String} (h : m'.property? name = m.property? name) :
    m'.isTrue name = m.isTrue name := by
  rw [isTrue, isTrue, h]

theorem isMarred_congr {m m' : Message}
    (h : ∀ name ∈ [Property.sendingFault, Property.responseDiscarded],
      m'.property? name = m.property? name) : m'.isMarred = m.isMarred := by
  rw [isMarred, isMarred, isTrue_congr (h _ (by simp)), isTrue_congr (h _ (by simp))]

theorem marks_congr {m m' : Message} (hframes : m'.continuation = m.continuation)
    (h : ∀ name ∈ [Property.continuationCall, Property.sendingFault, Property.responseDiscarded],
      m'.property? name = m.property? name) : m'.marks = m.marks := by
  rw [marks, marks, hframes, isTrue_congr (h _ (by simp)), isTrue_congr (h _ (by simp)),
    isTrue_congr (h _ (by simp))]

end Message

/-- An edit that leaves the marks of any message alone. -/
def Edit.KeepsMarks (e : Edit Mediator) : Prop := ∀ w, e.Lasts (·.marks = w)

/-- Attempts and replies leave the marks alone. -/
theorem outlasts_marks (w : Bool × Bool × Bool × Bool) : Outlasts (·.marks = w) where
  marked {m} name h := by
    have hkept : (m.setProperty Property.lastEndpoint (.text name)).marks = m.marks := by
      refine Message.marks_congr rfl fun mark hmark => ?_
      rw [Message.property?_setProperty, if_neg]
      rintro rfl
      revert hmark
      decide
    exact hkept.trans h
  cleared {m} h := by
    have hkept : m.clearCallProperties.marks = m.marks := by
      refine Message.marks_congr rfl fun mark hmark => ?_
      rw [Message.property?_clearCallProperties, if_neg]
      revert mark
      decide
    exact hkept.trans h
  answered {m} payload h := by
    have hkept : ({ m.setPayload payload with response := true } : Message).marks = m.marks := by
      unfold Message.setPayload
      split <;> rfl
    exact hkept.trans h

namespace Call

/-- A call of the message `m` is handed off, and `sent` is the message that has come back
from the channel. -/
structure HandsOff (c : Call) (m sent : Message) : Prop where
  ready : c.Ready m
  route : c.route m = .handOff
  sent : ∃ bus r flag, bus.Allows Edit.KeepsMarks ∧ r.verdict = .ok flag ∧
    Flow.Reaches (·.Allows Edit.KeepsMarks) (c.sending m bus).1 (Flow.answer sent r [])

variable {c : Call} {m sent : Message}

theorem handedOver_marks (hframes : m.continuation ≠ []) : (c.handedOver m).marks =
    (true, m.isTrue Property.sendingFault, m.isTrue Property.responseDiscarded, false) := by
  obtain ⟨top, rest, hframes⟩ := List.exists_cons_of_ne_nil hframes
  have hback : (c.handedOver m).continuation = top :: top :: rest :=
    (Message.wayBack_eq.1 (handedOver_wayBack (Message.wayBack_eq.2 ⟨hframes, rfl⟩))).1
  have hmark : (c.handedOver m).isTrue Property.continuationCall = true := by
    rw [Message.isTrue, property?_handedOver, if_pos rfl]
  rw [Message.marks, hmark, hback, Message.isTrue_congr (handedOver_keeps (by decide)),
    Message.isTrue_congr (handedOver_keeps (by decide))]
  rfl

namespace HandsOff

/-- The marks from before the call are still there, and there is a frame to resume at. -/
theorem marks (h : c.HandsOff m sent) : sent.marks =
    (true, m.isTrue Property.sendingFault, m.isTrue Property.responseDiscarded, false) := by
  obtain ⟨bus, r, flag, hok, hr, hreaches⟩ := h.sent
  have hframes : m.continuation ≠ [] := h.ready.frame.resolve_left fun hmode => by
    have hroute := h.route
    simp [Call.route, hmode] at hroute
  have hout : c.sending m bus = Flow.send c (c.handedOver m) [] bus := by
    simp only [sending, outgoing, h.route]
  rw [hout] at hreaches
  have hlasts {bus : Bus} (h : bus.Allows Edit.KeepsMarks) (w : Bool × Bool × Bool × Bool) :
      bus.Allows (·.Lasts (·.marks = w)) :=
    fun channel edits hedits e he => h channel edits hedits e he w
  have hends := send_endsIn (outlasts_marks _) c (handedOver_marks (c := c) hframes) (hlasts hok _)
  exact hends sent r (hreaches.mono fun hbus => hlasts hbus _) flag hr

theorem awaitsReply (h : c.HandsOff m sent) : Scatter.awaitsReply sent = !m.isMarred := by
  have hmarks := h.marks
  simp only [Message.marks, Prod.mk.injEq] at hmarks
  obtain ⟨hcall, hfault, hdiscarded, hframes⟩ := hmarks
  rw [Scatter.awaitsReply, hcall, hfault, hdiscarded, hframes, Message.isMarred]
  simp

end HandsOff

end Call

namespace Flow

/-- The sequences around a flow that stops do so, too. -/
theorem reaches_stopped {ok : Bus → Prop} {bus : Bus} (hok : ok bus) (m : Message)
    {rest : List Pending} (hrest : ∀ p ∈ rest, p.isChildren = true) :
    Reaches ok (answer m (.proceed false) rest) (answer m (.proceed false) []) := by
  induction rest with
  | nil => exact .refl
  | cons p rest ih =>
    obtain ⟨hp, hbehind⟩ := List.forall_mem_cons.1 hrest
    cases p with
    | children s position later =>
      have hs : (answer m (.proceed false) (.children s position later :: rest)).step bus =
          some (answer m (.proceed false) rest, bus) := rfl
      exact .of_step hok hs (ih hbehind)
    | _ => simp [Pending.isChildren] at hp

end Flow

namespace Call.HandsOff

variable {c : Call} {m sent : Message}

/-- A flow that enters the call stops with the message that has come back. -/
theorem reaches (h : c.HandsOff m sent) {rest : List Pending}
    (hrest : ∀ p ∈ rest, p.isChildren = true) :
    Flow.Reaches (·.Allows Edit.KeepsMarks) (.busy m (.mediate (.call c)) rest)
      (Flow.answer sent (.proceed false) []) := by
  obtain ⟨bus, r, flag, hok, hr, hreaches⟩ := h.sent
  have hcall : Flow.call c m rest bus =
      (((c.sending m bus).1.andThen [.handOff c]).andThen rest, (c.sending m bus).2) := by
    have hapart : Flow.call c m rest bus = _ := (Flow.goes_call c m bus).andThen [] rest
    rw [hapart, call_of_ready h.ready]
    simp only [waiting, h.route]
  have hs : (Flow.busy m (.mediate (.call c)) rest).step bus = some (Flow.call c m rest bus) := rfl
  rw [hcall] at hs
  have hsent : Flow.Reaches (·.Allows Edit.KeepsMarks)
      (((c.sending m bus).1.andThen [.handOff c]).andThen rest)
      (Flow.answer sent r (.handOff c :: rest)) :=
    (hreaches.andThen [.handOff c]).andThen rest
  have hstop : (Flow.answer sent r (.handOff c :: rest)).step bus =
      some (Flow.answer sent (.proceed false) rest, bus) := by
    simp only [Flow.answer, Flow.step, Flow.work, Flow.resume, Flow.afterHandOff, hr]
  exact (Flow.Reaches.of_step hok hs (.move hsent hok hstop)).trans
    (Flow.reaches_stopped hok sent hrest)

end Call.HandsOff

namespace Scatter

/-- What the making of a branch takes away or sets. -/
def ownProperties : List String :=
  [Property.continuationCall, Property.partialResult, Property.correlation, Property.branchIndex,
    Property.branchAsync]

theorem branch_keeps (s : Scatter) (correlation : String) (index : Nat) (m : Message) (bus : Bus)
    {name : String} (h : name ∉ ownProperties) :
    (s.branch correlation index m bus).1.property? name = m.property? name := by
  simp only [ownProperties, List.mem_cons, List.not_mem_nil, or_false, not_or] at h
  obtain ⟨hcall, hpartial, hcorrelation, hindex, hasync⟩ := h
  have hkept : (s.branch correlation index m bus).1.property? name =
      ((((((m.fork bus.freshId.1).removeProperty Property.continuationCall).removeProperty
        Property.partialResult).setProperty Property.correlation (.text correlation)).setProperty
        Property.branchIndex (.int index)).setProperty Property.branchAsync
        (.bool s.config.parallel)).property? name := rfl
  rw [hkept]
  simp only [Message.property?_setProperty, Message.property?_removeProperty, if_neg hcall,
    if_neg hpartial, if_neg hcorrelation, if_neg hindex, if_neg hasync]
  rfl

/-- The message of a branch bears the marks of the message of its run. -/
theorem branch_marred (s : Scatter) (correlation : String) (index : Nat) (m : Message)
    (bus : Bus) : (s.branch correlation index m bus).1.isMarred = m.isMarred := by
  refine Message.isMarred_congr fun name hname => s.branch_keeps correlation index m bus ?_
  revert name
  decide

end Scatter

end ServiceBus
