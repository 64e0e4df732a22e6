import Mathlib.Data.List.Iterate
import ServiceBus.Proofs.Call.BothWays
import ServiceBus.Proofs.Call.Diversion
import ServiceBus.Proofs.Dispatch.Given

/-
ServiceBus.Proofs.Call.Resent — which message an endpoint sends again.

Between two attempts an endpoint drops the bookkeeping of the call from the message and
marks it as its own again (`Dispatch.resend`). To do so once more makes no difference, so
all attempts after the first have one and the same message, as long as the channel leaves a
message that it does not deliver alone (`Dispatch.Resends`).

Whether this is the message of the first attempt depends on the call. One that is handed off
has dropped all of its bookkeeping before it sends. One that waits has put its own mark on
the message, and that mark is dropped with the rest, so only the first attempt carries it
(`Call.resends`).
-/
namespace ServiceBus

/-- Messages that differ from one and the same message in their properties alone are equal if
these answer every look-up alike. -/
theorem Message.ext_property? {m m' : Message} (base : Message)
    (h : m = { base with properties := m.properties })
    (h' : m' = { base with properties := m'.properties })
    (hproperty : ∀ name, m.property? name = m'.property? name) : m = m' := by
  have hsame : m.properties = m'.properties := Dict.ext_get? hproperty
  rw [h, hsame, ← h']

/-! ## The attempts of a send -/

namespace Dispatch

/-- The message of the next attempt, after one that has left the message alone. -/
def resend (d : Dispatch) (m : Message) : Message := Flow.marked d m.clearCallProperties

variable {d : Dispatch} {m first : Message} {given : List Message}

theorem property?_resend (name : String) :
    (d.resend m).property? name =
      if name = Property.lastEndpoint then some (.text d.endpoint)
      else if name ∈ Property.perCall then none else m.property? name := by
  rw [resend, Flow.marked, Message.property?_setProperty, Message.property?_clearCallProperties]

theorem resend_resend : d.resend (d.resend m) = d.resend m := by
  refine Message.ext_property? (d.resend m) rfl rfl fun name => ?_
  rw [property?_resend, property?_resend]
  split
  · rfl
  · split <;> rfl

/-- The messages of the attempts: the second one is sent again and again. -/
theorem iterate_resend (n : Nat) :
    List.iterate d.resend first (n + 1) = first :: List.replicate n (d.resend first) := by
  refine congrArg (first :: ·) (List.eq_replicate_iff.2 ⟨List.length_iterate .., ?_⟩)
  intro sent hsent
  obtain ⟨i, -, rfl⟩ := List.mem_iterate.1 hsent
  exact Function.iterate_fixed resend_resend i

/-- The channel works on an attempt, or the next one is awaited. -/
structure Waits (d : Dispatch) (task : Task) (k : List Pending) : Prop where
  trying : Trying task k
  ours : k.getLast?.bind Pending.dispatch? = some d

/-- Where a send stands by the time its channel was given certain messages. -/
inductive Resends (d : Dispatch) (first : Message) : List Message → Flow → Prop where
  | attempting (n : Nat) : Resends d first (List.iterate d.resend first n)
      (.busy (d.resend^[n] first) (.attempt d) [])
  | waiting (n : Nat) {task : Task} {k : List Pending} (h : d.Waits task k) :
      Resends d first (List.iterate d.resend first (n + 1)) (.busy (d.resend^[n] first) task k)
  | succeeding (n : Nat) {f : Flow} (h : Sent (fun _ => False) f) :
      Resends d first (List.iterate d.resend first n) f
  | failed (n : Nat) (m : Message) (e : Failure) :
      Resends d first (List.iterate d.resend first n) (Flow.answer m (.failed e) [])

section Moves

variable {f f' : Flow} {bus bus' : Bus} {n : Nat} {started : Time} {deadline : Option Timer}

theorem Resends.deliver (outcome : Outcome) (edits : List (Edit Mediator)) :
    Resends d first (List.iterate d.resend first (n + 1))
      (Flow.deliver outcome edits (d.resend^[n] first) [.attempt d started deadline] bus).1 := by
  cases outcome with
  | success => exact .succeeding _ (.succeeding _ (.editing edits _ rfl))
  | respond payload => exact .succeeding _ (.succeeding _ (.editing edits _ rfl))
  | fault fault => exact .waiting n ⟨.refused fault rfl, rfl⟩
  | hang => exact .waiting n ⟨.hanging rfl, rfl⟩
  | after delay rest => exact .waiting n ⟨.delaying _ _ _ rfl, rfl⟩

theorem Resends.again : Resends d first (List.iterate d.resend first (n + 1))
    (Flow.again d (d.resend^[n] first) []) := by
  have hnext : d.resend^[n + 1] first = d.resend (d.resend^[n] first) :=
    Function.iterate_succ_apply' ..
  have hagain : Flow.again d (d.resend^[n] first) [] =
      .busy (d.resend^[n + 1] first) (.attempt d) [] := by
    rw [hnext]
    rfl
  exact hagain ▸ .attempting (n + 1)

/-- A failed attempt is followed by the next one, at once or later, or ends the send. -/
theorem Resends.undelivered (fault : TransportFault) :
    Resends d first (List.iterate d.resend first (n + 1))
      (Flow.undelivered d started fault (d.resend^[n] first) [] bus).1 := by
  unfold Flow.undelivered
  simp only
  split
  · exact .failed _ _ _
  · split
    · split
      · exact again
      · exact .waiting n ⟨.pausing _ d, rfl⟩
    · exact .failed _ _ _

/-- While its channel is at work, a send keeps the message of its attempt. -/
theorem Waits.step {task : Task} {k : List Pending} (h : d.Waits task k)
    (hs : (Flow.busy (d.resend^[n] first) task k).step bus = some (f', bus')) :
    Resends d first (List.iterate d.resend first (n + 1)) f' := by
  obtain ⟨htrying, hours⟩ := h
  have attempt {p : Pending} (hp : p.isSend = true) (hours : p.dispatch? = some d) :
      ∃ started deadline, p = .attempt d started deadline := by
    cases p with
    | attempt d' started deadline =>
      obtain rfl := Option.some.inj hours
      exact ⟨started, deadline, rfl⟩
    | implicit mode => simp [Pending.dispatch?] at hours
    | _ => simp [Pending.isSend] at hp
  have cut {started : Time} {deadline : Option Timer} {f : Flow}
      (h : Flow.cut? (d.resend^[n] first) bus [.attempt d started deadline] = some f) :
      Resends d first (List.iterate d.resend first (n + 1)) f := by
    cases deadline with
    | none => simp [Flow.cut?] at h
    | some t =>
      simp only [Flow.cut?] at h
      split at h
      · obtain rfl := Option.some.inj h
        exact .waiting n ⟨.refused _ rfl, rfl⟩
      · simp at h
  cases htrying with
  | attempting d' => simp at hours
  | pausing t d' =>
    obtain rfl : d' = d := Option.some.inj hours
    simp only [Flow.step, Flow.work, Flow.cut?, Option.map_none] at hs
    split at hs
    · exact Flow.of_move (x := (_, _)) (.waiting n ⟨.paused _ d', rfl⟩) hs
    · simp at hs
  | paused r d' =>
    obtain rfl : d' = d := Option.some.inj hours
    exact Flow.of_move (x := (_, _)) Resends.again hs
  | transmitting outcome edits hp =>
    obtain ⟨started, deadline, rfl⟩ := attempt hp hours
    exact Flow.of_move (.deliver outcome edits) hs
  | delaying t outcome edits hp =>
    obtain ⟨started, deadline, rfl⟩ := attempt hp hours
    simp only [Flow.step, Flow.work] at hs
    split at hs
    · exact Flow.of_move (x := (_, _)) (.waiting n ⟨.delayed _ _ _ rfl, rfl⟩) hs
    · exact cut (Flow.cut_of_move hs).1
  | delayed r outcome edits hp =>
    obtain ⟨started, deadline, rfl⟩ := attempt hp hours
    exact Flow.of_move (x := (_, _)) (.waiting n ⟨.transmitting _ _ rfl, rfl⟩) hs
  | hanging hp =>
    obtain ⟨started, deadline, rfl⟩ := attempt hp hours
    exact cut (Flow.cut_of_move hs).1
  | refused fault hp =>
    obtain ⟨started, deadline, rfl⟩ := attempt hp hours
    exact Flow.of_move (Resends.undelivered fault) hs

/-- Every move of a send that enters no mediator gives the message of the next attempt to the
channel, or nothing. -/
theorem Resends.step {new : List SentMessage} (h : Resends d first given f)
    (hs : f.step bus = some (f', bus')) (hdirect : ¬ f'.Enters)
    (hnew : (bus'.transport d.channel).sent = new ++ (bus.transport d.channel).sent) :
    Resends d first (given ++ new.reverse.map SentMessage.message) f' := by
  have silent (htransports : bus'.transports = bus.transports) :
      given ++ new.reverse.map SentMessage.message = given := by
    rw [Flow.new_of_transports htransports hnew, List.append_nil]
  cases h with
  | attempting n =>
    obtain ⟨hnone, e, rfl⟩ | ⟨hgiven, outcome, edits, deadline, rfl⟩ := Flow.new_of_attempt hs hnew
    · rw [hnone, List.append_nil]
      exact .failed n _ e
    · have hiterate : List.iterate d.resend first n ++ [d.resend^[n] first] =
          List.iterate d.resend first (n + 1) := (List.iterate_add d.resend first n 1).symm
      rw [hgiven, hiterate]
      exact .waiting n ⟨.transmitting _ _ rfl, rfl⟩
  | waiting n h =>
    have htransports : bus'.transports = bus.transports := by
      refine Flow.transports_of_work hs ?_ ?_
      · rintro d' rfl
        obtain ⟨htrying, hours⟩ := h
        cases htrying
        simp at hours
      · rintro c rfl
        nomatch h.trying
    rw [silent htransports]
    exact h.step hs
  | succeeding n h =>
    cases h with
    | trying hm => exact hm.elim
    | @succeeding m task k h =>
      have htransports : bus'.transports = bus.transports := by
        refine Flow.transports_of_work hs ?_ ?_
        · rintro d' rfl
          nomatch h
        · rintro c rfl
          nomatch h
      rw [silent htransports]
      obtain hsucceeding | ⟨henters, -⟩ := Sent.step_succeeding (P := fun _ => False) h hs
      · exact .succeeding n hsucceeding
      · exact absurd henters hdirect
    | handling hfalse => exact (hfalse first).elim
    | failed hm => exact hm.elim
    | succeeded m => simp [Flow.answer, Flow.step, Flow.work] at hs
  | failed n m e => simp [Flow.answer, Flow.step, Flow.work] at hs

end Moves

/-- What a channel is given on a way of the send that enters no mediator. -/
theorem Resends.gives {ok : Bus → Prop} {before : List Message} {f g : Flow}
    (h : Resends d first before f)
    (hg : Flow.Gives ok (fun f => ¬ f.Enters) d.channel f given g) :
    Resends d first (before ++ given) g := by
  induction hg with
  | refl => rwa [List.append_nil]
  | move _ _ hs hdirect hnew ih =>
    rw [← List.append_assoc]
    exact ih.step hs hdirect hnew

theorem Resends.given_eq {f : Flow} (h : Resends d first given f) :
    ∃ n, given = List.iterate d.resend first n := by
  cases h with
  | attempting n => exact ⟨n, rfl⟩
  | waiting n => exact ⟨n + 1, rfl⟩
  | succeeding n => exact ⟨n, rfl⟩
  | failed n => exact ⟨n, rfl⟩

end Dispatch

/-! ## The attempts of a call -/

namespace Flow

instance : DecidablePred Enters
  | .busy m (.mediate x) k => .isTrue ⟨m, x, k, rfl⟩
  | .busy _ (.edit _ _) _ => .isFalse (by simp [Enters])
  | .busy _ (.attempt _) _ => .isFalse (by simp [Enters])
  | .busy _ (.transmit _ _) _ => .isFalse (by simp [Enters])
  | .busy _ (.sleep _) _ => .isFalse (by simp [Enters])
  | .busy _ .hang _ => .isFalse (by simp [Enters])
  | .busy _ (.reply _) _ => .isFalse (by simp [Enters])
  | .gathering .. => .isFalse (by simp [Enters])
  | .branching .. => .isFalse (by simp [Enters])

variable {c : Call} {m sent : Message} {bus : Bus}

theorem divert_enters_or_answers (e : Failure) (m : Message) :
    (divert e m []).Enters ∨ ∃ m' r, divert e m [] = answer m' r [] := by
  have handed (m : Message) (handled unhandled : Reply) :
      (runHandler m handled unhandled []).Enters ∨
        ∃ m' r, runHandler m handled unhandled [] = answer m' r [] := by
    unfold runHandler
    split
    · exact .inl ⟨_, _, _, rfl⟩
    · exact .inr ⟨_, _, rfl⟩
  unfold divert
  split
  · exact .inr ⟨_, _, rfl⟩
  · split
    · exact .inr ⟨_, _, rfl⟩
    · exact handed _ _ _

/-- Behind its send a call enters a handler or comes to its end, and the bus stays. -/
theorem resume_waiting_enters_or_answers (r : Reply) :
    ∃ f, resume r sent (c.waiting m) [] bus = (f, bus) ∧
      (f.Enters ∨ ∃ m' r', f = answer m' r' []) := by
  cases hr : r.verdict with
  | error e => exact ⟨_, Call.resume_waiting hr, divert_enters_or_answers _ _⟩
  | ok flag =>
    unfold Call.waiting
    cases c.route m with
    | blocking =>
      simp only [resume, afterBlockingCall, hr]
      split
      · exact ⟨_, rfl, .inr ⟨_, _, rfl⟩⟩
      · split
        · exact ⟨_, rfl, .inr ⟨_, _, rfl⟩⟩
        · exact ⟨_, rfl, .inr ⟨_, _, rfl⟩⟩
    | handOff =>
      simp only [resume, afterHandOff, hr]
      exact ⟨_, rfl, .inr ⟨_, _, rfl⟩⟩
    | outOnly =>
      simp only [resume, afterOutOnly, hr]
      exact ⟨_, rfl, .inr ⟨_, _, rfl⟩⟩

/-- Behind its send a call gives nothing away, unless it enters a handler. -/
theorem given_behind {ok : Bus → Prop} {channel : String} {r : Reply} {given : List Message}
    {g : Flow} (h : Gives ok (fun f => ¬ f.Enters) channel (answer sent r [c.waiting m]) given g) :
    given = [] := by
  obtain ⟨-, hnone⟩ | ⟨bus, f, bus', new, rest, -, hs, hdirect, hnew, rfl, hrest⟩ := h.eq_or_step
  · exact hnone
  · obtain ⟨f', hresume, hf'⟩ : ∃ f', resume r sent (c.waiting m) [] bus = (f', bus) ∧ _ :=
      resume_waiting_enters_or_answers r
    obtain ⟨rfl, rfl⟩ := Prod.mk.inj (Option.some.inj (hs.symm.trans (congrArg some hresume)))
    rw [new_of_transports rfl hnew]
    obtain ⟨m', r', rfl⟩ := hf'.resolve_left hdirect
    exact hrest.of_answer.2

end Flow

namespace Call

variable {c : Call} {m : Message} {bus : Bus}

/-- The message that the attempts after the first have, if the first one had the given one. -/
def repeated (c : Call) (first : Message) : Message :=
  if c.blocking then first.removeProperty Property.blockingSender else first

/-- A call leaves no bookkeeping of single calls on what it sends, but for its mark. -/
theorem outgoing_property?_of_perCall {name : String} (h : name ∈ Property.perCall)
    (hmark : c.blocking = true → name ≠ Property.blockingSender) :
    (c.outgoing m bus).1.property? name = none := by
  have hhandler : name ≠ Property.lastFaultHandler := by
    rintro rfl
    exact absurd h (by decide)
  have hcontinuation : name ≠ Property.continuationCall := by
    rintro rfl
    exact absurd h (by decide)
  by_cases hmode : c.blocking = true
  · have hdropped : name ∈ Property.perBlockingCall := by
      have hmark := hmark hmode
      simp only [Property.perCall, List.mem_cons, List.not_mem_nil, or_false] at h
      simp only [Property.perBlockingCall, List.mem_cons, List.not_mem_nil, or_false]
      tauto
    simp only [outgoing, route, hmode, if_true]
    rw [asked_property?, if_neg hhandler, if_pos hdropped]
  · have hpushed : (c.outgoing m bus).1.property? name = (c.handedOver m).property? name := by
      unfold outgoing route
      rw [if_neg hmode]
      cases m.isOutOnly <;> rfl
    have hprepared : (c.prepared m).property? name = none :=
      (Message.property?_clearCallProperties ..).trans (if_pos h)
    rw [hpushed, property?_handedOver, if_neg hcontinuation, hprepared]

theorem outgoing_mark (hmode : c.blocking = true) :
    (c.outgoing m bus).1.property? Property.blockingSender = some (.text c.name) := by
  simp only [outgoing, route, hmode, if_true]
  rw [asked_property?, if_neg (by decide), if_neg (by decide), if_pos rfl]

theorem property?_repeated (first : Message) (name : String) :
    (c.repeated first).property? name =
      if c.blocking = true ∧ name = Property.blockingSender then none
      else first.property? name := by
  unfold repeated
  split
  · next hmode => simp only [Message.property?_removeProperty, hmode, true_and]
  · next hmode => rw [if_neg fun h => hmode h.1]

/-- What an endpoint makes of the message of a call between two attempts. -/
theorem resend_marked (d : Dispatch) :
    d.resend (Flow.marked d (c.outgoing m bus).1) =
      c.repeated (Flow.marked d (c.outgoing m bus).1) := by
  refine Message.ext_property? (c.outgoing m bus).1 rfl ?_ fun name => ?_
  · unfold repeated
    split <;> rfl
  · rw [Dispatch.property?_resend, property?_repeated, Flow.marked, Message.property?_setProperty]
    by_cases hlast : name = Property.lastEndpoint
    · rw [if_pos hlast, if_neg fun h => absurd (hlast.symm.trans h.2) (by decide), if_pos hlast]
    · rw [if_neg hlast, if_neg hlast]
      by_cases hmark : c.blocking = true ∧ name = Property.blockingSender
      · rw [if_pos hmark, if_pos (by rw [hmark.2]; decide)]
      · rw [if_neg hmark]
        split
        · next h =>
          exact (outgoing_property?_of_perCall h fun hmode hname => hmark ⟨hmode, hname⟩).symm
        · rfl

/-- A call with an endpoint makes its first attempt with the message that it has for it, or
fails before. -/
theorem sending_cases {name : String} (hendpoint : c.endpoint = some name) (m : Message)
    (bus : Bus) :
    (∃ d e, bus.concrete name = .ok e ∧ d.channel = c.transport ∧ d.endpoint = e.name ∧
      (c.sending m bus).1 = .busy (Flow.marked d (c.outgoing m bus).1) (.attempt d) []) ∨
    ∃ e, (c.sending m bus).1 = Flow.answer (c.outgoing m bus).1 (.failed e) [] := by
  have hregistry : (c.outgoing m bus).2.concrete name = bus.concrete name := by
    unfold outgoing
    cases c.route m <;> rfl
  unfold sending
  simp only [Flow.send, hendpoint, Flow.dispatch, hregistry]
  cases bus.concrete name with
  | error e => exact .inr ⟨e, rfl⟩
  | ok e =>
    exact .inl ⟨⟨e.name, e.definition.address, e.suspendedCode, c.transport, c.mode, _, _⟩, e,
      rfl, rfl, rfl, rfl⟩

/-- What a call itself gives to its channel: all that it has, if there is no endpoint. -/
theorem new_of_call (hready : c.Ready m) {f : Flow} {bus' : Bus} {new : List SentMessage}
    (hs : (Flow.busy m (.mediate (.call c)) []).step bus = some (f, bus'))
    (hnew : (bus'.transport c.transport).sent = new ++ (bus.transport c.transport).sent) :
    f = (c.sending m bus).1.andThen [c.waiting m] ∧
      new.reverse.map SentMessage.message =
        if c.endpoint = none then [(c.outgoing m bus).1] else [] := by
  have hcall : some (Flow.call c m [] bus) = some (f, bus') := hs
  rw [call_of_ready hready] at hcall
  obtain ⟨rfl, rfl⟩ := Prod.mk.inj (Option.some.inj hcall)
  refine ⟨rfl, ?_⟩
  split
  · next hendpoint =>
    have hsending : c.sending m bus = Flow.transmit c.transport none (c.outgoing m bus).1
        [.implicit c.mode] (c.outgoing m bus).2 := by
      simp only [sending, Flow.send, hendpoint]
    have hsame : (c.outgoing m bus).2.transports = bus.transports := by
      unfold outgoing
      cases c.route m <;> rfl
    have hsent := Flow.sent_transmit c.transport none (c.outgoing m bus).1 [.implicit c.mode]
      (c.outgoing m bus).2 c.transport
    rw [← hsending, if_pos rfl, Bus.transport_congr hsame] at hsent
    obtain rfl := List.append_cancel_right (hnew.symm.trans hsent)
    rfl
  · next hendpoint =>
    have htransports := Flow.transports_of_work hs (by simp) fun d hd => by
      obtain rfl := Mediator.call.inj (Task.mediate.inj hd)
      exact hendpoint
    exact Flow.new_of_transports htransports hnew

/-- On its way, a call gives its channel what its send gives. -/
theorem gives_of_call {ok : Bus → Prop} {name : String} {given : List Message} {g : Flow}
    (hendpoint : c.endpoint = some name)
    (h : Flow.Gives ok (fun f => ¬ f.Enters) c.transport (.busy m (.mediate (.call c)) []) given
      g) :
    given = [] ∨ ∃ bus g', ok bus ∧ c.Ready m ∧
      Flow.Gives ok (fun f => ¬ f.Enters) c.transport (c.sending m bus).1 given g' := by
  obtain ⟨-, hnone⟩ | ⟨bus, f, bus', new, rest, hok, hs, -, hnew, rfl, hrest⟩ := h.eq_or_step
  · exact .inl hnone
  · by_cases hready : c.Ready m
    · obtain ⟨rfl, hnone⟩ := new_of_call hready hs hnew
      rw [hendpoint, if_neg (by simp)] at hnone
      rw [hnone]
      have hdirect (f : Flow) (hf : ¬ (f.andThen [c.waiting m]).Enters) : ¬ f.Enters := by
        rintro ⟨m', x, k, rfl⟩
        exact hf ⟨m', x, _, rfl⟩
      right
      obtain ⟨g', -, hsent⟩ | ⟨sent, r, before, behind, rfl, hsent, hbehind⟩ :=
        hrest.of_andThen waiting_isAttempt hdirect
      · exact ⟨bus, g', hok, hready, hsent⟩
      · rw [Flow.given_behind hbehind, List.append_nil]
        exact ⟨bus, _, hok, hready, hsent⟩
    · left
      obtain ⟨m', e, hfailed, -⟩ : ∃ m' e, Flow.call c m [] bus =
          (Flow.answer m' (.failed e) [], bus) ∧ _ := call_of_not_ready hready
      obtain ⟨rfl, rfl⟩ := Prod.mk.inj (Option.some.inj (hs.symm.trans (congrArg some hfailed)))
      rw [Flow.new_of_transports rfl hnew]
      exact hrest.of_answer.2

/-- All attempts of a call with an endpoint send the message that it has for the first one,
except that the mark of a call that waits is on the first one alone; so all attempts are
alike just where the call does not wait. -/
theorem resends {ok : Bus → Prop} {name : String} {given : List Message} {g : Flow}
    (hendpoint : c.endpoint = some name)
    (h : Flow.Gives ok (fun f => ¬ f.Enters) c.transport (.busy m (.mediate (.call c)) []) given
      g) :
    given = [] ∨ ∃ bus e first n, ok bus ∧ c.Ready m ∧ bus.concrete name = .ok e ∧
      first = (c.outgoing m bus).1.setProperty Property.lastEndpoint (.text e.name) ∧
      given = first :: List.replicate n (c.repeated first) ∧
      (c.repeated first = first ↔ c.blocking = false) := by
  obtain hnone | ⟨bus, g', hok, hready, hsent⟩ := gives_of_call hendpoint h
  · exact .inl hnone
  · obtain ⟨d, e, he, hchannel, hname, hattempt⟩ | ⟨e, hfailed⟩ := sending_cases hendpoint m bus
    · rw [hattempt, ← hchannel] at hsent
      have hbegun : d.Resends (Flow.marked d (c.outgoing m bus).1) []
          (.busy (Flow.marked d (c.outgoing m bus).1) (.attempt d) []) := .attempting 0
      obtain ⟨n, hgiven⟩ := (hbegun.gives hsent).given_eq
      rw [List.nil_append] at hgiven
      cases n with
      | zero => exact .inl hgiven
      | succ n =>
        rw [Dispatch.iterate_resend, resend_marked, Flow.marked, hname] at hgiven
        refine .inr ⟨bus, e, _, n, hok, hready, he, rfl, hgiven, ?_⟩
        cases hmode : c.blocking with
        | false => simp [repeated, hmode]
        | true =>
          refine iff_of_false (fun hsame => ?_) (by simp)
          have hmark := congrArg (Message.property? · Property.blockingSender) hsame
          simp only [property?_repeated, hmode, Message.property?_setProperty] at hmark
          rw [if_pos ⟨trivial, trivial⟩, if_neg (by decide), outgoing_mark hmode] at hmark
          simp at hmark
    · rw [hfailed] at hsent
      exact .inl hsent.of_answer.2

end Call

/-! A channel that refuses once, behind an endpoint that allows one retry. -/

namespace Insisting

def quote : Endpoint := ⟨"quote", .address "http://quote", {}, {}, false⟩

def wire : Transport where
  script := [.fault { code := some Code.connectionFailed }]

def bus : Bus where
  endpoints := Dict.ofList [("quote", quote)]
  defaults := { retries := 1 }
  transports := Dict.ofList [("wire", wire)]

def message : Message where
  id := ⟨0⟩
  continuation := [Frame.start .named "flow"]

def handsOff : Call := { name := "notify", transport := "wire", endpoint := some "quote" }

def waits : Call where
  name := "ask"
  transport := "wire"
  endpoint := some "quote"
  blocking := true

/-- The call of the message after some moves. -/
def stage (c : Call) (n : Nat) : Flow × Bus :=
  (Flow.busy message (.mediate (.call c)) []).run n bus

/-- What the channel was given by then. -/
def given (c : Call) (n : Nat) : List Message :=
  ((stage c n).2.transport "wire").calls.map SentMessage.message

/-- Both attempts are made within five moves, none of which enters a mediator. -/
theorem gives {c : Call} (hdirect : ∀ i < 5, ¬ (stage c (i + 1)).1.Enters) :
    Flow.Gives (fun _ => True) (fun f => ¬ f.Enters) "wire"
      (.busy message (.mediate (.call c)) []) (given c 5) (stage c 5).1 := by
  obtain ⟨given, hcourse, hgiven⟩ : ∃ given,
      Flow.Gives (fun _ => True) (fun f => ¬ f.Enters) "wire"
        (.busy message (.mediate (.call c)) []) given (stage c 5).1 ∧
      Insisting.given c 5 = [] ++ given :=
    Flow.Gives.run 5 (fun _ _ => trivial) hdirect
  rwa [hgiven]

theorem resends_handsOff :
    handsOff.endpoint = some "quote" ∧
      ∃ first second g, Flow.Gives (fun _ => True) (fun f => ¬ f.Enters) "wire"
        (.busy message (.mediate (.call handsOff)) []) [first, second] g ∧ second = first := by
  have hdirect : ∀ i < 5, ¬ (stage handsOff (i + 1)).1.Enters := by decide
  obtain ⟨first, second, htwo⟩ : ∃ first second, given handsOff 5 = [first, second] :=
    ⟨_, _, rfl⟩
  have hcourse := gives hdirect
  rw [htwo] at hcourse
  refine ⟨rfl, first, second, _, hcourse, ?_⟩
  obtain hnone | ⟨_, _, sent, n, -, -, -, -, hsent, halike⟩ :=
    Call.resends (c := handsOff) rfl hcourse
  · simp at hnone
  · rw [halike.2 rfl] at hsent
    obtain ⟨rfl, hrest⟩ := List.cons.inj hsent
    exact List.eq_of_mem_replicate (hrest ▸ List.mem_singleton_self second)

theorem mark_lost :
    ∃ g, Flow.Gives (fun _ => True) (fun f => ¬ f.Enters) "wire"
        (.busy message (.mediate (.call waits)) []) (given waits 5) g ∧
      (given waits 5).map (·.property? Property.blockingSender) = [some (.text "ask"), none] := by
  have hdirect : ∀ i < 5, ¬ (stage waits (i + 1)).1.Enters := by decide
  exact ⟨_, gives hdirect, rfl⟩

end Insisting

end ServiceBus
