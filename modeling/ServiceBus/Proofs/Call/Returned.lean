import ServiceBus.Proofs.Call.BothWays
import ServiceBus.Proofs.Call.Diversion

/-
ServiceBus.Proofs.Call.Returned — what a successful call leaves of its message.

A call that waits succeeds when it ends with the reply that mediation goes on; whatever
becomes of a failed send, it never ends like that (`Flow.Diverts.endsIn`). A call that does
not wait succeeds when its reply is taken on the response path. In both cases the message
that came back still has what the call recorded (`Call.Kept`), and it was rehomed by the
envelope from before the call. `Call.returning` makes this a rule: what holds of every such
message holds whenever the call succeeds.
-/
namespace ServiceBus

namespace Flow

/-- The treatment of a failure never ends as if the call had succeeded. -/
theorem Diverts.endsIn {ok : Bus → Prop} {e : Failure} {m : Message} {f : Flow}
    (h : Diverts ok e m f) : EndsIn ok (fun _ r => r.verdict ≠ .ok true) f := by
  have stopped {m' : Message} {e : Failure} :
      EndsIn ok (fun _ r => r.verdict ≠ .ok true) (answer m' (.failed e) []) :=
    .answer (by simp [Reply.verdict])
  cases hcode : e.code? with
  | some code =>
    cases hhandlers : m.faultHandlers with
    | nil => exact h.unhandled code hcode hhandlers ▸ stopped
    | cons handler rest =>
      intro m' r hend
      obtain ⟨r', -, rfl⟩ := ((h.handled code hcode handler rest hhandlers).2 m' r).1 hend
      cases r' <;> simp [Reply.diverted, Reply.verdict]
  | none =>
    cases e with
    | timeout note => exact h.discarded note rfl ▸ .answer (by simp [Reply.verdict])
    | dispatch code text detail => simp [Failure.code?] at hcode
    | suspended endpoint code remaining => simp [Failure.code?] at hcode
    | _ => exact h.passed rfl ▸ stopped

end Flow

namespace Call

variable {c : Call} {m : Message} {Q : Message → Message → Prop}

/-- A message that still has what a call of `m` has recorded for the way back. -/
def Kept (c : Call) (m back : Message) : Prop :=
  ∀ name, Lasting name → back.property? name = (Flow.noteHandler (c.recorded m)).property? name

theorem kept_of_asked {arrived : Message} (h : Brings (c.asked m) arrived) : c.Kept m arrived :=
  fun name hname => (h.property name hname.1).trans (asked_property?_of_lasting name hname.1)

theorem kept_of_outgoing (hmode : c.blocking = false) {bus : Bus} {arrived : Message}
    (h : Brings (c.outgoing m bus).1 arrived) : c.Kept m (resumed arrived) := by
  intro name hname
  have hout : (c.outgoing m bus).1.property? name = (c.handedOver m).property? name := by
    unfold outgoing
    cases hroute : c.route m with
    | blocking => cases hwanted : m.isOutOnly <;> simp [route, hmode, hwanted] at hroute
    | handOff => rfl
    | outOnly => rfl
  rw [resumed_property? name hname, h.property name hname.1, hout, handedOver_property? name hname]

/-- The response path takes a reply by the envelope that it reads from the message. -/
theorem inbound_of_respond {arrived after : Message} {bus bus' : Bus} {frame : Frame}
    (h : c.respond arrived bus = (.ok frame, after, bus')) :
    after = c.rehoming.inbound (resumed arrived) (Envelope.ofProperties (resumed arrived)) := by
  unfold respond Message.resume at h
  cases hframes : arrived.continuation with
  | nil => simp [hframes] at h
  | cons top rest =>
    simp only [hframes] at h
    split at h
    · simp at h
    · rw [resumed, hframes, List.tail_cons]
      exact (Prod.mk.inj (Prod.mk.inj h).2).1.symm

/-- Whenever a call of `m` succeeds over channels that do nothing to a message but reply, `Q`
holds of the message that came back and of the one that the call leaves. -/
structure Returning (c : Call) (m : Message) (Q : Message → Message → Prop) : Prop where
  waited : c.blocking = true → ∀ after r,
    Flow.Reaches (·.Allows Edit.OnlyReply) (.busy m (.mediate (.call c)) [])
      (Flow.answer after r []) → r.verdict = .ok true →
    ∃ bus arrived r', bus.Allows Edit.OnlyReply ∧
      Flow.Reaches (·.Allows Edit.OnlyReply) (c.sending m bus).1 (Flow.answer arrived r' []) ∧
      Q arrived after
  responded : c.blocking = false → c.Ready m → ∀ sending arrived,
    Brings (c.outgoing m sending).1 arrived → ∀ bus frame after bus',
      c.respond arrived bus = (.ok frame, after, bus') → Q arrived after

/-- A call whose send has failed does not end as if it had succeeded. -/
theorem verdict_of_failed {ok : Bus → Prop} {sent after : Message} {r r' : Reply} {e : Failure}
    (he : r'.verdict = .error e)
    (h : Flow.Reaches ok (Flow.answer sent r' [c.waiting m]) (Flow.answer after r [])) :
    r.verdict ≠ .ok true := by
  obtain hnone | ⟨bus, f, bus', hok, hs, hrest⟩ := h.eq_or_step
  · simp [Flow.answer] at hnone
  · obtain hs : some (Flow.resume r' sent (c.waiting m) [] bus) = some (f, bus') := hs
    rw [resume_waiting he] at hs
    obtain ⟨rfl, rfl⟩ := Prod.mk.inj (Option.some.inj hs)
    exact (Flow.divert_diverts ⟨bus, hok⟩ e _).endsIn after r hrest

/-- Where a call that waits has come to its end with success, its send has brought a reply,
and this was rehomed. -/
theorem inbound_of_waited (hmode : c.blocking = true) {after : Message} {r : Reply}
    (hend : Flow.Reaches (·.Allows Edit.OnlyReply) (.busy m (.mediate (.call c)) [])
      (Flow.answer after r [])) (hr : r.verdict = .ok true) :
    ∃ bus arrived r', bus.Allows Edit.OnlyReply ∧
      Flow.Reaches (·.Allows Edit.OnlyReply) (c.sending m bus).1 (Flow.answer arrived r' []) ∧
      Brings (c.asked m) arrived ∧ after = c.rehoming.inbound arrived (.capture m) := by
  have hroute : c.route m = .blocking := by rw [route, if_pos hmode]
  obtain he | ⟨bus, f, bus', hok, hs, hrest⟩ := hend.eq_or_step
  · simp [Flow.answer] at he
  · obtain hs : some (Flow.call c m [] bus) = some (f, bus') := hs
    by_cases hready : c.Ready m
    · rw [call_of_ready hready] at hs
      obtain ⟨rfl, rfl⟩ := Prod.mk.inj (Option.some.inj hs)
      obtain ⟨f', he, -⟩ | ⟨arrived, r', hsent, hbehind⟩ := hrest.of_andThen waiting_isAttempt
      · cases f' <;> simp [Flow.answer, Flow.andThen] at he
      · cases hverdict : r'.verdict with
        | error e => exact absurd hr (verdict_of_failed hverdict hbehind)
        | ok flag =>
          have hout : c.sending m bus = Flow.send c (c.asked m) [] bus := by
            simp only [sending, outgoing, hroute]
          have hbrings : Brings (c.asked m) arrived :=
            send_brings c (c.asked m) hok arrived r' (hout ▸ hsent) flag hverdict
          obtain he | ⟨bus₁, f₁, bus₂, -, hs₁, hlast⟩ := hbehind.eq_or_step
          · simp [Flow.answer] at he
          · have hresumed : Flow.resume r' arrived (c.waiting m) [] bus₁ =
                (Flow.answer (c.rehoming.inbound arrived (.capture m)) (.proceed true) [],
                  bus₁) := by
              simp only [waiting, hroute, Flow.resume, afterBlockingCall_eq hbrings hverdict]
            obtain ⟨rfl, rfl⟩ :=
              Prod.mk.inj (Option.some.inj (hs₁.symm.trans (congrArg some hresumed)))
            obtain ⟨rfl, -, -⟩ := Flow.busy.inj hlast.of_answer
            exact ⟨bus, arrived, r', hok, hsent, hbrings, rfl⟩
    · obtain ⟨m', e, hfailed, -⟩ : ∃ m' e, Flow.call c m [] bus =
          (Flow.answer m' (.failed e) [], bus) ∧ _ := call_of_not_ready hready
      rw [hfailed] at hs
      obtain ⟨rfl, rfl⟩ := Prod.mk.inj (Option.some.inj hs)
      obtain ⟨-, hreply, -⟩ := Flow.busy.inj hrest.of_answer
      obtain rfl := Task.reply.inj hreply
      simp [Reply.verdict] at hr

/-- What holds of every message that still has what was recorded, once it is rehomed by the
envelope from before the call, holds whenever the call succeeds. -/
theorem returning (h : ∀ arrived back, c.Kept m back → SameReply back arrived →
    Q arrived (c.rehoming.inbound back (.capture m))) : c.Returning m Q where
  waited hmode after r hend hr := by
    obtain ⟨bus, arrived, r', hok, hsent, hbrings, rfl⟩ := inbound_of_waited hmode hend hr
    exact ⟨bus, arrived, r', hok, hsent, h arrived arrived (kept_of_asked hbrings)
      ⟨rfl, rfl, rfl, rfl⟩⟩
  responded hmode _ sending arrived hbrings bus frame after bus' hrespond := by
    have hkept := kept_of_outgoing hmode hbrings
    rw [inbound_of_respond hrespond, ofProperties_of_lasting hkept]
    exact h arrived (resumed arrived) hkept ⟨rfl, rfl, rfl, rfl⟩

end Call

end ServiceBus
