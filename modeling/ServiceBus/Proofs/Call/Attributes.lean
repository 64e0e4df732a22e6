import ServiceBus.Proofs.Call.Diversion

/-
ServiceBus.Proofs.Call.Attributes — what the error properties of a message say.

A send that fails attaches its fault to the message that it sent, a refusal is attached
when the call treats it, and a copy hands its fault on to the message that goes on. So
when a handler's sequence starts, or the failure is passed on, the error properties are
those of this failure, whatever earlier ones have left there. `Call.describes` says so for
every route of a call and for the response path.

There is one gap. A copy hands on the properties that it has, and an absent detail is
none of them. So a message that wants no reply keeps the detail of an earlier failure
when the new one has none (`Call.detailLeft`).
-/
namespace ServiceBus

namespace Failure

/-- The text of a failed dispatch: that of its fault, or the text of the failure itself. -/
def reason : Failure → String
  | dispatch _ text _ => text
  | e => e.message

/-- The detail of a fault. -/
def detail? : Failure → Option String
  | dispatch _ _ detail => detail
  | _ => none

theorem detail?_eq_none {e : Failure} (h : ∀ code text detail, e ≠ dispatch code text detail) :
    e.detail? = none := by
  cases e with
  | dispatch code text detail => exact absurd rfl (h code text detail)
  | _ => rfl

end Failure

/-- The error properties of a message are those of a failure, with the given detail. -/
structure Message.Describes (m : Message) (e : Failure) (detail : Option Value) : Prop where
  code : m.property? Property.errorCode = e.code?.map fun code => .int code.toInt
  reason : m.property? Property.errorMessage = some (.text e.reason)
  detail : m.property? Property.errorDetail = detail
  sendingFault : m.property? Property.sendingFault = some (.bool true)
  exception : m.property? Property.errorException = some (.text e.message)

namespace Call

/-- The detail of a failure on the message that a call goes on with: a copy hands its own on
where it has one. -/
def detailLeft (c : Call) (m : Message) (e : Failure) : Option Value :=
  match c.route m, e with
  | .outOnly, .dispatch _ _ none => m.property? Property.errorDetail
  | _, _ => e.detail?.map .text

end Call

/-! ## The message as it is treated -/

namespace Flow

variable {e : Failure} {m : Message} {code : Int32}

/-- The message with a failure described on it: a refusal brings all its properties, a fault
those that are there. -/
theorem described_describes {detail : Option Value} (hcode : e.code? = some code)
    (hfault : ∀ code text detail', e = .dispatch code text detail' →
      m.property? Property.errorCode = some (.int code.toInt) ∧
        m.property? Property.errorMessage = some (.text text) ∧
        m.property? Property.errorDetail = detail)
    (hrefusal : (∀ code text detail', e ≠ .dispatch code text detail') → detail = none) :
    (described e m).Describes e detail := by
  have kept (m : Message) {name : String} (hname : name ≠ Property.sendingFault)
      (hname' : name ≠ Property.errorException) :
      ((m.setProperty Property.sendingFault (.bool true)).setProperty Property.errorException
        (.text e.message)).property? name = m.property? name := by
    rw [Message.property?_setProperty, if_neg hname', Message.property?_setProperty, if_neg hname]
  have sendingFault (m : Message) :
      ((m.setProperty Property.sendingFault (.bool true)).setProperty Property.errorException
        (.text e.message)).property? Property.sendingFault = some (.bool true) := by
    rw [Message.property?_setProperty, if_neg (by decide), Message.property?_setProperty,
      if_pos rfl]
  have exception (m : Message) :
      ((m.setProperty Property.sendingFault (.bool true)).setProperty Property.errorException
        (.text e.message)).property? Property.errorException = some (.text e.message) :=
    (Message.property?_setProperty ..).trans (if_pos rfl)
  cases e with
  | dispatch code text detail' =>
    obtain ⟨hattached, htext, hdetail⟩ := hfault code text detail' rfl
    exact ⟨(kept m (by decide) (by decide)).trans hattached,
      (kept m (by decide) (by decide)).trans htext, (kept m (by decide) (by decide)).trans hdetail,
      sendingFault m, exception m⟩
  | suspended endpoint code remaining =>
    obtain rfl := hrefusal (by simp)
    refine ⟨(kept _ (by decide) (by decide)).trans ?_, (kept _ (by decide) (by decide)).trans ?_,
      (kept _ (by decide) (by decide)).trans ?_, sendingFault _, exception _⟩
    · simp [Failure.code?, Property.errorCode, Property.errorMessage, Property.errorDetail]
    · simp [Failure.reason, Property.errorMessage, Property.errorDetail]
    · simp
  | _ => simp [Failure.code?] at hcode

/-- A failed dispatch enters the sequence of a handler, or is passed on; the properties of
the message are the same in both cases. -/
theorem divert_cases (hcode : e.code? = some code) :
    ((divert e m []).Enters ∨
        divert e m [] = answer (divert e m []).message (.failed e) []) ∧
      ∀ name, (divert e m []).message.property? name = (described e m).property? name := by
  have hany : ∃ _ : Bus, True := ⟨default, trivial⟩
  have hdiverts := divert_diverts hany e m
  cases hhandlers : m.faultHandlers with
  | nil =>
    rw [hdiverts.unhandled code hcode hhandlers]
    exact ⟨.inr rfl, fun _ => rfl⟩
  | cons handler rest =>
    rw [(hdiverts.handled code hcode handler rest hhandlers).1]
    exact ⟨.inl ⟨_, _, _, rfl⟩, fun _ => rfl⟩

theorem divert_describes {detail : Option Value} (hcode : e.code? = some code)
    (h : (described e m).Describes e detail) : (divert e m []).message.Describes e detail := by
  have hsame := (divert_cases (m := m) hcode).2
  constructor <;> rw [hsame]
  · exact h.code
  · exact h.reason
  · exact h.detail
  · exact h.sendingFault
  · exact h.exception

end Flow

/-! ## The message that a route leaves -/

namespace Call

section

variable {c : Call} {m sent : Message} {e : Failure}

theorem property?_copyError (copy m : Message) (name : String) :
    (copyError copy m).property? name =
      if name ∈ [Property.errorCode, Property.errorMessage, Property.errorDetail] then
        (copy.property? name).or (m.property? name)
      else m.property? name := by
  unfold copyError
  generalize [Property.errorCode, Property.errorMessage, Property.errorDetail] = names
  induction names generalizing m with
  | nil => rfl
  | cons key names ih =>
    rw [List.foldl_cons, ih]
    by_cases h : name = key
    · subst h
      cases hcopy : copy.property? name with
      | none => simp
      | some v => simp
    · cases copy.property? key with
      | none => simp [h]
      | some v => simp [h]

/-- Whatever the route, code and text of the fault are on the message that is left. -/
theorem left_describes {code : Int32} (hcode : e.code? = some code) (hsent : e.AttachedTo sent) :
    (Flow.described e (c.left m sent)).Describes e (c.detailLeft m e) := by
  refine Flow.described_describes hcode ?_ ?_
  · rintro code text detail rfl
    obtain ⟨hattached, htext, hdetail⟩ := hsent code text detail rfl
    unfold left detailLeft
    cases c.route m with
    | blocking =>
      have kept {name : String} (h : name ≠ Property.blockingSenderError) :
          (sent.setProperty Property.blockingSenderError (.bool true)).property? name =
            sent.property? name :=
        (Message.property?_setProperty ..).trans (if_neg h)
      exact ⟨(kept (by decide)).trans hattached, (kept (by decide)).trans htext,
        (kept (by decide)).trans hdetail⟩
    | handOff => exact ⟨hattached, htext, hdetail⟩
    | outOnly =>
      have hkept : (c.prepared m).property? Property.errorDetail =
          m.property? Property.errorDetail := prepared_keeps (by decide)
      have copied {name : String}
          (h : name ∈ [Property.errorCode, Property.errorMessage, Property.errorDetail]) :
          (copyError sent (c.prepared m)).property? name =
            (sent.property? name).or ((c.prepared m).property? name) :=
        (property?_copyError ..).trans (if_pos h)
      refine ⟨(copied (by decide)).trans ?_, (copied (by decide)).trans ?_,
        (copied (by decide)).trans ?_⟩
      · rw [hattached, Option.some_or]
      · rw [htext, Option.some_or]
      · rw [hdetail, hkept]
        cases detail <;> rfl
  · intro hrefusal
    unfold detailLeft
    split
    · exact absurd rfl (hrefusal _ _ _)
    · rw [Failure.detail?_eq_none hrefusal, Option.map_none]

/-- Whenever a call fails with a failed or refused dispatch, the error properties describe
this failure by the time a handler's sequence starts or the failure is passed on, on every
route and on the response path. Only the detail of an earlier failure may be left, where
the message wants no reply and the fault has no detail. -/
theorem describes {ok : Bus → Prop} (c : Call) (m : Message) (bus : Bus) :
    (¬ c.Ready m → ∃ m' e, Flow.call c m [] bus = (Flow.answer m' (.failed e) [], bus) ∧
      e.code? = none) ∧
    (c.Ready m → ∀ sent r e, r.verdict = .error e → e.code? ≠ none →
      Flow.Reaches ok (c.sending m bus).1 (Flow.answer sent r []) →
      ∀ bus', ∃ f, (Flow.answer sent r [c.waiting m]).step bus' = some (f, bus') ∧
        (f.Enters ∨ f = Flow.answer f.message (.failed e) []) ∧
        f.message.Describes e (c.detailLeft m e)) ∧
    ∀ fault e, (c.surfaced fault m bus).1 = e → e.code? ≠ none →
      ((Flow.faultResponse c fault m bus).1.Enters ∨ (Flow.faultResponse c fault m bus).1 =
        Flow.answer (Flow.faultResponse c fault m bus).1.message (.failed e) []) ∧
      (Flow.faultResponse c fault m bus).1.message.Describes e (e.detail?.map .text) := by
  refine ⟨fun h => ?_, fun hready sent r e he hcode hsent bus' => ?_, ?_⟩
  · obtain ⟨m', e, hcall, he, -⟩ := call_of_not_ready h
    refine ⟨m', e, hcall, ?_⟩
    cases e with
    | dispatch code text detail => simp [Failure.isDispatch] at he
    | suspended endpoint code remaining => simp [Failure.isDispatch] at he
    | _ => rfl
  · obtain ⟨code, hcode⟩ := Option.ne_none_iff_exists'.1 hcode
    exact ⟨Flow.divert e (c.left m sent) [], congrArg some (resume_waiting he),
      (Flow.divert_cases hcode).1,
      Flow.divert_describes hcode (left_describes hcode (attachedTo_of_send hsent he))⟩
  · rintro fault e rfl hcode
    obtain ⟨code, hcode⟩ := Option.ne_none_iff_exists'.1 hcode
    obtain ⟨hresponse, -, hattached⟩ := surfaced_spec c fault m bus
    rw [hresponse]
    refine ⟨(Flow.divert_cases hcode).1, Flow.divert_describes hcode ?_⟩
    refine Flow.described_describes hcode (fun code text detail he => ?_) fun hrefusal => ?_
    · rw [he]
      exact hattached code text detail he
    · rw [Failure.detail?_eq_none hrefusal, Option.map_none]

end

/-! A message that wants no reply, and a channel that refuses it twice: first with a detail,
then without. -/

namespace Twice

def handsOff : Call := { name := "notify", transport := "wire" }

def message : Message where
  id := ⟨0⟩
  properties := Dict.ofList [(Property.outOnly, .bool true)]
  continuation := [Frame.start .named "flow"]

def first : TransportFault where
  code := some 1
  message := some "first"
  detail := some "disk full"

def second : TransportFault := { code := some 2, message := some "second" }

def bus : Bus where
  transports := Dict.ofList [("wire", { script := [.fault first, .fault second] })]

def failure : Failure := .dispatch 1 "first" (some "disk full")

/-- The first send, at its end. -/
def refused : Flow × Bus := (handsOff.sending message bus).1.run 3 (handsOff.sending message bus).2

theorem describes_first :
    handsOff.Ready message ∧ failure.code? ≠ none ∧
      ∃ f, (Flow.answer refused.1.message (.failed failure) [handsOff.waiting message]).step bus =
          some (f, bus) ∧
        f.message.Describes failure (some (.text "disk full")) := by
  have hready : handsOff.Ready message := ⟨.inr (by simp [message]), rfl⟩
  have hcode : failure.code? ≠ none := by simp [failure, Failure.code?]
  have hsent : Flow.Reaches (fun _ : Bus => True) (handsOff.sending message bus).1
      (Flow.answer refused.1.message (.failed failure) []) := by
    have hend : refused.1 = Flow.answer refused.1.message (.failed failure) [] := rfl
    rw [← hend]
    exact Flow.Reaches.run (fun _ _ => trivial) 3 trivial
  obtain ⟨f, hstep, -, hdescribes⟩ :=
    (describes handsOff message bus).2.1 hready _ _ failure rfl hcode hsent bus
  exact ⟨hready, hcode, f, hstep, hdescribes⟩

/-- The first call, at its end. -/
def once : Flow × Bus :=
  let (f, bus) := Flow.call handsOff message [] bus
  f.run 4 bus

/-- The second call with the same message, at its end. -/
def twice : Flow × Bus :=
  let (f, bus) := Flow.call handsOff once.1.message [] once.2
  f.run 4 bus

theorem detail_left_behind :
    once.1 = Flow.answer once.1.message (.failed failure) [] ∧
      twice.1 = Flow.answer twice.1.message (.failed (.dispatch 2 "second" none)) [] ∧
      ¬ twice.1.message.Describes (.dispatch 2 "second" none) none := by
  refine ⟨rfl, rfl, fun h => ?_⟩
  have hleft : twice.1.message.property? Property.errorDetail = some (.text "disk full") := rfl
  rw [h.detail] at hleft
  simp at hleft

end Twice

end Call

end ServiceBus
