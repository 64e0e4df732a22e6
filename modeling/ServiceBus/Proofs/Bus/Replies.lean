import ServiceBus.Proofs.Buffer.Deliveries
import ServiceBus.Proofs.Bus.Buffers

/-
ServiceBus.Proofs.Bus.Replies — a reply as a delivery to the buffer of its run.

What a reply brings follows from its message and the evaluator (`Scatter.brought`): a
fault, nothing where the value cannot be found, or a result. `Scatter.deliver_spec` says
that a reply that leads to an open buffer is delivered there in three moves that nothing
comes between, and that nothing else changes for the runs.
-/
namespace ServiceBus

open Bus

namespace Scatter

/-- What a reply brings. -/
def brought (s : Scatter) (m : Message) (ev : Evaluator) : Buffer.Brought :=
  if m.isTrue Property.sendingFault then .fault
  else
    match s.value? m ev with
    | none => .nothing
    | some payload => .result payload (s.completes m ev)

variable {s : Scatter} {m : Message} {bus : Bus} {ev : Evaluator} {ref index : Nat}
  {buffer : Buffer}

theorem brought_ne_nothing :
    s.brought m ev ≠ .nothing ↔ m.isTrue Property.sendingFault = true ∨
      ∀ e, s.config.policy.value = some e → ∃ v, ev e m = .ok v := by
  rw [← value?_ne_none]
  unfold brought
  cases m.isTrue Property.sendingFault with
  | true => simp
  | false => cases s.value? m ev <;> simp

theorem brought_fault (h : m.isTrue Property.sendingFault = true) : s.brought m ev = .fault := by
  rw [brought, if_pos h]

/-- A reply without fault is brought in like the result of a branch that is through. -/
theorem operation_brought (h : m.isTrue Property.sendingFault = false) :
    Buffer.Delivery.operation ⟨index, s.brought m ev⟩ = s.contribution index m ev := by
  simp only [Buffer.Delivery.operation, brought, h, contribution, Bool.false_eq_true, if_false]
  cases s.value? m ev <;> rfl

theorem answer_brought (h : m.isTrue Property.sendingFault = false)
    (hb : bus.buffer? ref = some buffer) :
    (s.contribute ref index m bus).1 =
      Buffer.Delivery.answer ⟨index, s.brought m bus.evaluator⟩ buffer := by
  rw [contribute_answer hb]
  simp only [Buffer.Delivery.answer, brought, h, Bool.false_eq_true, if_false]
  cases s.value? m bus.evaluator <;> rfl

/-- A reply that leads to an open buffer is one delivery there that nothing comes
between. -/
theorem deliver_spec
    (hfind : (m.textProperty? Property.correlation).bind (bus.findBuffer? s.aggregator) = some ref)
    (hindex : branchOf m = some index) (hb : bus.buffer? ref = some buffer)
    (hopen : buffer.isClosed = false) :
    ∃ answer counted buffer',
      Buffer.Delivery.moves ⟨index, s.brought m bus.evaluator⟩ buffer =
        (.answered answer counted, buffer') ∧
      (s.deliver m bus).1 = .ok answer ∧
      (s.deliver m bus).2.runState = (bus.updateBuffer ref fun _ => buffer').runState := by
  have hclosed : bus.isBufferClosed ref = false := by
    rw [isBufferClosed_eq, hb, Option.any_some, hopen]
  by_cases hsettled : index ∈ buffer.settled
  · have hsame : (bus.updateBuffer ref fun _ => buffer) = bus :=
      (updateBuffer_congr fun found hfound => Option.some.inj (hb.symm.trans hfound)).trans
        (bus.updateBuffer_id ref)
    have htaken : buffer.settleAwaiting index = (false, buffer) := by
      simp [Buffer.settleAwaiting, hsettled]
    refine ⟨_, _, _, Buffer.Delivery.moves_of_settled hopen hsettled, ?_⟩
    simp only [deliver, hfind, hclosed, hindex, hb, htaken, Bool.false_eq_true, if_false]
    exact ⟨trivial, by rw [hsame]⟩
  · have htaken : buffer.settleAwaiting index =
        (true, { buffer with awaiting := buffer.awaiting - 1 }) := by
      simp [Buffer.settleAwaiting, hsettled]
    refine ⟨_, _, _, Buffer.Delivery.moves_of_new hopen hsettled, ?_⟩
    simp only [deliver, hfind, hclosed, hindex, hb, htaken, Bool.false_eq_true, if_false]
    generalize hafter : ({ buffer with awaiting := buffer.awaiting - 1 } : Buffer) = after
    -- the bus between the second and the third move
    have hb' : (bus.updateBuffer ref fun _ => after).buffer? ref = some after := by
      rw [buffer?_updateBuffer, if_pos rfl, hb, Option.map_some]
    have twice (op : Buffer.Operation) :
        (bus.updateBuffer ref fun _ => after).updateBuffer ref (·.perform op) =
          bus.updateBuffer ref fun _ => after.perform op := by
      rw [updateBuffer_updateBuffer]
      rfl
    cases hfault : m.isTrue Property.sendingFault with
    | true =>
      simp only [if_true, Buffer.Delivery.answer, Buffer.Delivery.operation, brought_fault hfault]
      exact ⟨trivial, congrArg runState (twice (.exclude index))⟩
    | false =>
      simp only [Bool.false_eq_true, if_false]
      refine ⟨congrArg Except.ok (answer_brought hfault hb'), ?_⟩
      rw [operation_brought hfault, contribute_runState, twice]
      rfl

/-- A reply that leads to an open buffer is accepted exactly if its branch is not settled
there, and if it reports a fault or has a value. -/
theorem deliver_accepted_iff
    (hfind : (m.textProperty? Property.correlation).bind (bus.findBuffer? s.aggregator) = some ref)
    (hindex : branchOf m = some index) (hb : bus.buffer? ref = some buffer)
    (hopen : buffer.isClosed = false) :
    (s.deliver m bus).1 = .ok .accepted ↔ index ∉ buffer.settled ∧
      (m.isTrue Property.sendingFault = true ∨
        ∀ e, s.config.policy.value = some e → ∃ v, bus.evaluator e m = .ok v) := by
  obtain ⟨answer, counted, buffer', hmoves, hanswer, -⟩ := deliver_spec hfind hindex hb hopen
  obtain ⟨answer', counted', after, hmoves', -, hcounts, -, hsome, hnothing⟩ :=
    Buffer.Delivery.moves_of_open (d := ⟨index, s.brought m bus.evaluator⟩) hopen
  obtain ⟨hstage, -⟩ := Prod.mk.inj (hmoves.symm.trans hmoves')
  obtain ⟨rfl, rfl⟩ := Buffer.Stage.answered.inj hstage
  rw [hanswer, Except.ok.injEq, ← brought_ne_nothing]
  by_cases hbrought : s.brought m bus.evaluator = .nothing
  · simp [hnothing hbrought, hbrought]
  · rw [hsome hbrought, hcounts]
    exact (and_iff_left hbrought).symm

/-- A reply leads to the buffer `ref` and names the branch `index` there. -/
structure AnswersFor (s : Scatter) (m : Message) (bus : Bus) (ref index : Nat) : Prop where
  found : (m.textProperty? Property.correlation).bind (bus.findBuffer? s.aggregator) = some ref
  branch : branchOf m = some index

/-- A reply settles no other branch than the one that it answers for. -/
theorem settled_of_deliver (s : Scatter) (m : Message) (hb : bus.buffer? ref = some buffer) :
    ∃ buffer', (s.deliver m bus).2.buffer? ref = some buffer' ∧
      ∀ branch ∈ buffer'.settled, branch ∈ buffer.settled ∨ s.AnswersFor m bus ref branch := by
  have same (hbus : (s.deliver m bus).2 = bus) : ∃ buffer',
      (s.deliver m bus).2.buffer? ref = some buffer' ∧
        ∀ branch ∈ buffer'.settled, branch ∈ buffer.settled ∨ s.AnswersFor m bus ref branch :=
    ⟨buffer, by rw [hbus, hb], fun _ hbranch => .inl hbranch⟩
  by_cases hrejected : ∀ ref', (m.textProperty? Property.correlation).bind
      (bus.findBuffer? s.aggregator) = some ref' → bus.isBufferClosed ref' = true
  · exact same (congrArg Prod.snd (deliver_rejected hrejected))
  · push Not at hrejected
    obtain ⟨ref', hfind, hopen⟩ := hrejected
    by_cases href : ref' = ref
    · subst href
      have hopen : bus.isBufferClosed ref' = false := Bool.eq_false_iff.2 hopen
      have hbuffer : buffer.isClosed = false := by
        rw [isBufferClosed_eq, hb, Option.any_some] at hopen
        exact hopen
      rcases Option.eq_none_or_eq_some (branchOf m) with hindex | ⟨index, hindex⟩
      · refine same ?_
        simp only [deliver, hfind, hopen, hindex]
        rfl
      · obtain ⟨answer, counted, buffer', hmoves, -, hrun⟩ :=
          deliver_spec hfind hindex hb hbuffer
        refine ⟨buffer', ?_, fun branch hbranch => ?_⟩
        · rw [buffer?_of_runState hrun, buffer?_updateBuffer, if_pos rfl, hb, Option.map_some]
        · have hsettled : branch ∈
              (Buffer.Delivery.moves ⟨index, s.brought m bus.evaluator⟩ buffer).2.settled := by
            rwa [hmoves]
          refine (Buffer.Delivery.mem_settled_of_moves hsettled).imp_right fun hsame => ?_
          exact ⟨hfind, hindex.trans (congrArg some hsame.symm)⟩
    · obtain ⟨ops, -, hrun⟩ := deliver_runState hfind
      refine ⟨buffer, ?_, fun _ hbranch => .inl hbranch⟩
      rw [buffer?_of_runState hrun, buffer?_updateBuffer, if_neg href, hb]

end Scatter

end ServiceBus
