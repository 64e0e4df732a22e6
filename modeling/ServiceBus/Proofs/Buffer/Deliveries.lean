import ServiceBus.Proofs.Buffer.Outcome

/-
ServiceBus.Proofs.Buffer.Deliveries — replies that are delivered to one buffer at the
same time.

A delivery looks whether the buffer is closed, takes its branch off the awaited ones,
and brings it in, as a result or as excluded. Between these three moves the buffer is
free, and other deliveries and the branches themselves may work on it
(`Desk.Step`). `Delivery.counts` says whether the last move made the branch count.

The answer is not read off the buffer in each case. A reply with a result is accepted
exactly if it counts. One that reports a fault is accepted once it got past the second
move, whether or not another one is faster then; one that has no value is rejected even
where it makes its branch count as excluded (`Delivery.answer_result`,
`Delivery.answer_fault`). In any case no two deliveries count the same branch
(`Desk.Reached.countP_hasCounted`), and only the counting one changes the account
(`Delivery.move_account`).
-/
namespace ServiceBus.Buffer

/-! ## One delivery -/

/-- What a reply brings for its branch. -/
inductive Brought where
  /-- It reports a fault. -/
  | fault
  /-- Its value cannot be found. -/
  | nothing
  | result (payload : Payload) (completed : Bool)

/-- A reply on its way into the buffer. -/
structure Delivery where
  branch : Nat
  brought : Brought

/-- How far a delivery is. -/
inductive Stage where
  | arrived
  /-- The buffer was open. -/
  | admitted
  /-- The branch was not settled, and is no longer awaited. -/
  | taken
  /-- `counted` is whether the delivery made its branch count. -/
  | answered (answer : Contribution) (counted : Bool)

namespace Delivery

variable (d : Delivery) (b : Buffer)

/-- The operation that brings the branch in. -/
def operation : Operation :=
  match d.brought with
  | .result payload completed => .add ⟨d.branch, payload⟩ completed
  | _ => .exclude d.branch

/-- The answer of a delivery that brings its branch in. -/
def answer : Contribution :=
  match d.brought with
  | .fault => .accepted
  | .nothing => .rejected
  | .result payload completed => (b.add ⟨d.branch, payload⟩ completed).1

/-- Whether bringing the branch in makes it count. -/
def counts : Bool :=
  !b.settled.contains d.branch && (b.perform d.operation).settled.contains d.branch

/-- One move of a delivery. -/
def move : Stage → Stage × Buffer
  | .arrived => if b.isClosed then (.answered .rejected false, b) else (.admitted, b)
  | .admitted =>
    match b.settleAwaiting d.branch with
    | (false, b) => (.answered .rejected false, b)
    | (true, b) => (.taken, b)
  | .taken => (.answered (d.answer b) (d.counts b), b.perform d.operation)
  | .answered answer counted => (.answered answer counted, b)

/-- A delivery that nothing comes between. -/
def moves : Stage × Buffer :=
  let (stage, b) := d.move b .arrived
  let (stage, b) := d.move b stage
  d.move b stage

end Delivery

/-! ## What a delivery does to the account -/

/-- What a report is made of. -/
def account (b : Buffer) : List BranchResult × Nat × List Nat × Option CloseReason :=
  (b.results, b.excluded, b.settled, b.reason)

theorem settled_closeIfAccounted (b : Buffer) : b.closeIfAccounted.settled = b.settled := by
  rcases closeIfAccounted_eq b with h | ⟨-, h⟩ <;> simp [h]

theorem settled_add {b : Buffer} {result : BranchResult} (h : b.admits result.branch = true)
    (completed : Bool) : (b.add result completed).2.settled = result.branch :: b.settled := by
  rcases (add_of_admits h completed).2 with ⟨-, he⟩ | ⟨-, -, he⟩ | ⟨-, -, he⟩
  · rw [he, close_settled]; rfl
  · rw [he, close_settled]; rfl
  · rw [he, settled_closeIfAccounted]; rfl

theorem settled_exclude {b : Buffer} {branch : Nat} (h : b.admits branch = true) :
    (b.exclude branch).settled = branch :: b.settled := by
  rw [exclude_of_admits h, settled_closeIfAccounted]
  rfl

/-- The branch that an operation settles where the buffer admits it. -/
def Operation.settles : Operation → Option Nat
  | .add result _ => some result.branch
  | .exclude branch => some branch
  | _ => none

/-- Whatever the operation, the branch that it settles is put before the settled ones where
the buffer admits it. -/
theorem settled_perform (b : Buffer) (op : Operation) :
    (b.perform op).settled = (op.settles.filter (b.admits ·)).toList ++ b.settled := by
  cases op with
  | add result completed =>
    cases hadmits : b.admits result.branch with
    | true => simp [perform, Operation.settles, settled_add hadmits, Option.filter, hadmits]
    | false => simp [perform, Operation.settles, add_of_not_admits hadmits, hadmits]
  | exclude branch =>
    cases hadmits : b.admits branch with
    | true => simp [perform, Operation.settles, settled_exclude hadmits, Option.filter, hadmits]
    | false => simp [perform, Operation.settles, exclude_of_not_admits hadmits, hadmits]
  | markAwaiting branch =>
    obtain ⟨n, hn⟩ := markAwaiting_eq b branch
    rw [perform, hn]
    rfl
  | settleAwaiting branch =>
    obtain ⟨n, hn⟩ := settleAwaiting_eq b branch
    rw [perform, hn]
    rfl
  | close reason => exact close_settled ..
  | take =>
    cases hb : b.isClosed with
    | true => rw [perform, take_of_closed hb]; rfl
    | false => rw [perform, take_of_open hb]; rfl

/-- No other branch is settled by an operation. -/
theorem mem_settled_of_perform {b : Buffer} {op : Operation} {branch : Nat}
    (h : branch ∈ (b.perform op).settled) : branch ∈ b.settled ∨ op.settles = some branch := by
  rw [settled_perform, List.mem_append, Option.mem_toList] at h
  exact h.symm.imp_right Option.eq_some_of_filter_eq_some

/-- What is settled stays settled. -/
theorem mem_settled_perform {b : Buffer} {branch : Nat} (h : branch ∈ b.settled) (op : Operation) :
    branch ∈ (b.perform op).settled := by
  rw [settled_perform]
  exact List.mem_append_right _ h

theorem awaiting_closeIfAccounted (b : Buffer) : b.closeIfAccounted.awaiting = b.awaiting := by
  rcases closeIfAccounted_eq b with h | ⟨-, h⟩
  · rw [h]
  · rw [h, close_eq]

/-- Of all operations only these two count replies. -/
theorem awaiting_perform (b : Buffer) (op : Operation) : (b.perform op).awaiting =
    match op with
    | .markAwaiting branch => if branch ∈ b.settled then b.awaiting else b.awaiting + 1
    | .settleAwaiting branch => if branch ∈ b.settled then b.awaiting else b.awaiting - 1
    | _ => b.awaiting := by
  cases op with
  | add result completed =>
    cases hadmits : b.admits result.branch with
    | true =>
      rcases (add_of_admits hadmits completed).2 with ⟨-, he⟩ | ⟨-, -, he⟩ | ⟨-, -, he⟩
      · simp only [perform, he, close_eq, append]
      · simp only [perform, he, close_eq, append]
      · simp only [perform, he, awaiting_closeIfAccounted, append]
    | false => simp only [perform, add_of_not_admits hadmits]
  | exclude branch =>
    cases hadmits : b.admits branch with
    | true => simp only [perform, exclude_of_admits hadmits, awaiting_closeIfAccounted, setAside]
    | false => simp only [perform, exclude_of_not_admits hadmits]
  | markAwaiting branch =>
    by_cases hsettled : branch ∈ b.settled <;> simp [perform, markAwaiting, hsettled]
  | settleAwaiting branch =>
    by_cases hsettled : branch ∈ b.settled <;> simp [perform, settleAwaiting, hsettled]
  | close reason => simp only [perform, close_eq]
  | take =>
    cases hb : b.isClosed with
    | true => simp only [perform, take_of_closed hb]
    | false => simp only [perform, take_of_open hb]

theorem awaiting_perform_of_settles {b : Buffer} {op : Operation} {branch : Nat}
    (h : op.settles = some branch) : (b.perform op).awaiting = b.awaiting := by
  rw [awaiting_perform]
  cases op with
  | add result completed => rfl
  | exclude branch => rfl
  | _ => simp [Operation.settles] at h

/-- Operations that contribute nothing leave the branches and their replies as they are. -/
theorem performAll_of_not_contributes {b : Buffer} {ops : List Operation}
    (hops : ∀ op ∈ ops, op.contributes = false) :
    (b.performAll ops).settled = b.settled ∧ (b.performAll ops).awaiting = b.awaiting := by
  induction ops generalizing b with
  | nil => exact ⟨rfl, rfl⟩
  | cons op ops ih =>
    rw [List.forall_mem_cons] at hops
    obtain ⟨hsettled, hawaiting⟩ := ih (b := b.perform op) hops.2
    rw [performAll_cons, hsettled, hawaiting, settled_perform, awaiting_perform]
    cases op with
    | close reason => exact ⟨rfl, rfl⟩
    | take => exact ⟨rfl, rfl⟩
    | _ => simp [Operation.contributes] at hops

namespace Delivery

variable {d : Delivery} {b b' : Buffer}

theorem settles_operation : d.operation.settles = some d.branch := by
  unfold operation
  cases d.brought <;> rfl

theorem perform_operation_of_admits (h : b.admits d.branch = true) :
    (b.perform d.operation).settled = d.branch :: b.settled := by
  rw [settled_perform, settles_operation]
  simp [Option.filter, h]

theorem perform_operation_of_not_admits (h : b.admits d.branch = false) :
    b.perform d.operation = b := by
  unfold operation
  cases d.brought with
  | result payload completed => exact congrArg Prod.snd (add_of_not_admits h completed)
  | _ => exact exclude_of_not_admits h

/-- A branch is made to count exactly where the buffer is open and has not settled it. -/
theorem counts_eq_admits : d.counts b = b.admits d.branch := by
  cases h : b.admits d.branch with
  | true =>
    have hnew : d.branch ∉ b.settled := (admits_iff.1 h).2
    simp [counts, perform_operation_of_admits h, hnew]
  | false => simp [counts, perform_operation_of_not_admits h]

/-- A result is accepted exactly if it counts. -/
theorem answer_result {payload : Payload} {completed : Bool}
    (h : d.brought = .result payload completed) :
    d.answer b = .accepted ↔ d.counts b = true := by
  rw [counts_eq_admits]
  simp only [answer, h]
  cases hadmits : b.admits d.branch with
  | true => simp [accepted_of_admits hadmits payload completed]
  | false => simp [@add_of_not_admits b ⟨d.branch, payload⟩ hadmits completed]

theorem answer_fault (h : d.brought = .fault) : d.answer b = .accepted := by
  simp [answer, h]

theorem answer_nothing (h : d.brought = .nothing) : d.answer b = .rejected := by
  simp [answer, h]

theorem move_arrived (hopen : b.isClosed = false) : d.move b .arrived = (.admitted, b) := by
  simp [move, hopen]

theorem move_taken :
    d.move b .taken = (.answered (d.answer b) (d.counts b), b.perform d.operation) := rfl

theorem move_answered (answer : Contribution) (counted : Bool) :
    d.move b (.answered answer counted) = (.answered answer counted, b) := rfl

theorem move_admitted : d.move b .admitted =
    if d.branch ∈ b.settled then (.answered .rejected false, b)
    else (.taken, { b with awaiting := b.awaiting - 1 }) := by
  by_cases h : d.branch ∈ b.settled
  · simp [move, settleAwaiting, h]
  · simp [move, settleAwaiting, h]

/-- A move before the last one counts nothing, and changes no more than the number of the
awaited branches. -/
theorem move_early {stage : Stage} (h : stage = .arrived ∨ stage = .admitted) :
    (∃ n, (d.move b stage).2 = { b with awaiting := n }) ∧
      ∀ answer, (d.move b stage).1 ≠ .answered answer true := by
  obtain rfl | rfl := h
  · simp only [move]
    split <;> exact ⟨⟨b.awaiting, rfl⟩, by simp⟩
  · rw [move_admitted]
    split
    · exact ⟨⟨b.awaiting, rfl⟩, by simp⟩
    · exact ⟨⟨_, rfl⟩, by simp⟩

/-- A move changes the account exactly if it makes the branch count. -/
theorem move_account {stage : Stage} :
    (d.move b stage).2.account ≠ b.account ↔ stage = .taken ∧ d.counts b = true := by
  have early (h : stage = .arrived ∨ stage = .admitted) :
      (d.move b stage).2.account = b.account := by
    obtain ⟨⟨n, hn⟩, -⟩ := move_early (d := d) (b := b) h
    rw [hn]
    rfl
  cases stage with
  | arrived => simp [early (.inl rfl)]
  | admitted => simp [early (.inr rfl)]
  | taken =>
    rw [move_taken, counts_eq_admits]
    cases h : b.admits d.branch with
    | true =>
      have hsettled : (b.perform d.operation).settled ≠ b.settled := by
        rw [perform_operation_of_admits h]
        exact List.cons_ne_self _ _
      simp only [true_and, iff_true]
      exact fun hsame => hsettled (congrArg (·.2.2.1) hsame)
    | false => simp [perform_operation_of_not_admits h]
  | answered answer counted => simp [move]

/-- A delivery settles no other branch than its own. -/
theorem mem_settled_of_move {stage : Stage} {branch : Nat}
    (h : branch ∈ (d.move b stage).2.settled) : branch ∈ b.settled ∨ branch = d.branch := by
  cases stage with
  | arrived =>
    simp only [move] at h
    split at h <;> exact .inl h
  | admitted =>
    rw [move_admitted] at h
    split at h <;> exact .inl h
  | taken =>
    refine (mem_settled_of_perform h).imp_right fun hsettles => ?_
    exact Option.some.inj (hsettles.symm.trans settles_operation)
  | answered answer counted => exact .inl h

theorem mem_settled_of_moves {branch : Nat} (h : branch ∈ (d.moves b).2.settled) :
    branch ∈ b.settled ∨ branch = d.branch := by
  obtain ⟨first, hfirst⟩ : ∃ first, d.move b .arrived = first := ⟨_, rfl⟩
  obtain ⟨second, hsecond⟩ : ∃ second, d.move first.2 first.1 = second := ⟨_, rfl⟩
  have hmoves : d.moves b = d.move second.2 second.1 := by
    simp only [moves, hfirst, hsecond]
  rw [hmoves] at h
  rcases mem_settled_of_move h with h | h
  · rw [← hsecond] at h
    rcases mem_settled_of_move h with h | h
    · rw [← hfirst] at h
      exact mem_settled_of_move h
    · exact .inr h
  · exact .inr h

/-- The awaited reply of a branch that is not settled is brought in. -/
theorem moves_of_new (hopen : b.isClosed = false) (hnew : d.branch ∉ b.settled) :
    d.moves b = (.answered (d.answer { b with awaiting := b.awaiting - 1 }) true,
      ({ b with awaiting := b.awaiting - 1 } : Buffer).perform d.operation) := by
  have hcounts : d.counts { b with awaiting := b.awaiting - 1 } = true := by
    rw [counts_eq_admits]
    exact admits_iff.2 ⟨hopen, hnew⟩
  simp only [moves, move_arrived hopen, move_admitted, if_neg hnew, move_taken, hcounts]

theorem moves_of_settled (hopen : b.isClosed = false) (hsettled : d.branch ∈ b.settled) :
    d.moves b = (.answered .rejected false, b) := by
  simp only [moves, move_arrived hopen, move_admitted, if_pos hsettled, move_answered]

/-- A delivery to an open buffer that nothing comes between: its branch is settled after it,
it counts exactly if the branch was not settled before, and it is accepted exactly then, if
it has anything to bring. -/
theorem moves_of_open (hopen : b.isClosed = false) : ∃ answer counted b',
    d.moves b = (.answered answer counted, b') ∧
      d.branch ∈ b'.settled ∧ (counted = true ↔ d.branch ∉ b.settled) ∧
      (counted = false → b'.account = b.account) ∧
      (d.brought ≠ .nothing → (answer = .accepted ↔ counted = true)) ∧
      (d.brought = .nothing → answer = .rejected) := by
  by_cases hsettled : d.branch ∈ b.settled
  · rw [moves_of_settled hopen hsettled]
    exact ⟨_, _, _, rfl, hsettled, by simp [hsettled], fun _ => rfl, fun _ => by simp,
      fun _ => rfl⟩
  · rw [moves_of_new hopen hsettled]
    have hadmits : ({ b with awaiting := b.awaiting - 1 } : Buffer).admits d.branch = true :=
      admits_iff.2 ⟨hopen, hsettled⟩
    refine ⟨_, _, _, rfl, ?_, by simp [hsettled], by simp, fun hsome => ?_, answer_nothing⟩
    · rw [perform_operation_of_admits hadmits]
      exact List.mem_cons_self
    · cases hbrought : d.brought with
      | fault => simp [answer_fault hbrought]
      | nothing => exact absurd hbrought hsome
      | result payload completed => simp [answer_result hbrought, counts_eq_admits, hadmits]

end Delivery

/-! ## Deliveries side by side -/

/-- A buffer and the deliveries to it, each as far as it is. -/
structure Desk where
  buffer : Buffer
  deliveries : List (Delivery × Stage)

/-- Whether a delivery has made a branch count. -/
def Delivery.hasCounted (branch : Nat) : Delivery × Stage → Bool
  | (d, .answered _ true) => d.branch == branch
  | _ => false

theorem Delivery.hasCounted_eq_false {branch : Nat} {d : Delivery} {stage : Stage}
    (h : ∀ answer, stage ≠ .answered answer true) :
    Delivery.hasCounted branch (d, stage) = false := by
  cases stage with
  | answered answer counted =>
    cases counted with
    | true => exact absurd rfl (h answer)
    | false => rfl
  | _ => rfl

namespace Desk

/-- One move, of a delivery or of anyone else at work on the buffer. -/
inductive Step (allowed : Operation → Prop) : Desk → Desk → Prop where
  | perform {b : Buffer} {ds : List (Delivery × Stage)} (op : Operation) (hop : allowed op) :
      Step allowed ⟨b, ds⟩ ⟨b.perform op, ds⟩
  | arrive {b : Buffer} {ds : List (Delivery × Stage)} (d : Delivery) :
      Step allowed ⟨b, ds⟩ ⟨b, (d, .arrived) :: ds⟩
  | proceed {b : Buffer} (before after : List (Delivery × Stage)) (d : Delivery)
      (stage : Stage) : Step allowed ⟨b, before ++ (d, stage) :: after⟩
        ⟨(d.move b stage).2, before ++ (d, (d.move b stage).1) :: after⟩

/-- What may come about from a buffer that nothing was delivered to. -/
inductive Reached (allowed : Operation → Prop) (start : Buffer) : Desk → Prop where
  | fresh : Reached allowed start ⟨start, []⟩
  | step {s s' : Desk} (h : Reached allowed start s) (hs : Step allowed s s') :
      Reached allowed start s'

/-- An answer that fits what the reply brought and whether it counted. -/
structure Fits (d : Delivery) (answer : Contribution) (counted : Bool) : Prop where
  result : ∀ payload completed, d.brought = .result payload completed →
    (answer = .accepted ↔ counted = true)
  fault : d.brought = .fault → counted = true → answer = .accepted
  nothing : d.brought = .nothing → answer = .rejected

theorem fits_rejected (d : Delivery) : Fits d .rejected false :=
  ⟨fun _ _ _ => by simp, fun _ h => by simp at h, fun _ => rfl⟩

theorem fits_answer (d : Delivery) (b : Buffer) : Fits d (d.answer b) (d.counts b) :=
  ⟨fun _ _ h => Delivery.answer_result h, fun h _ => Delivery.answer_fault h,
    Delivery.answer_nothing⟩

/-- The answer that a move gives fits. -/
theorem fits_move {d : Delivery} {b : Buffer} {stage : Stage} {answer : Contribution}
    {counted : Bool} (hbefore : stage = .answered answer counted → Fits d answer counted)
    (h : (d.move b stage).1 = .answered answer counted) : Fits d answer counted := by
  cases stage with
  | arrived =>
    simp only [Delivery.move] at h
    split at h
    · obtain ⟨rfl, rfl⟩ := Stage.answered.inj h
      exact fits_rejected d
    · simp at h
  | admitted =>
    rw [Delivery.move_admitted] at h
    split at h
    · obtain ⟨rfl, rfl⟩ := Stage.answered.inj h
      exact fits_rejected d
    · simp at h
  | taken =>
    obtain ⟨rfl, rfl⟩ := Stage.answered.inj h
    exact fits_answer d b
  | answered answer' counted' => exact hbefore h

/-- What a delivery that counted has left in the account: its result, or its branch among
the excluded ones. -/
structure Noted (b : Buffer) (excluded : List Nat) (d : Delivery) : Prop where
  merged : ∀ payload completed, d.brought = .result payload completed →
    ⟨d.branch, payload⟩ ∈ b.results
  excluded : (∀ payload completed, d.brought ≠ .result payload completed) → d.branch ∈ excluded

theorem Noted.mono {b b' : Buffer} {excluded excluded' : List Nat} {d : Delivery}
    (h : Noted b excluded d) (hresults : ∀ r ∈ b.results, r ∈ b'.results)
    (hexcluded : ∀ branch ∈ excluded, branch ∈ excluded') : Noted b' excluded' d :=
  ⟨fun payload completed hd => hresults _ (h.merged payload completed hd),
    fun hd => hexcluded _ (h.excluded hd)⟩

/-- The last move of a delivery notes what counts. -/
theorem noted_operation {b : Buffer} {d : Delivery} (hadmits : b.admits d.branch = true)
    (excluded : List Nat) : Noted (b.perform d.operation)
      (excluded ++ (excludedBy (b, d.operation)).toList) d := by
  constructor
  · intro payload completed hd
    have hadd := (add_accepted_iff b ⟨d.branch, payload⟩ completed).1
      (accepted_of_admits hadmits payload completed)
    simp only [Delivery.operation, hd, Buffer.perform, hadd]
    exact List.mem_append_right _ List.mem_cons_self
  · intro hd
    have hexclude : d.operation = .exclude d.branch := by
      unfold Delivery.operation
      cases hbrought : d.brought with
      | result payload completed => exact absurd hbrought (hd payload completed)
      | _ => rfl
    rw [hexclude, excludedBy_exclude, hadmits]
    exact List.mem_append_right _ (by simp)

theorem not_empties_operation (b : Buffer) (d : Delivery) : empties (b, d.operation) = false := by
  unfold Delivery.operation
  cases d.brought <;> rfl

/-- An operation that takes nothing out keeps what is noted. -/
theorem Noted.perform {b : Buffer} {excluded : List Nat} {d : Delivery} {op : Operation}
    (h : Noted b excluded d) (hop : empties (b, op) = false) :
    Noted (b.perform op) (excluded ++ (excludedBy (b, op)).toList) d :=
  h.mono (fun r hr => by
    rw [perform_results hop]
    exact List.mem_append_left _ hr) fun _ hbranch => List.mem_append_left _ hbranch

namespace Reached

variable {allowed : Operation → Prop} {start : Buffer} {s : Desk}

/-- Every answer fits. -/
theorem fits (h : Reached allowed start s) {d : Delivery} {answer : Contribution} {counted : Bool}
    (hd : (d, Stage.answered answer counted) ∈ s.deliveries) : Fits d answer counted := by
  induction h with
  | fresh => simp at hd
  | step h hs ih =>
    cases hs with
    | perform op hop => exact ih hd
    | arrive d' => exact ih (by simpa using hd)
    | @proceed b before after d' stage =>
      simp only [List.mem_append, List.mem_cons] at hd ih
      rcases hd with hd | hd | hd
      · exact ih (.inl hd)
      · obtain ⟨rfl, hmove⟩ := Prod.mk.inj hd
        exact fits_move (fun hstage => ih (.inr (.inl (by rw [hstage])))) hmove.symm
      · exact ih (.inr (.inr hd))

/-- No two deliveries count the same branch, and where one does, the branch is settled. -/
theorem countP_hasCounted (h : Reached allowed start s) (branch : Nat) :
    s.deliveries.countP (Delivery.hasCounted branch) ≤
      if branch ∈ s.buffer.settled then 1 else 0 := by
  induction h with
  | fresh => simp
  | step h hs ih =>
    cases hs with
    | @perform b ds op hop =>
      refine Nat.le_trans ih ?_
      by_cases hsettled : branch ∈ b.settled
      · simp [hsettled, mem_settled_perform hsettled op]
      · simp [hsettled]
    | arrive d => simpa [Delivery.hasCounted] using ih
    | @proceed b before after d stage =>
      simp only [List.countP_append, List.countP_cons] at ih ⊢
      have early (hearly : stage = .arrived ∨ stage = .admitted) :
          (d.move b stage).2.settled = b.settled ∧
            Delivery.hasCounted branch (d, (d.move b stage).1) = false := by
        obtain ⟨⟨n, hn⟩, hother⟩ := Delivery.move_early (d := d) (b := b) hearly
        exact ⟨by rw [hn], Delivery.hasCounted_eq_false hother⟩
      cases stage with
      | arrived =>
        rw [(early (.inl rfl)).1, (early (.inl rfl)).2]
        exact ih
      | admitted =>
        rw [(early (.inr rfl)).1, (early (.inr rfl)).2]
        exact ih
      | answered answer counted => exact ih
      | taken =>
        have hmove : d.move b .taken =
            (.answered (d.answer b) (b.admits d.branch), b.perform d.operation) := by
          rw [Delivery.move_taken, Delivery.counts_eq_admits]
        rw [hmove]
        have htaken : Delivery.hasCounted branch (d, .taken) = false := rfl
        rw [htaken] at ih
        cases hadmits : b.admits d.branch with
        | false =>
          rw [Delivery.perform_operation_of_not_admits hadmits]
          exact ih
        | true =>
          -- the branch was not settled before, so none of the others has counted it
          have hnew : d.branch ∉ b.settled := (admits_iff.1 hadmits).2
          have hcounted : Delivery.hasCounted branch (d, .answered (d.answer b) true) =
              (d.branch == branch) := rfl
          rw [hcounted, Delivery.perform_operation_of_admits hadmits]
          by_cases hbranch : d.branch = branch
          · subst hbranch
            simp only [if_neg hnew, Bool.false_eq_true, if_false] at ih
            simp only [beq_self_eq_true, if_true, List.mem_cons_self]
            omega
          · have hbranch' : branch ≠ d.branch := Ne.symm hbranch
            simpa [hbranch, hbranch'] using ih

/-- Until the contents are taken out, whatever counted is in the account. -/
theorem accounts (h : Reached (· ≠ .take) start s) {excluded₀ : List Nat}
    (hstart : start.Accounts excluded₀) : ∃ excluded, s.buffer.Accounts excluded ∧
      ∀ d answer, (d, Stage.answered answer true) ∈ s.deliveries → Noted s.buffer excluded d := by
  induction h with
  | fresh => exact ⟨excluded₀, hstart, by simp⟩
  | step h hs ih =>
    obtain ⟨excluded, haccounts, hnoted⟩ := ih
    cases hs with
    | @perform b ds op hop =>
      have hempties : empties (b, op) = false := by
        cases op with
        | take => exact absurd rfl hop
        | _ => rfl
      exact ⟨_, haccounts.perform hempties,
        fun d answer hd => (hnoted d answer hd).perform hempties⟩
    | arrive d =>
      exact ⟨excluded, haccounts, fun d' answer hd => hnoted d' answer (by simpa using hd)⟩
    | @proceed b before after d stage =>
      simp only [List.mem_append, List.mem_cons] at hnoted ⊢
      -- the others are noted as before, and this one if it has just counted
      have others {b' : Buffer} {excluded' : List Nat}
          (hkeeps : ∀ d', Noted b excluded d' → Noted b' excluded' d')
          (hown : ∀ answer, (d.move b stage).1 = .answered answer true → Noted b' excluded' d)
          (d' : Delivery) (answer : Contribution)
          (hd : (d', Stage.answered answer true) ∈ before ∨
            (d', Stage.answered answer true) = (d, (d.move b stage).1) ∨
            (d', Stage.answered answer true) ∈ after) : Noted b' excluded' d' := by
        rcases hd with hd | hd | hd
        · exact hkeeps d' (hnoted d' answer (.inl hd))
        · obtain ⟨rfl, hmove⟩ := Prod.mk.inj hd
          exact hown answer hmove.symm
        · exact hkeeps d' (hnoted d' answer (.inr (.inr hd)))
      have early (hearly : stage = .arrived ∨ stage = .admitted) :
          ∃ excluded', (d.move b stage).2.Accounts excluded' ∧ ∀ d' answer,
            (d', Stage.answered answer true) ∈ before ∨
              (d', Stage.answered answer true) = (d, (d.move b stage).1) ∨
              (d', Stage.answered answer true) ∈ after →
            Noted (d.move b stage).2 excluded' d' := by
        obtain ⟨⟨n, hn⟩, hother⟩ := Delivery.move_early (d := d) (b := b) hearly
        rw [hn]
        exact ⟨excluded, haccounts.awaiting n,
          others (fun _ hd => ⟨hd.merged, hd.excluded⟩) fun answer he => absurd he (hother answer)⟩
      cases stage with
      | arrived => exact early (.inl rfl)
      | admitted => exact early (.inr rfl)
      | taken =>
        have hempties := not_empties_operation b d
        refine ⟨_, haccounts.perform hempties,
          others (fun _ hd => hd.perform hempties) fun answer he => ?_⟩
        have hadmits : b.admits d.branch = true := by
          rw [← Delivery.counts_eq_admits]
          exact (Stage.answered.inj he).2
        exact noted_operation hadmits excluded
      | answered answer counted =>
        exact ⟨excluded, haccounts, others (fun _ hd => hd) fun answer' he =>
          hnoted d answer' (.inr (.inl (by rw [← he]; rfl)))⟩

end Reached

end Desk

end ServiceBus.Buffer
