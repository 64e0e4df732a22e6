import ServiceBus.Proofs.Buffer.Complete
import ServiceBus.Proofs.Traffic.Branches
import ServiceBus.Proofs.Traffic.Late

/-
ServiceBus.Proofs.Traffic.Foreign — replies under a number that is none of the branches.

The branches of a run have the numbers of its targets, and only these come from the run
itself. A reply names its branch by a number that it carries, and nothing compares this
with the number of targets. So whatever else a run has settled came with a reply
(`History.replied_of_foreign`), and a run without such replies that is closed because all
branches are in has them all (`History.complete`).

With such a reply it may have none: the only branch of a run is still awaited when a reply
for a branch 7 closes the run because all branches are in (`foreign_reply_closes`).
-/
namespace ServiceBus.Traffic

open Bus

variable {past : List RunEvent} {t : Traffic} {s : Scatter} {targets : List Mediator}
  {m : Message} {b : Bus} {g : Gathering} {buffer : Buffer} {i : Nat}

/-! ## Numbers of branches -/

/-- The open branches are among those of the runs that have begun. -/
theorem History.count_openBranches_le (h : History past t) (ref i : Nat) :
    t.openBranches.count (ref, i) ≤ (past.flatMap RunEvent.branches).count (ref, i) := by
  induction h with
  | fresh hbuffers haggregators hrung => simp [openBranches]
  | step h hs ih =>
    have hstep := hs.count_openBranches_le ref i
    rw [List.flatMap_append, List.count_append]
    omega

/-- The open branches of a run have the numbers of its targets. -/
theorem History.lt_of_mem_openBranches (h : History past t) (hbegan : .began s targets m b g ∈ past)
    (hopen : (g.buffer, i) ∈ t.openBranches) : i < targets.length := by
  have hcount := h.count_openBranches_le g.buffer i
  have hpos := List.count_pos_iff.2 hopen
  obtain ⟨e, he, hbranch⟩ := List.mem_flatMap.1 (List.count_pos_iff.1 (by omega :
    0 < (past.flatMap RunEvent.branches).count (g.buffer, i)))
  cases e with
  | began s' targets' m' b' g' =>
    obtain ⟨j, hj, hsame⟩ := List.mem_map.1 hbranch
    obtain ⟨hbuffer, rfl⟩ := Prod.mk.inj hsame
    have hrun := h.began_unique he hbegan hbuffer
    cases hrun
    exact List.mem_range.1 hj
  | concluded g' m' b' => simp [RunEvent.branches] at hbranch
  | broken g' m' => simp [RunEvent.branches] at hbranch

/-- A number that is none of the branches of a run is settled by a reply that carries it. -/
theorem History.replied_of_foreign (h : History past t) (hbegan : .began s targets m b g ∈ past)
    (hb : t.bus.buffer? g.buffer = some buffer) (hforeign : targets.length ≤ i)
    (hsettled : i ∈ buffer.settled) : Replied History past t g.buffer i := by
  induction h generalizing buffer with
  | fresh hbuffers haggregators hrung => simp at hbegan
  | @step past t t' e h hs ih =>
    rcases List.mem_append.1 hbegan with hbegan | hnow
    · obtain ⟨ops, hops, -⟩ := h.buffer? hbegan
      obtain ⟨buffer', hb', hstep⟩ := hs.settled hops
      obtain rfl : buffer' = buffer := Option.some.inj (hb'.symm.trans hb)
      rcases hstep i hsettled with hbefore | haccounted | ⟨s', m', rfl, rfl, hanswers⟩
      · exact (ih hbegan hops hbefore).step hs
      · -- the run itself takes into account none but its branches
        have hmem : (g.buffer, i) ∈ t.openBranches := List.count_pos_iff.1 (by omega)
        exact absurd (h.lt_of_mem_openBranches hbegan hmem) (by omega)
      · exact .now h hanswers
    · -- a new buffer has settled nothing
      rw [Option.mem_toList] at hnow
      cases hnow
      obtain rfl := Option.some.inj (hs.opened.symm.trans hb)
      exact absurd hsettled List.not_mem_nil

/-- While a run lasts whose buffer is closed because all branches are in, as many of its
branches are missing as numbers from outside are settled, each of these came with a reply, and
without such a reply all branches are in. -/
theorem History.complete (h : History past t) (hbegan : .began s targets m b g ∈ past)
    (htargets : 1 ≤ targets.length)
    (hended : ∀ r ∈ past.filterMap RunEvent.ended, r.buffer ≠ g.buffer)
    (hb : t.bus.buffer? g.buffer = some buffer) (hreason : buffer.reason = some .allBranches) :
    (Buffer.missing targets.length buffer.settled).length =
        (Buffer.foreign targets.length buffer.settled).length ∧
      (∀ i ∈ Buffer.foreign targets.length buffer.settled, Replied History past t g.buffer i) ∧
      ((∀ i, targets.length ≤ i → ¬ Replied History past t g.buffer i) →
        ∀ i < targets.length, i ∈ buffer.settled) := by
  obtain ⟨ops, hops, hcontributes⟩ := h.buffer? hbegan
  obtain rfl := Option.some.inj (hops.symm.trans hb)
  have hclose : .close .allBranches ∉ ops := fun hmem =>
    Bool.false_ne_true (hcontributes hended _ hmem)
  have hnodup := Buffer.nodup_settled_performAll (b := Buffer.opened g.correlation
    (s.limitsFor targets.length m b.evaluator)) List.nodup_nil ops
  have hexpected : 1 ≤ (s.limitsFor targets.length m b.evaluator).expected := htargets
  have hlength := (Buffer.Accounts.opened g.correlation hexpected).length_settled_performAll
    rfl hclose hreason
  have hcount := Buffer.length_missing hnodup hlength
  have hreplied (i : Nat) (hi : i ∈ Buffer.foreign targets.length _) :
      Replied History past t g.buffer i :=
    h.replied_of_foreign hbegan hb (of_decide_eq_true (List.mem_filter.1 hi).2)
      (List.mem_filter.1 hi).1
  refine ⟨hcount, hreplied, fun hnone => Buffer.missing_eq_nil.1 ?_⟩
  rw [← List.length_eq_zero_iff]
  refine hcount.trans (List.length_eq_zero_iff.2 (Buffer.foreign_eq_nil.2 fun i hi => ?_))
  by_contra hforeign
  have hout : targets.length ≤ i := Nat.le_of_not_lt hforeign
  exact hnone i hout (h.replied_of_foreign hbegan hb hout hi)

/-! ## A run without any of its branches

The only branch of the run waits for its reply. The reply that comes carries the number 7. -/

open Repeated in
/-- A run that is closed because all branches are in may have none: a reply under a number
that is none of its branches is accepted, and nothing else is expected. -/
theorem foreign_reply_closes : ∃ (past : List RunEvent) (t : Traffic) (s : Scatter)
      (targets : List Mediator) (m : Message) (b : Bus) (g : Gathering) (reply : Message),
    History past t ∧ .began s targets m b g ∈ past ∧ targets.length = 1 ∧
    (t.bus.buffer? g.buffer).map (fun b => (b.isClosed, b.settled, b.awaiting)) =
      some (false, [], 1) ∧
    s.AnswersFor reply t.bus g.buffer 7 ∧ (s.deliver reply t.bus).1 = .ok .accepted ∧
    ((s.deliver reply t.bus).2.buffer? g.buffer).map
      (fun b => (b.reason, b.results.map BranchResult.branch, b.excluded)) =
        some (some .allBranches, [7], 0) :=
  ⟨_, ⟨waiting.2.1, [waiting.1]⟩, orders, [ask], request 0, start, firstRun,
    (request 9).setProperty Property.correlation (.text "x") |>.setProperty Property.branchIndex
      (.int 7), history_waiting, List.mem_cons_self, rfl, rfl, ⟨rfl, rfl⟩, rfl, rfl⟩

end ServiceBus.Traffic
