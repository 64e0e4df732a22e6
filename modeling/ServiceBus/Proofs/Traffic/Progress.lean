import ServiceBus.Proofs.Traffic.Branches
import Mathlib.Data.Multiset.AddSub
import Mathlib.Data.Multiset.MapFold
import Mathlib.Algebra.BigOperators.Group.List.Basic
import Mathlib.Algebra.Order.Group.Multiset

/-
ServiceBus.Proofs.Traffic.Progress — how far the runs of a flow have come.

A run has targets that wait, and branches that it has started and not taken into account
(`Progress`). `Flow.branchMove?` tells whether the next move of a flow starts a branch or
takes the end of one into account, and `Flow.moves_of_step` says what that is for the runs
in progress: a target that is started was the first to wait, and its number is running from
then on; a branch that ends was running. No other move changes either.
-/
namespace ServiceBus

/-! ## Starts and ends of branches -/

/-- A branch that its run starts on `bus`. -/
structure BranchStart where
  /-- The message of the run. -/
  message : Message
  gathering : Gathering
  index : Nat
  target : Mediator
  bus : Bus

namespace BranchStart

/-- The run that starts the branch. -/
def run (start : BranchStart) : Run := start.gathering.run start.message

/-- The message on which the target is started. -/
def fork (start : BranchStart) : Message :=
  (start.gathering.scatter.branch start.gathering.correlation start.index start.message
    start.bus).1

end BranchStart

/-- What a move does for a branch. -/
inductive BranchMove where
  | started (start : BranchStart)
  | ended (finish : BranchEnd)

/-- A run in progress. -/
structure Progress where
  run : Run
  /-- The targets not yet started, with their branch numbers. -/
  waiting : List (Nat × Mediator)
  /-- The branches that were started and are not yet taken into account. -/
  running : Multiset Nat

namespace Flow

open Bus

/-- The branch that a run starts as soon as it can go on. -/
def start? (m : Message) (g : Gathering) (branches : List (Nat × Flow)) (bus : Bus) :
    Option BranchStart :=
  match g.waiting, mayStart g branches with
  | (i, target) :: _, true => some ⟨m, g, i, target, bus⟩
  | _, _ => none

/-- The start or the end of a branch that the next move is, at whatever depth. -/
def branchMove? : Flow → Bus → Option BranchMove
  | .busy .., _ => none
  | .gathering m g branches _, bus =>
    if bus.isBufferClosed g.buffer || g.deadline.any bus.hasRung then none
    else (start? m g branches bus).map .started
  | .branching _ g i branch _ _, bus =>
    match branch.finished? with
    | some (m, r) => some (.ended ⟨g, i, m, r⟩)
    | none => branchMove? branch bus

/-- The flow after a move that starts a branch: the target is entered with the fork. -/
inductive Starts (start : BranchStart) : Flow → Flow → Prop where
  | here (waiting : List (Nat × Mediator)) (branches : List (Nat × Flow)) (k : List Pending) :
      Starts start (.gathering start.message start.gathering branches k)
        (.branching start.message { start.gathering with waiting } start.index
          (.busy start.fork (.mediate start.target) []) branches k)
  | within {branch branch' : Flow} (m : Message) (g : Gathering) (i : Nat)
      (others : List (Nat × Flow)) (k : List Pending) (h : Starts start branch branch') :
      Starts start (.branching m g i branch others k) (.branching m g i branch' others k)

mutual

/-- The runs that a flow is in the middle of. -/
def progress : Flow → Multiset Progress
  | .busy .. => 0
  | .gathering m g branches _ =>
    ⟨g.run m, g.waiting, (branches.map Prod.fst : List Nat)⟩ ::ₘ progressOf branches
  | .branching m g i branch others _ =>
    ⟨g.run m, g.waiting, (i :: others.map Prod.fst : List Nat)⟩ ::ₘ
      (progress branch + progressOf others)

/-- The runs that the branches of a flow are in the middle of. -/
def progressOf : List (Nat × Flow) → Multiset Progress
  | [] => 0
  | (_, f) :: rest => progress f + progressOf rest

end

theorem progressOf_eq (branches : List (Nat × Flow)) :
    progressOf branches = (branches.map fun branch => progress branch.2).sum := by
  induction branches with
  | nil => rfl
  | cons branch rest ih => rw [progressOf, ih]; rfl

/-- A flow that has come to its end is in the middle of no run. -/
theorem progress_of_finished? {f : Flow} {outcome : Message × Reply}
    (h : f.finished? = some outcome) : progress f = 0 := by
  unfold finished? at h
  split at h
  · rfl
  · simp at h

mutual

theorem map_run_progress : ∀ f : Flow, f.progress.map Progress.run = (f.runs : Multiset Run)
  | .busy .. => rfl
  | .gathering m g branches k => by
      simp [progress, runs, map_run_progressOf branches]
  | .branching m g i branch others k => by
      simp [progress, runs, map_run_progress branch, map_run_progressOf others]

theorem map_run_progressOf : ∀ branches : List (Nat × Flow),
    (progressOf branches).map Progress.run = (runsOf branches : Multiset Run)
  | [] => rfl
  | (_, f) :: rest => by
      simp [progressOf, runsOf, map_run_progress f, map_run_progressOf rest]

end

/-! ## What a start and an end are -/

section Start

variable {m : Message} {g : Gathering} {branches : List (Nat × Flow)} {bus : Bus}

theorem start?_of_waiting {i : Nat} {target : Mediator} {waiting : List (Nat × Mediator)}
    (hwaiting : g.waiting = (i, target) :: waiting) (hmay : mayStart g branches = true) :
    start? m g branches bus = some ⟨m, g, i, target, bus⟩ := by
  simp only [start?, hwaiting, hmay]

theorem start?_eq_none (h : ∀ i target waiting, g.waiting = (i, target) :: waiting →
    mayStart g branches = true → False) : start? m g branches bus = none := by
  unfold start?
  split
  · next hwaiting hmay => exact absurd hmay (h _ _ _ hwaiting)
  · rfl

theorem start?_eq_some {start : BranchStart} (h : start? m g branches bus = some start) :
    start.message = m ∧ start.gathering = g ∧ start.bus = bus ∧ mayStart g branches = true ∧
      ∃ waiting, g.waiting = (start.index, start.target) :: waiting := by
  unfold start? at h
  split at h
  · next hwaiting hmay =>
    obtain rfl := Option.some.inj h
    exact ⟨rfl, rfl, rfl, hmay, _, hwaiting⟩
  · simp at h

end Start

/-- The end of a branch is the one that the next move takes into account. -/
theorem branchEnd?_of_ended {finish : BranchEnd} {bus : Bus} :
    ∀ {f : Flow}, f.branchMove? bus = some (.ended finish) → f.branchEnd? = some finish
  | .busy .., h => by simp [branchMove?] at h
  | .gathering m g branches k, h => by
      simp only [branchMove?] at h
      split at h <;> simp at h
  | .branching m g i branch others k, h => by
      simp only [branchMove?] at h
      simp only [branchEnd?]
      cases hf : branch.finished? with
      | some outcome =>
        simp only [hf] at h ⊢
        exact congrArg some (BranchMove.ended.inj (Option.some.inj h))
      | none =>
        simp only [hf] at h ⊢
        exact branchEnd?_of_ended h

/-- A flow that has to wait neither starts a branch nor takes one into account. -/
theorem branchMove?_of_step_eq_none {f : Flow} {bus : Bus} (h : f.step bus = none) :
    f.branchMove? bus = none := by
  cases f with
  | busy m task k => rfl
  | gathering m g branches k =>
    simp only [step, gather] at h
    simp only [branchMove?]
    split at h
    · simp at h
    · split at h
      · simp at h
      · split at h
        · simp at h
        · next hnone => simp [start?_eq_none hnone]
  | branching m g i branch others k =>
    simp only [step] at h
    split at h
    · simp at h
    · split at h <;> simp at h

/-- A branch is started while the buffer of its run is open and its deadline has not rung. -/
theorem open_of_started {start : BranchStart} {bus : Bus} :
    ∀ {f : Flow}, f.branchMove? bus = some (.started start) → start.bus = bus ∧
      bus.isBufferClosed start.gathering.buffer = false ∧
      start.gathering.deadline.any bus.hasRung = false
  | .busy .., h => by simp [branchMove?] at h
  | .gathering m g branches k, h => by
      simp only [branchMove?] at h
      split at h
      · simp at h
      · next hopen =>
        obtain ⟨start, hstart, hsame⟩ := Option.map_eq_some_iff.1 h
        obtain rfl := BranchMove.started.inj hsame
        obtain ⟨-, rfl, rfl, -⟩ := start?_eq_some hstart
        exact ⟨rfl, by simpa using hopen⟩
  | .branching m g i branch others k, h => by
      simp only [branchMove?] at h
      split at h
      · simp at h
      · exact open_of_started h

/-- The target of a branch that is started is entered with its fork. -/
theorem starts_of_step {start : BranchStart} {bus bus' : Bus} {f' : Flow} :
    ∀ {f : Flow}, f.branchMove? bus = some (.started start) → f.step bus = some (f', bus') →
      f.Starts start f'
  | .busy .., h, _ => by simp [branchMove?] at h
  | .gathering m g branches k, h, hs => by
      simp only [branchMove?] at h
      split at h
      · simp at h
      · next hopen =>
        rw [Bool.or_eq_true, not_or] at hopen
        obtain ⟨start, hstart, hsame⟩ := Option.map_eq_some_iff.1 h
        obtain rfl := BranchMove.started.inj hsame
        obtain ⟨rfl, rfl, rfl, hmay, waiting, hwaiting⟩ := start?_eq_some hstart
        simp only [step, gather, if_neg hopen.1, if_neg hopen.2, hwaiting, hmay] at hs
        obtain ⟨rfl, -⟩ := Prod.mk.inj (Option.some.inj hs)
        exact .here waiting branches k
  | .branching m g i branch others k, h, hs => by
      simp only [branchMove?] at h
      simp only [step] at hs
      split at h
      · simp at h
      · next hf =>
        simp only [hf] at hs
        cases hinner : branch.step bus with
        | none => simp [branchMove?_of_step_eq_none hinner] at h
        | some next =>
          obtain ⟨branch', b⟩ := next
          simp only [hinner, Option.some.injEq, Prod.mk.injEq] at hs
          obtain ⟨rfl, -⟩ := hs
          exact .within m g i others k (starts_of_step h hinner)

end Flow

/-! ## What a move is for the runs in progress -/

namespace Progress

/-- What a move with the event `e` for the runs does to those in progress. -/
inductive Moves : Option RunEvent → Option BranchMove → Multiset Progress → Multiset Progress →
    Prop where
  /-- No run comes any further. -/
  | kept {e : Option RunEvent} {before after : Multiset Progress}
      (he : e.bind RunEvent.begun = none) (h : after ≤ before) : Moves e none before after
  /-- A run begins, with all its targets waiting. -/
  | began (s : Scatter) (targets : List Mediator) (m : Message) (b : Bus) (g : Gathering)
      {before after : Multiset Progress} (h : after ≤ ⟨g.run m, g.waiting, 0⟩ ::ₘ before) :
      Moves (some (.began s targets m b g)) none before after
  /-- The first target that waits is started, and if branches run one after the other no other
  one is running. -/
  | started (start : BranchStart) {waiting : List (Nat × Mediator)} {running : Multiset Nat}
      {rest after : Multiset Progress}
      (hwaiting : start.gathering.waiting = (start.index, start.target) :: waiting)
      (hturn : start.gathering.scatter.config.parallel = true ∨ running = 0)
      (h : after ≤ ⟨start.run, waiting, start.index ::ₘ running⟩ ::ₘ rest) :
      Moves none (some (.started start))
        (⟨start.run, start.gathering.waiting, running⟩ ::ₘ rest) after
  /-- A branch that was running is taken into account. -/
  | ended {e : Option RunEvent} (finish : BranchEnd) (m : Message)
      {waiting : List (Nat × Mediator)} {running : Multiset Nat} {rest after : Multiset Progress}
      (he : e.bind RunEvent.begun = none)
      (h : after ≤ ⟨finish.gathering.run m, waiting, running⟩ ::ₘ rest) :
      Moves e (some (.ended finish))
        (⟨finish.gathering.run m, waiting, finish.index ::ₘ running⟩ ::ₘ rest) after

/-- Other runs in progress are left alone. -/
theorem Moves.add {e : Option RunEvent} {move : Option BranchMove}
    {before after : Multiset Progress} (h : Moves e move before after)
    (others : Multiset Progress) : Moves e move (before + others) (after + others) := by
  cases h with
  | kept he h => exact .kept he (add_le_add_left h others)
  | began s targets m b g h =>
    exact .began s targets m b g (by simpa using add_le_add_left h others)
  | started start hwaiting hturn h =>
    rw [Multiset.cons_add]
    exact .started start hwaiting hturn (by simpa using add_le_add_left h others)
  | ended finish m he h =>
    rw [Multiset.cons_add]
    exact .ended finish m he (by simpa using add_le_add_left h others)

theorem Moves.cons {e : Option RunEvent} {move : Option BranchMove}
    {before after : Multiset Progress} (h : Moves e move before after) (other : Progress) :
    Moves e move (other ::ₘ before) (other ::ₘ after) := by
  rw [← Multiset.singleton_add, ← Multiset.singleton_add, add_comm _ before, add_comm _ after]
  exact h.add {other}

end Progress

namespace Flow

open Bus Progress

/-- The run whose branch is taken into account goes on without it, or is given up. -/
theorem progress_acceptBranch (m copy : Message) (g : Gathering) (i : Nat) (r : Reply)
    (others : List (Nat × Flow)) (k : List Pending) (bus : Bus) :
    (acceptBranch m g i (copy, r) others k bus).1.progress ≤
      ⟨g.run m, g.waiting, (others.map Prod.fst : List Nat)⟩ ::ₘ progressOf others := by
  cases ha : g.scatter.accept g.buffer i copy r.verdict bus with
  | mk result b =>
    cases result with
    | error e =>
      simp only [acceptBranch, ha, answer, progress]
      exact Multiset.zero_le _
    | ok done =>
      cases hd : g.deadline with
      | none => simp [acceptBranch, ha, hd, progress]
      | some t => simp [acceptBranch, ha, hd, progress, Gathering.run]

theorem moves_of_gather {m : Message} {g : Gathering} {branches : List (Nat × Flow)}
    {k : List Pending} {bus bus' : Bus} {f : Flow}
    (h : gather m g branches k bus = some (f, bus')) :
    Moves ((gathering m g branches k).event? bus) ((gathering m g branches k).branchMove? bus)
      (gathering m g branches k).progress f.progress := by
  have concluded (b : Bus) (hc : conclude m g k b = (f, bus')) : f.progress = 0 := by
    unfold conclude at hc
    split at hc <;> exact (congrArg progress (Prod.mk.inj hc).1).symm
  simp only [gather] at h
  simp only [event?, branchMove?]
  split at h
  · next hclosed =>
    simp only [hclosed, Bool.true_or, if_true]
    exact .kept rfl (concluded _ (Option.some.inj h) ▸ Multiset.zero_le _)
  · next hclosed =>
    split at h
    · next hrung =>
      simp only [if_neg hclosed, hrung, Bool.or_true, if_true]
      exact .kept rfl (concluded _ (Option.some.inj h) ▸ Multiset.zero_le _)
    · next hrung =>
      have hopen : ¬(bus.isBufferClosed g.buffer || g.deadline.any bus.hasRung) = true := by
        simp [hclosed, hrung]
      simp only [if_neg hclosed, if_neg hrung, if_neg hopen]
      split at h
      · next i target waiting hwaiting hmay =>
        obtain ⟨rfl, -⟩ := Prod.mk.inj (Option.some.inj h)
        simp only [start?_of_waiting hwaiting hmay, Option.map_some, progress]
        refine .started ⟨m, g, i, target, bus⟩ hwaiting ?_ ?_
        · rw [mayStart, Bool.or_eq_true, List.isEmpty_iff] at hmay
          exact hmay.imp_right fun hnone => by simp [hnone]
        · rw [zero_add]
          rfl
      · next hnone =>
        rw [start?_eq_none hnone, Option.map_none]
        split at h
        · next t i branch others hawake =>
          obtain ⟨rfl, -⟩ := Prod.mk.inj (Option.some.inj h)
          have hperm := perm_of_firstAwake? hawake
          refine .kept rfl (le_of_eq ?_)
          have hrunning : (branches.map Prod.fst).Perm (i :: others.map Prod.fst) :=
            hperm.map Prod.fst
          simp only [progress, progressOf_eq, Multiset.coe_eq_coe.2 hrunning,
            (hperm.map fun branch => progress branch.2).sum_eq, List.map_cons, List.sum_cons]
        · obtain ⟨hcut, -⟩ := cut_of_move h
          obtain ⟨m', r, p, k', rfl, -⟩ := cut?_eq_some hcut
          exact .kept rfl (Multiset.zero_le _)

/-- A move starts the branch that it is a start of, takes into account the one that it is the
end of, and changes nothing else for the runs in progress. -/
theorem moves_of_step {bus bus' : Bus} {f' : Flow} :
    ∀ {f : Flow}, f.step bus = some (f', bus') →
      Moves (f.event? bus) (f.branchMove? bus) f.progress f'.progress
  | .busy m task k, h => by
      obtain ⟨s, targets, g, -, rfl, he⟩ | ⟨he, -, m', task', k', rfl⟩ := work_cases h
      · rw [he]
        exact .began s _ m bus g le_rfl
      · rw [he]
        exact .kept rfl le_rfl
  | .gathering m g branches k, h => moves_of_gather h
  | .branching m g i branch others k, h => by
      simp only [step] at h
      simp only [event?, branchMove?, progress]
      cases hf : branch.finished? with
      | some outcome =>
        obtain ⟨copy, r⟩ := outcome
        simp only [hf, Option.some.injEq] at h
        have hafter := progress_acceptBranch m copy g i r others k bus
        rw [h] at hafter
        simp only [progress_of_finished? hf, zero_add]
        refine .ended ⟨g, i, copy, r⟩ m ?_ hafter
        split <;> rfl
      | none =>
        simp only [hf] at h
        cases hs : branch.step bus with
        | some next =>
          obtain ⟨branch', b⟩ := next
          simp only [hs, Option.some.injEq, Prod.mk.injEq] at h
          obtain ⟨rfl, rfl⟩ := h
          exact ((moves_of_step hs).add (progressOf others)).cons _
        | none =>
          simp only [hs, Option.some.injEq, Prod.mk.injEq] at h
          obtain ⟨rfl, rfl⟩ := h
          rw [event?_of_step_eq_none hs, branchMove?_of_step_eq_none hs]
          refine .kept rfl (le_of_eq ?_)
          simp [progress, progressOf_eq, add_comm]

end Flow

end ServiceBus
