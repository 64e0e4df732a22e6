import ServiceBus.Proofs.Buffer.Complete
import ServiceBus.Proofs.Traffic.Awaited
import ServiceBus.Proofs.Time
import ServiceBus.Proofs.Traffic.Log

/-
ServiceBus.Proofs.Traffic.Schedule — when the branches of a run start, and what is left when
all of them have returned.

The log of a run says in which order its branches started (`Log.scheduled`). What is known of
each start is in `Log.started`: the target and the run, the fork and its marks, and that the
buffer was open and the deadline had not rung. What is known of each end is in `Log.ended`:
afterwards the branch is settled, or it waits for a reply, or the buffer is closed.
`Log.schedule` puts this together.

A deadline is looked at by its timer, and the clock may be past it before the timer rings.
So a branch may start after the deadline (`start_after_deadline`).
-/
namespace ServiceBus

open Bus

/-- The branch has stopped for now and waits for a reply. -/
def BranchEnd.Awaits (finish : BranchEnd) : Prop :=
  finish.reply.verdict = .ok false ∧ Scatter.awaitsReply finish.message = true

/-! ## A branch before and after -/

/-- The message of a branch has an identity of its own, and the marks of its run and its
number. -/
theorem Scatter.branch_tagged (s : Scatter) (correlation : String) (index : Nat) (m : Message)
    (bus : Bus) :
    (s.branch correlation index m bus).1.id = bus.freshId.1 ∧
      (s.branch correlation index m bus).1.property? Property.correlation =
        some (.text correlation) ∧
      (s.branch correlation index m bus).1.property? Property.branchIndex = some (.int index) := by
  refine ⟨rfl, ?_, ?_⟩
  · simp [branch, Message.property?, Message.setProperty, Message.pushFrame,
      show Property.correlation ≠ Property.branchAsync by decide,
      show Property.correlation ≠ Property.branchIndex by decide]
  · simp [branch, Message.property?, Message.setProperty, Message.pushFrame,
      show Property.branchIndex ≠ Property.branchAsync by decide]

/-- The outcome of a branch is that of a broken rule, or one that waits for a reply, or it
brings the branch in. -/
theorem Scatter.acceptance_cases (s : Scatter) (index : Nat) (m : Message)
    (outcome : Except Failure Bool) (ev : Evaluator) :
    (∃ cause, outcome = .error (.invariant cause)) ∨ (outcome = .ok false ∧ awaitsReply m = true) ∨
      ∃ op, s.acceptance index m outcome ev = some op ∧ op.settles = some index := by
  unfold acceptance
  split
  · refine .inr (.inr ⟨_, rfl, ?_⟩)
    unfold contribution
    split <;> rfl
  · cases hawaits : awaitsReply m with
    | true => exact .inr (.inl ⟨rfl, rfl⟩)
    | false => exact .inr (.inr ⟨_, rfl, rfl⟩)
  · exact .inl ⟨_, rfl⟩
  · exact .inr (.inr ⟨_, rfl, rfl⟩)

/-- A run ends where one of its branches has broken a rule. -/
theorem Flow.event?_of_broken {finish : BranchEnd} {cause : InvariantFault}
    (hbroken : finish.reply.verdict = .error (.invariant cause)) (bus : Bus) :
    ∀ {f : Flow}, f.branchEnd? = some finish → ∃ m, f.event? bus = some (.broken finish.gathering m)
  | .busy .., h => by simp [branchEnd?] at h
  | .gathering .., h => by simp [branchEnd?] at h
  | .branching m g i branch others k, h => by
      simp only [branchEnd?] at h
      simp only [event?]
      cases hf : branch.finished? with
      | some outcome =>
        obtain ⟨copy, r⟩ := outcome
        simp only [hf, Option.some.injEq] at h
        subst h
        exact ⟨m, by simp [Scatter.accept, hbroken]⟩
      | none =>
        simp only [hf] at h
        exact event?_of_broken hbroken bus h

namespace Traffic

section Runs

variable {past : List RunEvent} {moves earlier later : List BranchMove} {t : Traffic} {s : Scatter}
  {targets : List Mediator} {m : Message} {b : Bus} {g : Gathering}

/-- A branch that was taken into account is settled for good, or it waits for a reply, or the
buffer of its run is closed, unless it has broken a rule and so ended the run. -/
theorem Log.ended {finish : BranchEnd} (h : Log past moves t)
    (hbegan : .began s targets m b g ∈ past)
    (hwhole : ∀ g' m', .broken g' m' ∈ past → g'.buffer ≠ g.buffer)
    (hmem : .ended finish ∈ moves) (hrun : finish.gathering.buffer = g.buffer) {buffer : Buffer}
    (hb : t.bus.buffer? g.buffer = some buffer) :
    buffer.isClosed = true ∨ finish.index ∈ buffer.settled ∨ finish.Awaits := by
  obtain ⟨earlier, later, rfl⟩ := List.append_of_mem hmem
  obtain ⟨past₁, e, t₁, t₂, past₂, rfl, hbegan₁, hlog, hlogged, hsince⟩ :=
    h.split_of_began hbegan hrun
  obtain ⟨before, after, f, f', hflows, -, hstep, hmove, hevent⟩ := hlogged.exists_flow
  have hend := Flow.branchEnd?_of_ended hmove
  obtain ⟨cause, hbroken⟩ | hawaits | ⟨op, hop, hsettles⟩ :=
    finish.gathering.scatter.acceptance_cases finish.index finish.message finish.reply.verdict
      t₁.bus.evaluator
  · obtain ⟨m', hbroken⟩ := Flow.event?_of_broken hbroken t₁.bus hend
    exact absurd hrun (hwhole finish.gathering m' (by simp [← hevent, hbroken]))
  · exact .inr (.inr hawaits)
  · -- the outcome goes to the buffer, and later contributions do not undo it
    obtain ⟨ops, hops, -⟩ := hlog.history.buffer? hbegan₁
    generalize (Buffer.opened g.correlation _).performAll ops = buffer₁ at hops
    have hbuffers := Flow.buffers_of_branchEnd hend hstep
    have hb₂ : t₂.bus.buffer? g.buffer = some (buffer₁.perform op) := by
      rw [Bus.buffer?, hbuffers, ← Bus.buffer?, buffer?_updateBuffer, if_pos hrun, hops, hop]
      rfl
    obtain ⟨rest, hrest, -⟩ := hsince.buffer? hb₂
    obtain rfl := Option.some.inj (hrest.symm.trans hb)
    obtain hclosed | hsettled := Buffer.settled_or_closed (b := buffer₁) hsettles
    · refine .inl ?_
      rw [Buffer.isClosed, Buffer.performAll_reason_of_closed hclosed]
      exact hclosed
    · exact .inr (.inl (Buffer.mem_settled_performAll hsettled rest))

/-- Where all branches of a run have returned, its buffer is closed, or one of them waits for
a reply and is not settled. -/
theorem Log.closed_or_awaits (h : Log past moves t) (hbegan : .began s targets m b g ∈ past)
    (htargets : 1 ≤ targets.length)
    (hwhole : ∀ g' m', .broken g' m' ∈ past → g'.buffer ≠ g.buffer)
    (hall : ∀ i < targets.length, i ∈ BranchMove.ends g.buffer moves) {buffer : Buffer}
    (hb : t.bus.buffer? g.buffer = some buffer) :
    buffer.isClosed = true ∨ ∃ finish, .ended finish ∈ moves ∧
      finish.gathering.buffer = g.buffer ∧ finish.index < targets.length ∧
      finish.index ∉ buffer.settled ∧ finish.Awaits := by
  cases hopen : buffer.isClosed with
  | true => exact .inl rfl
  | false =>
    right
    -- an open buffer has settled fewer branches than there are
    obtain ⟨excluded, haccounts⟩ := h.history.accounts hbegan htargets hb hopen
    have hlimits : buffer.limits.expected = targets.length := by
      obtain ⟨ops, hops, -⟩ := h.history.buffer? hbegan
      obtain rfl := Option.some.inj (hops.symm.trans hb)
      rw [Buffer.performAll_limits]
      rfl
    have hfew : buffer.settled.length < targets.length := by
      rw [haccounts.length_settled, ← hlimits]
      exact haccounts.expects hopen
    obtain ⟨i, hi, hnew⟩ : ∃ i < targets.length, i ∉ buffer.settled := by
      by_contra hnone
      push Not at hnone
      have hsub := (List.nodup_range (n := targets.length)).subperm fun i hi =>
        hnone i (List.mem_range.1 hi)
      have hle := hsub.length_le
      rw [List.length_range] at hle
      omega
    obtain ⟨move, hmove, hend⟩ := List.mem_filterMap.1 (hall i hi)
    cases move with
    | started start => simp [BranchMove.endIn?] at hend
    | ended finish =>
      obtain ⟨hrun, rfl⟩ : finish.gathering.buffer = g.buffer ∧ finish.index = i := by
        simpa [BranchMove.endIn?] using hend
      obtain hclosed | hsettled | hawaits := h.ended hbegan hwhole hmove hrun hb
      · simp [hopen] at hclosed
      · exact absurd hsettled hnew
      · exact ⟨finish, hmove, hrun, hi, hnew, hawaits⟩

/-! ## The start of a branch -/

/-- The run starts the branch on a fork of its message: with the next target, while the buffer
is open and the deadline has not rung, and if branches run one after the other, after the
branches before it have returned. -/
structure StartsNext (s : Scatter) (targets : List Mediator) (m : Message) (g : Gathering)
    (earlier : List BranchMove) (start : BranchStart) : Prop where
  target : targets[start.index]? = some start.target
  fork : start.fork = (s.branch g.correlation start.index m start.bus).1
  identity : start.fork.id = start.bus.freshId.1
  correlation : start.fork.property? Property.correlation = some (.text g.correlation)
  index : start.fork.property? Property.branchIndex = some (.int start.index)
  entered : ∃ (past : List RunEvent) (t : Traffic) (f f' : Flow) (bus' : Bus), Log past earlier t ∧
    t.bus = start.bus ∧ f ∈ t.flows ∧ f.step t.bus = some (f', bus') ∧ f.Starts start f'
  opened : start.bus.isBufferClosed g.buffer = false
  inTime : ∀ due, (g.run m).due = some due → start.bus.rung < due
  inOrder : BranchMove.starts g.buffer earlier = List.range start.index
  inTurn : s.config.parallel = false →
    BranchMove.ends g.buffer earlier = List.range start.index

theorem Log.started {start : BranchStart} (h : Log past (earlier ++ .started start :: later) t)
    (hbegan : .began s targets m b g ∈ past) (hrun : start.gathering.buffer = g.buffer) :
    StartsNext s targets m g earlier start := by
  obtain ⟨past₁, e, t₁, t₂, past₂, rfl, hbegan₁, hlog, hlogged, -⟩ := h.split_of_began hbegan hrun
  obtain ⟨waiting, running, hmem, hwaiting, hturn⟩ := hlogged.goes.of_started
  have hstands := hlog.scheduled hbegan₁
  obtain ⟨hscatter, hall, hnumbers⟩ := hlog.history.numbers hbegan₁
  obtain ⟨hindex, hget, -⟩ := hstands.next hnumbers hmem hrun hwaiting
  -- the run is the one that has begun
  have hsame : start.run = g.run m := hlog.history.run_of_mem_progress hbegan₁ hmem hrun
  have hfork : start.fork = (s.branch g.correlation start.index m start.bus).1 := by
    have hm : start.message = m := congrArg Run.message hsame
    have hs : start.gathering.scatter = g.scatter := congrArg Run.scatter hsame
    have hc : start.gathering.correlation = g.correlation := congrArg Run.correlation hsame
    rw [BranchStart.fork, hm, hs, hc, hscatter]
  obtain ⟨before, after, f, f', hflows, -, hstep, hmove, -⟩ := hlogged.exists_flow
  obtain ⟨hbus, hopen, hrung⟩ := Flow.open_of_started hmove
  have hentered := Flow.starts_of_step hmove hstep
  have hunder : f ∈ t₁.flows := by simp [hflows]
  obtain ⟨hidentity, hcorrelation, hnumber⟩ :=
    s.branch_tagged g.correlation start.index m start.bus
  refine ⟨?_, hfork, hfork ▸ hidentity, hfork ▸ hcorrelation, hfork ▸ hnumber,
    ⟨past₁, t₁, f, f', t₂.bus, hlog, hbus.symm, hunder, hstep, hentered⟩, ?_, ?_, ?_,
    fun hseq => ?_⟩
  · rw [hall, List.getElem?_zip_eq_some] at hget
    exact hget.2
  · rw [hbus, ← hrun, hopen]
  · intro due hdue
    have hdue : start.run.due = some due := hsame ▸ hdue
    obtain ⟨timer, htimer, rfl⟩ := Option.map_eq_some_iff.1 hdue
    rw [htimer, Option.any_some, hasRung, decide_eq_false_iff_not] at hrung
    exact hbus ▸ Nat.lt_of_not_le hrung
  · rw [hindex]
    exact hstands.inOrder
  · have hs : start.gathering.scatter = g.scatter := congrArg Run.scatter hsame
    have hidle := hturn.resolve_left (by simp [hs, hscatter, hseq])
    rw [hindex]
    exact hstands.ends_of_idle (by rw [hscatter, hseq]) hmem hrun hidle

/-! ## The schedule of a run -/

/-- The branches of a run start in the order of its targets, each one at most once and as
`StartsNext` says. If they run one after the other, at most one has started and not returned
at any time. Where all of them have returned, and none by breaking a rule, the buffer is
closed or one of them is not settled because it waits for a reply. -/
theorem Log.schedule (h : Log past moves t) (hbegan : .began s targets m b g ∈ past)
    (htargets : 1 ≤ targets.length) :
    (∃ k ≤ targets.length, BranchMove.starts g.buffer moves = List.range k) ∧
    (∀ earlier start later, moves = earlier ++ .started start :: later →
      start.gathering.buffer = g.buffer → StartsNext s targets m g earlier start) ∧
    (s.config.parallel = false → BranchMove.ends g.buffer moves =
        List.range (BranchMove.ends g.buffer moves).length ∧
      (BranchMove.starts g.buffer moves).length ≤ (BranchMove.ends g.buffer moves).length + 1) ∧
    ((∀ g' m', .broken g' m' ∈ past → g'.buffer ≠ g.buffer) →
      (∀ i < targets.length, i ∈ BranchMove.ends g.buffer moves) →
      ∃ buffer, t.bus.buffer? g.buffer = some buffer ∧
        (buffer.isClosed = true ∨ ∃ finish, .ended finish ∈ moves ∧
          finish.gathering.buffer = g.buffer ∧ finish.index < targets.length ∧
          finish.index ∉ buffer.settled ∧ finish.Awaits)) := by
  have hstands := h.scheduled hbegan
  obtain ⟨hscatter, hwaiting, -⟩ := h.history.numbers hbegan
  refine ⟨⟨_, ?_, hstands.inOrder⟩, ?_, fun hseq => ?_, fun hwhole hall => ?_⟩
  · simpa [hwaiting] using hstands.within
  · rintro earlier start later rfl hrun
    exact h.started hbegan hrun
  · exact hstands.inTurn (by rw [hscatter, hseq])
  · obtain ⟨ops, hops, -⟩ := h.history.buffer? hbegan
    exact ⟨_, hops, h.closed_or_awaits hbegan htargets hwhole hall hops⟩

end Runs

/-! ## A start after the deadline

The branches of the outer run go one after the other, and the run may take 10 ms. Its first
branch is a run itself, whose only branch is a call that is handed off. The reply comes at
5 ms, and the clock is at 15 ms when the outer run goes on. -/

namespace Nested

def inner : Scatter where
  name := "inner"
  config := ⟨true, .json, .body, { correlation := some "id" }, none⟩
  aggregator := "inner"

def outer : Scatter where
  name := "outer"
  config := ⟨false, .json, .body, {}, some 10⟩
  aggregator := "outer"

def ask : Mediator := .call { name := "ask", transport := "channel" }

def note : Mediator := .recorder { id := "note", name := "note" }

def targets : List (Option String × Mediator) :=
  [(none, .scatter inner [(none, ask)]), (none, note)]

def request : Message := { id := ⟨0⟩ }

def start : Bus := { evaluator := fun _ _ => .ok (.text "x") }

def entry : Flow := .busy request (.mediate (.scatter outer targets)) []

def run : Gathering :=
  ⟨outer, start.freshId.1.text, 0, some ⟨10, 0⟩, [(0, .scatter inner [(none, ask)]), (1, note)]⟩

/-- Both runs wait for the reply. -/
def waiting : Flow × Bus × List RunEvent := advance 12 entry start

def reply : Message where
  id := ⟨9⟩
  properties := Dict.ofList [(Property.branchIndex, .int 0), (Property.correlation, .text "x")]

/-- The reply has come when the timers of the first 5 ms have rung. -/
def replied : Bus := (inner.deliver reply { waiting.2.1 with now := 5, rung := 5 }).2

/-- More time has passed, and no timer has rung since. -/
def passed : Bus := { replied with now := 15 }

theorem log_passed : Log waiting.2.2 (branchMoves 12 entry start) ⟨passed, [waiting.1]⟩ := by
  have hclock : waiting.2.1.now = 0 := rfl
  have hreplied : replied.now = 5 := rfl
  have h₀ : Log [] [] ⟨start, []⟩ := .fresh rfl rfl (Nat.le_refl _)
  have h₁ : Log [] [] ⟨start, [entry]⟩ :=
    h₀.step (.aside (.start [] request _ []) (.inr ⟨_, _, _, rfl⟩))
  have h₂ : Log ([] ++ waiting.2.2) ([] ++ branchMoves 12 entry start)
      ⟨waiting.2.1, [waiting.1]⟩ := Log.advance [] [] h₁ 12
  have rings : Step ⟨waiting.2.1, [waiting.1]⟩ none
      ⟨{ waiting.2.1 with now := 5, rung := 5 }, [waiting.1]⟩ :=
    .elsewhere _ rfl rfl (by rw [hclock]; exact Time.zero_le 5) (Nat.le_refl _)
  have h₃ := h₂.step (.aside rings (.inl (.refl _)))
  have h₄ := h₃.step (.aside (.reply _ inner reply) (.inl (.refl _)))
  have passes : Step ⟨replied, [waiting.1]⟩ none ⟨passed, [waiting.1]⟩ :=
    .elsewhere _ rfl rfl (by rw [hreplied]; decide) (by decide)
  have h₅ := h₄.step (.aside passes (.inl (.refl _)))
  simpa using h₅

/-- The first branch of the outer run is taken into account. -/
def returned : Flow × Bus × List RunEvent := advance 3 waiting.1 passed

/-- The start of the second branch. -/
def second : BranchStart :=
  ⟨request, { run with deadline := some ⟨10, 1⟩, waiting := [(1, note)] }, 1, note, returned.2.1⟩

def earlier : List BranchMove := branchMoves 12 entry start ++ branchMoves 3 waiting.1 passed

theorem log_second : Log (waiting.2.2 ++ returned.2.2) (earlier ++ [.started second])
    ⟨(advance 1 returned.1 returned.2.1).2.1, [(advance 1 returned.1 returned.2.1).1]⟩ := by
  have hreturned : Log _ earlier ⟨returned.2.1, [returned.1]⟩ := Log.advance [] [] log_passed 3
  have hnone : (advance 1 returned.1 returned.2.1).2.2 = [] := rfl
  have hsecond : branchMoves 1 returned.1 returned.2.1 = [.started second] := rfl
  have hstarted := Log.advance [] [] hreturned 1
  rwa [hnone, hsecond, List.append_nil] at hstarted

theorem run_began : .began outer (targets.map Prod.snd) request start run ∈
    waiting.2.2 ++ returned.2.2 := by
  have hfirst : waiting.2.2.head? = some (.began outer (targets.map Prod.snd) request start run) :=
    rfl
  exact List.mem_append_left _ (List.mem_of_mem_head? hfirst)

/-- The second branch starts after the first one has returned, while the timer of the deadline
has not rung. -/
theorem schedule_second : 1 ≤ (targets.map Prod.snd).length ∧
    StartsNext outer (targets.map Prod.snd) request run earlier second ∧
    BranchMove.ends 0 earlier = [0] := by
  have htargets : 1 ≤ (targets.map Prod.snd).length := by decide
  have hnext := (Log.schedule log_second run_began htargets).2.1 earlier second [] rfl rfl
  exact ⟨htargets, hnext, hnext.inTurn rfl⟩

end Nested

open Nested in
/-- A branch may start after the deadline of its run has passed: branches go one after the
other, and when the first one has returned, the clock is past the deadline though its timer
has not rung. -/
theorem start_after_deadline : ∃ (past : List RunEvent) (moves : List BranchMove) (t : Traffic)
      (s : Scatter) (targets : List Mediator) (m : Message) (b : Bus) (g : Gathering)
      (start : BranchStart) (due : Time),
    Log past moves t ∧ .began s targets m b g ∈ past ∧ s.config.parallel = false ∧
    .started start ∈ moves ∧ start.gathering.buffer = g.buffer ∧ (g.run m).due = some due ∧
    due = 10 ∧ start.bus.now = 15 :=
  ⟨_, _, _, outer, targets.map Prod.snd, request, Nested.start, run, second, 10, log_second,
    run_began, rfl, List.mem_append_right _ List.mem_cons_self, rfl, rfl, rfl, rfl⟩

end Traffic

end ServiceBus
