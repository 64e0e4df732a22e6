import ServiceBus.Flow.Call

/-
ServiceBus.Flow.Step — how a flow goes on.

`Flow.step` makes one small move, and has none where the flow has come to its
end or waits for a timer or for its branches. `Flow.poll` makes moves until
then. Flows that share a bus may be polled in any order; between two polls
others may change the bus, and the clock may be advanced.

A flow that gathers branches looks first whether its buffer is closed, then
whether its deadline has passed, and only then at its branches: at those not
yet started in the order of the targets, then at the one whose timer rang
first.
-/
namespace ServiceBus

namespace Flow

/-! ## Tasks and replies -/

/-- Runs the children of a sequence from `position` on; behind the last one the
sequence takes off its frame, and its fault handler if that is still there. -/
def children (s : SequenceRun) (position : Nat) (rest : List Mediator) (m : Message)
    (k : List Pending) : Flow :=
  match rest with
  | child :: rest =>
    .busy (m.movePosition position) (.mediate child) (.children s position rest :: k)
  | [] =>
    let m := m.popFrame
    let m := if s.guarded && m.headHandler?.map FaultHandler.name == some s.name then
        { m with faultHandlers := m.faultHandlers.tail }
      else m
    answer m (.proceed true) k

/-- What a recorder does to a message. -/
def record (r : Recorder) (m : Message) (k : List Pending) : Flow :=
  match r.error with
  | some e => answer m (.failed e) k
  | none =>
    let m := r.properties.foldl (fun m (name, v) => m.setProperty name v) m
    let m := match r.payload with
      | some p => m.setPayload p
      | none => m
    if r.divert then runHandler m (.proceed false) (.proceed false) k
    else answer m (.proceed r.result) k

/-- Enters a mediator. -/
def mediate (mediator : Mediator) (m : Message) (k : List Pending) (bus : Bus) : Flow × Bus :=
  match mediator with
  | .recorder r =>
    let bus := bus.enter r.name
    let bus := { bus with seen := bus.seen.insert r.id (m.id :: (bus.seen.get? r.id).getD []) }
    match r.delay with
    | some delay =>
      let (t, bus) := bus.startTimer delay
      (.busy m (.sleep t) (.record r :: k), bus)
    | none => (record r m k, bus)
  | .editor name edits result =>
    (.busy m (.edit edits []) (.reply (.proceed result) :: k), bus.enter name)
  | .call c => call c m k bus
  | .sequence name kind childList onError =>
    let m := m.pushFrame (Frame.start kind name)
    match onError with
    | some handler =>
      let (id, bus) := bus.freshId
      (children ⟨name, true⟩ 0 childList (m.pushHandler ⟨id, name, handler⟩) k, bus)
    | none => (children ⟨name, false⟩ 0 childList m k, bus)
  | .scatter s targets =>
    match s.begin (targets.map Prod.snd) m bus with
    | (.error e, bus) => (answer m (.failed e) k, bus)
    | (.ok g, bus) => (.gathering m g [] k, bus)

/-- Performs edits in order. -/
def edit (edits : List (Edit Mediator)) (findings : List Finding) (m : Message)
    (k : List Pending) (bus : Bus) : Flow × Bus :=
  match edits with
  | [] => (answer m (.edited findings.reverse) k, bus)
  | .handleFault :: rest =>
    (runHandler m (.proceed true) (.proceed false) (.edits rest findings :: k), bus)
  | e :: rest =>
    let (finding, m, bus) := e.perform m bus
    (.busy m (.edit rest (finding :: findings)) k, bus)

/-- What a channel does with a message it was given. One that fails, or never ends, leaves
the message as it is. -/
def deliver (outcome : Outcome) (edits : List (Edit Mediator)) (m : Message) (k : List Pending)
    (bus : Bus) : Flow × Bus :=
  let succeed (m : Message) : Flow := .busy m (.edit edits []) (.reply (.proceed true) :: k)
  match outcome with
  | .success => (succeed m, bus)
  | .respond p => (succeed { m.setPayload p with response := true }, bus)
  | .fault f => (answer m (.refused f) k, bus)
  | .hang => (.busy m .hang k, bus)
  | .after delay rest =>
    let (t, bus) := bus.startTimer delay
    (.busy m (.sleep t) (.transmit rest edits :: k), bus)

/-- Hands a reply to the work that waits for it. -/
def resume (r : Reply) (m : Message) (p : Pending) (k : List Pending) (bus : Bus) :
    Flow × Bus :=
  match p with
  | .children s position rest =>
    match r.verdict with
    | .ok true => (children s (position + 1) rest m k, bus)
    | .ok false => (answer m (.proceed false) k, bus)
    | .error e => (answer m (.failed e) k, bus)
  | .record recorder => (record recorder m k, bus)
  | .edits rest findings =>
    let finding : Finding := match r.verdict with
      | .ok flag => .flag flag
      | .error e => .failed e
    (.busy m (.edit rest (finding :: findings)) k, bus)
  | .reply r' =>
    match r with
    | .failed e => (answer m (.failed e) k, bus)
    | _ => (answer m r' k, bus)
  | .blockingCall c envelope handler => (afterBlockingCall c envelope handler r m k, bus)
  | .handOff _ => (afterHandOff r m k, bus)
  | .outOnly _ left => (afterOutOnly left r m k, bus)
  | .implicit mode =>
    match r with
    | .refused f =>
      let (failure, m) := Call.implicitFailure mode f m
      (answer m (.failed failure) k, bus)
    | _ => (answer m r k, bus)
  | .attempt d started _ =>
    match r with
    | .refused f => undelivered d started f m k bus
    | _ => delivered d started m k bus
  | .retry d => (again d m k, bus)
  | .transmit outcome edits => (.busy m (.transmit outcome edits) k, bus)

/-! ## Waiting -/

/-- The innermost attempt that is due to be cut off: its fault, the message as the
attempt leaves it, and the work from the attempt on. -/
def cut? (m : Message) (bus : Bus) : List Pending → Option Flow
  | [] => none
  | .outOnly _ left :: k => cut? left bus k
  | .attempt d started (some t) :: k =>
    if bus.hasRung t then
      some (answer m (.refused (cutOff d)) (.attempt d started (some t) :: k))
    else cut? m bus k
  | _ :: k => cut? m bus k

/-- The timers that may cut off an attempt. -/
def cutTimers : List Pending → List Timer
  | [] => []
  | .attempt _ _ (some t) :: k => t :: cutTimers k
  | _ :: k => cutTimers k

/-- A timer before all others. -/
def atOnce : Timer := ⟨0, 0⟩

mutual

/-- All timers that a flow waits for. -/
def timers : Flow → List Timer
  | .busy _ (.sleep t) k => t :: cutTimers k
  | .busy _ _ k => cutTimers k
  | .gathering _ g branches k => g.deadline.toList ++ (timersOf branches ++ cutTimers k)
  | .branching _ g _ branch others k =>
    g.deadline.toList ++ (timers branch ++ timersOf others ++ cutTimers k)

/-- All timers that the branches of a flow wait for. -/
def timersOf : List (Nat × Flow) → List Timer
  | [] => []
  | (_, f) :: rest => timers f ++ timersOf rest

end

mutual

/-- Why a flow can go on: the timer that rang first of those it waits for, or
`atOnce` if it does not wait; none if it has to wait. -/
def wake? (bus : Bus) : Flow → Option Timer
  | .busy _ (.sleep t) k => Timer.first? ((t :: cutTimers k).filter bus.hasRung)
  | .busy _ .hang k => Timer.first? ((cutTimers k).filter bus.hasRung)
  | .busy _ _ _ => some atOnce
  | .gathering _ g branches k =>
    if bus.isBufferClosed g.buffer then some atOnce
    else Timer.first? ((g.deadline.toList ++ cutTimers k).filter bus.hasRung ++ wakes bus branches)
  | .branching .. => some atOnce

/-- Why the branches of a flow can go on, for those that can. -/
def wakes (bus : Bus) : List (Nat × Flow) → List Timer
  | [] => []
  | (_, f) :: rest => (wake? bus f).toList ++ wakes bus rest

end

/-- The branch that can go on and whose timer rang first, and the others. -/
def firstAwake? (bus : Bus) : List (Nat × Flow) → Option (Timer × (Nat × Flow) × List (Nat × Flow))
  | [] => none
  | (i, f) :: rest =>
    match wake? bus f, firstAwake? bus rest with
    | none, none => none
    | none, some (t, found, others) => some (t, found, (i, f) :: others)
    | some t, none => some (t, (i, f), rest)
    | some t, some (t', found, others) =>
      if t'.before t then some (t', found, (i, f) :: others) else some (t, (i, f), rest)

/-! ## Moves -/

/-- Ends a gathering whose buffer is closed. -/
def conclude (m : Message) (g : Gathering) (k : List Pending) (bus : Bus) : Flow × Bus :=
  match Scatter.conclude g m bus with
  | (.ok report, m, bus) => (answer m (.gathered report) k, bus)
  | (.error e, m, bus) => (answer m (.failed e) k, bus)

/-- Whether the next target may be started: at once, or if branches run one after
the other only while no other one runs. -/
def mayStart (g : Gathering) (branches : List (Nat × Flow)) : Bool :=
  g.scatter.config.parallel || branches.isEmpty

/-- A move of a flow that waits for its branches. -/
def gather (m : Message) (g : Gathering) (branches : List (Nat × Flow)) (k : List Pending)
    (bus : Bus) : Option (Flow × Bus) :=
  if bus.isBufferClosed g.buffer then some (conclude m g k bus)
  else if g.deadline.any bus.hasRung then
    some (conclude m g k (bus.updateBuffer g.buffer (·.close .timeout)))
  else
    match g.waiting, mayStart g branches with
    | (i, target) :: waiting, true =>
      let (copy, bus) := g.scatter.branch g.correlation i m bus
      some (.branching m { g with waiting } i (.busy copy (.mediate target) []) branches k, bus)
    | _, _ =>
      match firstAwake? bus branches with
      | some (_, (i, f), others) => some (.branching m g i f others k, bus)
      | none => (cut? m bus k).map fun f => (f, bus)

/-- Takes a branch that has come to its end into account. After that the deadline
is waited for anew. -/
def acceptBranch (m : Message) (g : Gathering) (index : Nat) (outcome : Message × Reply)
    (others : List (Nat × Flow)) (k : List Pending) (bus : Bus) : Flow × Bus :=
  let (copy, r) := outcome
  match g.scatter.accept g.buffer index copy r.verdict bus with
  | (.error e, bus) =>
    (answer m (.failed e) k, bus.forgetBuffer g.scatter.aggregator g.correlation)
  | (.ok (), bus) =>
    match g.deadline with
    | some t =>
      let deadline := some ⟨t.due, bus.nextTicket⟩
      (.gathering m { g with deadline } others k, { bus with nextTicket := bus.nextTicket + 1 })
    | none => (.gathering m g others k, bus)

/-- One move of a flow that is busy with a task of its own. -/
def work (m : Message) (task : Task) (k : List Pending) (bus : Bus) : Option (Flow × Bus) :=
  match task with
  | .mediate mediator => some (mediate mediator m k bus)
  | .edit edits findings => some (edit edits findings m k bus)
  | .attempt d => some (attempt d m k bus)
  | .transmit outcome edits => some (deliver outcome edits m k bus)
  | .sleep t =>
    if bus.hasRung t then some (answer m (.proceed true) k, bus)
    else (cut? m bus k).map fun f => (f, bus)
  | .hang => (cut? m bus k).map fun f => (f, bus)
  | .reply r =>
    match k with
    | [] => none
    | p :: k => some (resume r m p k bus)

/-- One move of a flow; none if it is at its end or has to wait. -/
def step : Flow → Bus → Option (Flow × Bus)
  | .busy m task k, bus => work m task k bus
  | .gathering m g branches k, bus => gather m g branches k bus
  | .branching m g i branch others k, bus =>
    match branch.finished? with
    | some outcome => some (acceptBranch m g i outcome others k bus)
    | none =>
      match step branch bus with
      | some (branch, bus) => some (.branching m g i branch others k, bus)
      | none => some (.gathering m g (others ++ [(i, branch)]) k, bus)

/-- Makes at most `limit` moves, until the flow waits or is at its end. -/
def run : Nat → Flow → Bus → Flow × Bus
  | 0, f, bus => (f, bus)
  | limit + 1, f, bus =>
    match step f bus with
    | some (f, bus) => run limit f bus
    | none => (f, bus)

/-- A bound on the moves of one turn that no flow of a finite script reaches. -/
def turn : Nat := 1000000000

/-- Lets a flow go on until it waits or is at its end. -/
def poll (f : Flow) (bus : Bus) : Flow × Bus := run turn f bus

end Flow

end ServiceBus
