import ServiceBus.Simulation.World

/-
ServiceBus.Simulation.Run — runs of steps under a clock that moves only when
everything waits.

A run takes its steps one after the other. Runs take turns in the order in
which they are listed: in a round, each goes on until it has to wait. Timers
ring between rounds. When a round moves nothing, the clock jumps to the next
timer. What takes longer than `longest` is given up; the message keeps the
state it had reached.
-/
namespace ServiceBus.Simulation

/-- The longest time that an operation may take, in milliseconds. -/
def longest : Nat := 1000000000

/-- What becomes of the reply to a flow. -/
inductive Goal where
  | verdict
  | report
  | outcome
  /-- One of several edits; `rest` are still to be performed, `found` is what came
  of those before, and the message itself may be the result. -/
  | findings (rest : List (Edit Mediator)) (found : List Finding) (showMessage : Bool)

mutual

/-- What a run is in the middle of. -/
inductive Activity where
  /-- A flow that holds the message of a name, and when it is given up. -/
  | flow (name : String) (flow : Flow) (limit : Timer) (goal : Goal)
  /-- Lets the other runs take their turns. -/
  | pause
  | wait (timer : Timer)
  | concurrent (runs : List Run)

/-- A run: what it is in the middle of, the steps to come, and the answers to the
steps taken, latest first. -/
inductive Run where
  | mk (current : Option Activity) (todo : List Step) (answers : List Answer)

end

namespace Run

/-- Whether all steps are answered. -/
def isDone : Run → Bool
  | mk none [] _ => true
  | _ => false

/-- The answers in the order of the steps. -/
def answered : Run → List Answer
  | mk _ _ answers => answers.reverse

end Run

/-- How far a step has come. -/
inductive Stage where
  | answered (result : Result) (shown : Option Message)
  | started (activity : Activity)
  /-- The turn of the run is over. -/
  | yielded (activity : Activity)

namespace World

/-- Lets a flow work on the message of a name. -/
def start (w : World) (name : String) (goal : Goal) (flow : Flow) (bus : Bus) : Stage × World :=
  let (limit, bus) := bus.startTimer longest
  (.started (.flow name flow limit goal), { w with bus }.hold name)

/-- Goes on with a list of edits. -/
def startEdits (w : World) (name : String) (m : Message) (edits : List (Edit Mediator))
    (found : List Finding) (showMessage : Bool) : Stage × World :=
  match edits with
  | [] =>
    if showMessage then (.answered (.message m) none, w.declare name m)
    else (.answered (.findings found.reverse) (some m), w.put name m)
  | e :: rest =>
    w.start name (.findings rest found showMessage) (.busy m (.edit [e] []) []) w.bus

/-- The frame that a choice stands for. -/
def chooseFrame (w : World) (name : String) (m : Message) : FrameChoice → Except Problem Frame
  | .given f => .ok f
  | .last => match w.frames.get? name with
    | some f => .ok f
    | none => .error .noFrame
  | .top => match m.continuation with
    | f :: _ => .ok f
    | [] => .error .noFrame

/-- Resumes a sequence behind the position of a frame, which must be its own. -/
def resumeAt (sequence : Mediator) (f : Frame) (m : Message) : Option Flow :=
  match sequence with
  | .sequence name kind children onError =>
    some <| if f.sequence ≠ name ∨ f.kind ≠ kind then
        Flow.answer m (.failed (.invariant (.foreignFrame f name))) []
      else
        Flow.children ⟨name, onError.isSome⟩ (f.position + 1) (children.drop (f.position + 1)) m []
  | _ => none

/-- Begins a step that takes time. -/
def begin (w : World) : Step → Except Problem (Stage × World)
  | .mediate mediatorName name => do
    let mediator ← w.mediator mediatorName
    let m ← w.message name
    return w.start name .verdict (.busy m (.mediate mediator) []) w.bus
  | .execute scatterName name => do
    let _ ← w.scatter scatterName
    let mediator ← w.mediator scatterName
    let m ← w.message name
    return w.start name .report (.busy m (.mediate mediator) []) w.bus
  | .faultResponse callName name fault => do
    let c ← w.call callName
    let m ← w.message name
    let (flow, bus) := Flow.faultResponse c fault m w.bus
    return w.start name .verdict flow bus
  | .resume sequenceName name choice => do
    let sequence ← w.mediator sequenceName
    let m ← w.message name
    match w.chooseFrame name m choice with
    | .error problem => return (.answered (.impossible problem) (some m), w)
    | .ok frame =>
      match resumeAt sequence frame m with
      | some flow => return w.start name .verdict flow w.bus
      | none => throw (.noMediator sequenceName)
  | .edit name edits => do
    let m ← w.message name
    return w.startEdits name m edits [] false
  | .send endpointName transportName name mode => do
    let e ← w.endpoint endpointName
    let _ ← w.transport transportName
    let m ← w.message name
    let (flow, bus) := Flow.dispatch e.name transportName mode m [] w.bus
    return w.start name .outcome flow bus
  | .takeSent transportName index name edits => do
    let t ← w.transport transportName
    match t.calls[index]? with
    | none => throw .noSuchCall
    | some sent => return w.startEdits name sent.message edits [] true
  | .advance duration =>
    .ok (.yielded .pause, { w with bus := { w.bus with now := w.bus.now + duration } })
  | .concurrent runs =>
    let (runs, bus) := runs.foldl (fun (runs, bus) (after, steps) =>
        if after = 0 then (Run.mk none steps [] :: runs, bus)
        else
          let (t, bus) := Bus.startTimer bus after
          (Run.mk (some (.wait t)) steps [] :: runs, bus))
      (([] : List Run), w.bus)
    .ok (.started (.concurrent runs.reverse), { w with bus })
  | step =>
    match w.perform? step with
    | some (.ok ((result, shown), w)) => .ok (.answered result shown, w)
    | some (.error problem) => .error problem
    | none => .ok (.answered .done none, w)

/-- Ends a flow with its reply. -/
def finish (w : World) (name : String) (goal : Goal) (m : Message) (r : Reply) : Stage × World :=
  match goal with
  | .verdict => (.answered (.verdict r.verdict) (some m), w.put name m)
  | .outcome => (.answered (.outcome (r.verdict.map fun _ => ())) (some m), w.put name m)
  | .report =>
    let result : Result := match r with
      | .gathered report => .report (.ok report)
      | r => match r.verdict with
        | .error e => .report (.error e)
        | .ok _ => .done
    (.answered result (some m), w.put name m)
  | .findings rest found showMessage =>
    let found := match r with
      | .edited findings => findings.reverse ++ found
      | _ => found
    w.startEdits name m rest found showMessage

/-- Gives up a flow. -/
def giveUp (w : World) (name : String) (goal : Goal) (flow : Flow) : Stage × World :=
  let m := flow.visible
  match goal with
  | .findings rest found showMessage => w.startEdits name m rest (.unending :: found) showMessage
  | _ => (.answered .hang (some m), w.put name m)

end World

/-- Where a run stands after its turn: whether anything moved, and the timers it
waits for. -/
structure Turn where
  run : Run
  world : World
  moved : Bool
  timers : List Timer

namespace Turn

/-- The same turn, behind a move. -/
def afterMove (t : Turn) : Turn := { t with moved := true }

end Turn

mutual

/-- The turn of a run. The answers of an outermost run tell which steps were
entered. -/
def Run.turn (outermost : Bool) : Nat → Run → World → Turn
  | 0, run, w => ⟨run, w, false, []⟩
  | _, .mk none [] answers, w => ⟨.mk none [] answers, w, false, []⟩
  | limit + 1, .mk none (step :: todo) answers, w =>
    let w := if outermost then { w with bus := { w.bus with trace := [] } } else w
    match w.begin step with
    | .ok (stage, w) => Stage.goOn outermost limit stage todo answers w
    | .error problem =>
      Stage.goOn outermost limit (.answered (.impossible problem) none) todo answers w
  | limit + 1, .mk (some (.flow name flow t goal)) todo answers, w =>
    let moved := (flow.step w.bus).isSome
    let (flow, bus) := flow.poll w.bus
    let w := { w with bus }
    match flow.finished? with
    | some (m, r) =>
      let (stage, w) := w.finish name goal m r
      Stage.goOn outermost limit stage todo answers w
    | none =>
      if bus.hasRung t then
        let (stage, w) := w.giveUp name goal flow
        Stage.goOn outermost limit stage todo answers w
      else ⟨.mk (some (.flow name flow t goal)) todo answers, w, moved, t :: flow.timers⟩
  | limit + 1, .mk (some .pause) todo answers, w =>
    Stage.goOn outermost limit (.answered .done none) todo answers w
  | limit + 1, .mk (some (.wait t)) todo answers, w =>
    if w.bus.hasRung t then (Run.turn outermost limit (.mk none todo answers) w).afterMove
    else ⟨.mk (some (.wait t)) todo answers, w, false, [t]⟩
  | limit + 1, .mk (some (.concurrent runs)) todo answers, w =>
    let (runs, w, moved, timers) := Run.round limit runs w
    if runs.all Run.isDone then
      Stage.goOn outermost limit (.answered (.runs (runs.map Run.answered)) none) todo answers w
    else ⟨.mk (some (.concurrent runs)) todo answers, w, moved, timers⟩

/-- Goes on from a stage of a step. -/
def Stage.goOn (outermost : Bool) (limit : Nat) (stage : Stage) (todo : List Step)
    (answers : List Answer) (w : World) : Turn :=
  match limit, stage with
  | limit + 1, .answered result shown =>
    let trace := if outermost then w.bus.trace.reverse else []
    let answer := .mk result w.bus.now.millis shown trace
    (Run.turn outermost limit (.mk none todo (answer :: answers)) w).afterMove
  | limit + 1, .started activity =>
    (Run.turn outermost limit (.mk (some activity) todo answers) w).afterMove
  | _, .yielded activity => ⟨.mk (some activity) todo answers, w, true, []⟩
  | 0, _ => ⟨.mk none todo answers, w, false, []⟩

/-- One round: every run has its turn. -/
def Run.round : Nat → List Run → World → List Run × World × Bool × List Timer
  | 0, runs, w => (runs, w, false, [])
  | _, [], w => ([], w, false, [])
  | limit + 1, run :: rest, w =>
    let t := Run.turn false limit run w
    let (runs, w, moved, timers) := Run.round limit rest t.world
    (t.run :: runs, w, t.moved || moved, t.timers ++ timers)

end

/-- Lets the timers ring that are due. -/
def World.ring (w : World) : World := { w with bus := { w.bus with rung := w.bus.now } }

/-- Lets the clock jump to the next timer. -/
def World.jump (w : World) (timers : List Timer) : World :=
  match Timer.first? (timers.filter fun t => w.bus.now < t.due) with
  | some t => { w with bus := { w.bus with now := t.due } }
  | none => w

/-- Runs steps for at most a number of rounds. -/
def Run.rounds : Nat → Run → World → Run × World
  | 0, run, w => (run, w)
  | limit + 1, run, w =>
    let t := Run.turn true Flow.turn run w.ring
    if t.run.isDone then (t.run, t.world)
    else if t.moved then Run.rounds limit t.run t.world
    else Run.rounds limit t.run (t.world.jump t.timers)

/-- Runs all steps, one after the other. -/
def World.run (w : World) (steps : List Step) : List Answer × World :=
  let (run, w) := Run.rounds Flow.turn (.mk none steps []) w
  (run.answered, w)

end ServiceBus.Simulation
