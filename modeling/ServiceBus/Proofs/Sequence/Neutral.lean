import ServiceBus.Proofs.Call.Outgoing
import ServiceBus.Proofs.Dispatch.Channels
import ServiceBus.Proofs.Sequence.StraightThrough

/-
ServiceBus.Proofs.Sequence.Neutral — mediation that succeeds leaves the way back of
the message as it was.

`Keeps w f` says that whenever the flow `f` ends with `true`, its message has the way
back `w`. Two kinds of flows keep any way back: those that never end with `true`
(`Stops`), such as the ones of a fault handler, and those that touch nothing of it.

There is one lemma for each kind of mediator: recorders and editors touch nothing,
a call keeps what its send keeps or goes on with the message it had, and a
scatter-gather goes on with its own message whatever its branches do. A sequence
takes off what it has put on, as its children have left both in their place
(`keeps_children`). `mediate_neutral` puts these together by induction over the tree.
-/
namespace ServiceBus

/-- An edit that leaves the way back of any message alone. -/
def Edit.KeepsWayBack (e : Edit Mediator) : Prop := ∀ w, e.Lasts (·.wayBack = w)

/-- No channel touches the way back of a message. -/
def Bus.Calm (bus : Bus) : Prop := bus.Allows Edit.KeepsWayBack

/-- The marks of a send and a reply leave the way back alone. -/
theorem outlasts_wayBack (w : Continuation × List FaultHandler) : Outlasts (·.wayBack = w) where
  marked _ h := (Message.wayBack_setProperty ..).trans h
  cleared h := (Message.wayBack_clearCallProperties _).trans h
  answered _ h := (Message.wayBack_setPayload ..).trans h

namespace Flow

variable {m : Message} {w : Continuation × List FaultHandler} {f : Flow}

/-- A flow that ends with `true` has this way back then. -/
def Keeps (w : Continuation × List FaultHandler) (f : Flow) : Prop :=
  EndsIn Bus.Calm (fun m r => r.verdict = .ok true → m.wayBack = w) f

/-- A flow that never ends with `true`. -/
def Stops (f : Flow) : Prop := EndsIn Bus.Calm (fun _ r => r.verdict ≠ .ok true) f

theorem Stops.keeps (h : Stops f) (w : Continuation × List FaultHandler) : Keeps w f :=
  h.mono fun _ _ hr htrue => absurd htrue hr

theorem keeps_answer {r : Reply} (h : m.wayBack = w) : Keeps w (answer m r []) :=
  .answer fun _ => h

theorem stops_failed (m : Message) (e : Failure) : Stops (answer m (.failed e) []) :=
  .answer (by simp [Reply.verdict])

theorem stops_halted (m : Message) : Stops (answer m (.proceed false) []) :=
  .answer (by simp [Reply.verdict])

/-- Whatever a flow ends with, a fixed reply other than `true` stands for it. -/
theorem stops_behind (f : Flow) : Stops (f.andThen [.reply (.proceed false)]) := by
  have hf : EndsIn Bus.Calm (fun _ _ => True) f := fun _ _ _ => trivial
  refine hf.behind rfl fun m r bus _ => ?_
  simp only [resume]
  split
  · exact stops_failed m _
  · exact stops_halted m

/-- The fault handlers of a message stop it. -/
theorem stops_runHandler (m : Message) {unhandled : Reply} (h : unhandled.verdict ≠ .ok true) :
    Stops (runHandler m (.proceed false) unhandled []) := by
  unfold runHandler
  split
  · next sequence m' _ => exact stops_behind (.busy m' (.mediate sequence) [])
  · exact .answer h

theorem stops_divert (e : Failure) (m : Message) : Stops (divert e m []) := by
  unfold divert
  split
  · exact stops_halted _
  · split
    · exact stops_failed m _
    · exact stops_runHandler _ (by simp [Reply.verdict])

/-! ## Recorders and editors -/

theorem keeps_record (r : Recorder) (m : Message) : Keeps m.wayBack (record r m []) := by
  unfold record
  split
  · exact (stops_failed m _).keeps _
  · have hnoted (properties : List (String × Value)) (m : Message) :
        (properties.foldl (fun m (x : String × Value) => m.setProperty x.1 x.2) m).wayBack =
          m.wayBack := by
      induction properties generalizing m with
      | nil => rfl
      | cons x rest ih => exact ih _
    simp only
    split
    · exact (stops_runHandler _ (by simp [Reply.verdict])).keeps _
    · refine keeps_answer ?_
      split
      · rw [Message.wayBack_setPayload]
        exact hnoted _ m
      · exact hnoted _ m

theorem keeps_recorder (r : Recorder) (m : Message) :
    Keeps m.wayBack (.busy m (.mediate (.recorder r)) []) := by
  refine .mediate fun bus _ => ?_
  simp only [mediate]
  split
  · next delay _ =>
    have hslept (t : Timer) : EndsIn Bus.Calm (fun m' _ => m' = m) (.busy m (.sleep t) []) :=
      .sleep fun _ => rfl
    refine EndsIn.behind (p := .record r) (hslept _) rfl ?_
    rintro m' reply bus rfl
    exact keeps_record r m'
  · exact keeps_record r m

theorem endsIn_edit {edits : List (Edit Mediator)} (h : ∀ e ∈ edits, e.KeepsWayBack)
    (hm : m.wayBack = w) (findings : List Finding) :
    EndsIn Bus.Calm (fun m _ => m.wayBack = w) (.busy m (.edit edits findings) []) := by
  induction edits generalizing m findings with
  | nil =>
    refine .of_step rfl ?_
    rintro bus f' bus' - hs
    obtain ⟨rfl, -⟩ := Prod.mk.inj (Option.some.inj hs)
    exact .answer hm
  | cons e rest ih =>
    rw [List.forall_mem_cons] at h
    refine .of_step rfl ?_
    rintro bus f' bus' - hs
    have hedit : edit (e :: rest) findings m [] bus = (f', bus') := Option.some.inj hs
    unfold edit at hedit
    split at hedit
    · next he => simp at he
    · next he =>
      obtain ⟨rfl, -⟩ := List.cons.inj he
      exact absurd (h.1 w).plain (by simp [Edit.isHandleFault])
    · next he =>
      obtain ⟨rfl, rfl⟩ := List.cons.inj he
      obtain ⟨rfl, -⟩ := Prod.mk.inj hedit
      exact ih h.2 ((h.1 w).keeps m bus hm) _

/-- Edits that each leave the way back alone make a leaf that does. -/
theorem keeps_editor {name : String} {edits : List (Edit Mediator)} {result : Bool}
    (h : ∀ e ∈ edits, e.KeepsWayBack) (m : Message) :
    Keeps m.wayBack (.busy m (.mediate (.editor name edits result)) []) := by
  refine .mediate fun bus _ => ?_
  refine EndsIn.behind (p := .reply (.proceed result)) (endsIn_edit h rfl []) rfl ?_
  intro m' r bus hm
  simp only [resume]
  split
  · exact keeps_answer hm
  · exact keeps_answer hm

/-! ## Calls -/

theorem endsIn_send (c : Call) (m : Message) {bus : Bus} (hok : bus.Calm) :
    EndsIn Bus.Calm (fun m' r => ∀ flag, r.verdict = .ok flag → m'.wayBack = m.wayBack)
      (send c m [] bus).1 := by
  have hlasts {bus : Bus} (h : bus.Calm) : bus.Allows (·.Lasts (·.wayBack = m.wayBack)) :=
    fun channel edits hedits e he => h channel edits hedits e he m.wayBack
  exact (send_endsIn (outlasts_wayBack m.wayBack) c rfl (hlasts hok)).anti hlasts

/-- A send, and what the work behind it makes of its reply. -/
theorem keeps_send (c : Call) {sent : Message} {p : Pending} (hp : p.isAttempt = false) {bus : Bus}
    (hok : bus.Calm)
    (hbehind : ∀ m r bus, (∀ flag, r.verdict = .ok flag → m.wayBack = sent.wayBack) →
      Keeps w (resume r m p [] bus).1) : Keeps w (send c sent [p] bus).1 := by
  have hgoes : send c sent [p] bus =
      ((send c sent [] bus).1.andThen [p], (send c sent [] bus).2) :=
    (goes_send c sent bus).andThen [] [p]
  rw [hgoes]
  exact (endsIn_send c sent hok).behind hp hbehind

theorem keeps_afterBlockingCall (c : Call) (envelope : Envelope) (handler : Option Id) {r : Reply}
    (hm : ∀ flag, r.verdict = .ok flag → m.wayBack = w) :
    Keeps w (afterBlockingCall c envelope handler r m []) := by
  unfold afterBlockingCall
  split
  · exact (stops_divert _ _).keeps w
  · next flag hr =>
    split
    · exact (stops_halted m).keeps w
    · split
      · exact (stops_halted m).keeps w
      · exact keeps_answer ((c.rehoming.wayBack_inbound m envelope).trans (hm flag hr))

theorem stops_afterHandOff (r : Reply) (m : Message) : Stops (afterHandOff r m []) := by
  unfold afterHandOff
  split
  · exact stops_divert _ _
  · exact stops_halted m

theorem keeps_afterOutOnly {left : Message} (hleft : left.wayBack = w) (r : Reply)
    (copy : Message) : Keeps w (afterOutOnly left r copy []) := by
  unfold afterOutOnly
  split
  · exact (stops_divert _ _).keeps w
  · exact keeps_answer hleft

/-- A call that waits comes back with the way back that it sent; one that is handed off stops
the message, and one on a copy goes on with the message that was left. -/
theorem keeps_call (c : Call) (m : Message) :
    Keeps m.wayBack (.busy m (.mediate (.call c)) []) := by
  refine .mediate fun bus hok => ?_
  show Keeps m.wayBack (call c m [] bus).1
  by_cases hframe : c.blocking = true ∨ m.continuation ≠ []
  · cases hready : (c.rehoming.outbound m (.capture m)).2 with
    | error e =>
      rw [Call.call_eq_failed hframe hready]
      exact (stops_failed _ e).keeps _
    | ok _ =>
      cases hmode : c.blocking with
      | true =>
        rw [Call.call_eq_send_asked hmode hready]
        refine keeps_send c rfl hok fun m' r bus hm => ?_
        rw [Call.asked_wayBack] at hm
        exact keeps_afterBlockingCall c _ _ hm
      | false =>
        have hframes : m.continuation ≠ [] := hframe.resolve_left (by simp [hmode])
        cases hout : m.isOutOnly with
        | true =>
          rw [Call.call_eq_send_copy hmode hframes hready hout]
          exact keeps_send c rfl hok fun m' r bus _ =>
            keeps_afterOutOnly Call.prepared_wayBack r m'
        | false =>
          obtain ⟨top, rest, hcons⟩ := List.exists_cons_of_ne_nil hframes
          rw [Call.call_eq_send hmode hcons hready hout]
          exact keeps_send c rfl hok fun m' r bus _ => (stops_afterHandOff r m').keeps _
  · obtain ⟨hmode, hframes⟩ := not_or.1 hframe
    have hnone : (!c.blocking && m.continuation.isEmpty) = true := by
      simp [Bool.eq_false_iff.2 hmode, not_not.1 hframes]
    simp only [call, hnone, if_true]
    exact (stops_failed m _).keeps _

/-! ## Scatter-gathers -/

theorem conclude_wayBack (g : Gathering) (m : Message) (bus : Bus) :
    (Scatter.conclude g m bus).2.1.wayBack = m.wayBack := by
  have hplaced (place : ResultPlace) (p : Payload) :
      (Scatter.place place m p).wayBack = m.wayBack := by
    cases place with
    | body => exact m.wayBack_setPayload p
    | «variable» name => rfl
  simp only [Scatter.conclude]
  split
  · rfl
  · exact hplaced _ _

/-- A run of a scatter-gather, or its end: the message in the middle keeps its way back. -/
inductive GathersOn (w : Continuation × List FaultHandler) : Flow → Prop where
  | gathering {m : Message} {g : Gathering} {branches : List (Nat × Flow)} (hm : m.wayBack = w) :
      GathersOn w (.gathering m g branches [])
  | branching {m : Message} {g : Gathering} {i : Nat} {branch : Flow} {others : List (Nat × Flow)}
      (hm : m.wayBack = w) : GathersOn w (.branching m g i branch others [])
  | ended {m : Message} {r : Reply} (hm : m.wayBack = w) : GathersOn w (answer m r [])

theorem gathersOn_conclude (hm : m.wayBack = w) (g : Gathering) (bus : Bus) :
    GathersOn w (conclude m g [] bus).1 := by
  have hconcluded := conclude_wayBack g m bus
  unfold conclude
  split <;> next h =>
    rw [h] at hconcluded
    exact .ended (hconcluded.trans hm)

theorem gathersOn_acceptBranch (hm : m.wayBack = w) (g : Gathering) (i : Nat)
    (outcome : Message × Reply) (others : List (Nat × Flow)) (bus : Bus) :
    GathersOn w (acceptBranch m g i outcome others [] bus).1 := by
  simp only [acceptBranch]
  split
  · exact .ended hm
  · split
    · exact .gathering hm
    · exact .gathering hm

theorem GathersOn.step {f f' : Flow} {bus bus' : Bus} (h : GathersOn w f)
    (hs : f.step bus = some (f', bus')) : GathersOn w f' := by
  cases h with
  | ended hm => simp [answer, Flow.step, work] at hs
  | @gathering m g branches hm =>
    simp only [Flow.step, gather, cut?, Option.map_none] at hs
    split at hs
    · have hgoes := gathersOn_conclude hm g bus
      rwa [Option.some.inj hs] at hgoes
    · split at hs
      · have hgoes := gathersOn_conclude hm g (bus.updateBuffer g.buffer (·.close .timeout))
        rwa [Option.some.inj hs] at hgoes
      · split at hs
        · obtain ⟨rfl, -⟩ := Prod.mk.inj (Option.some.inj hs)
          exact .branching hm
        · split at hs
          · obtain ⟨rfl, -⟩ := Prod.mk.inj (Option.some.inj hs)
            exact .branching hm
          · simp at hs
  | @branching m g i branch others hm =>
    simp only [Flow.step] at hs
    split at hs
    · next outcome _ =>
      have hgoes := gathersOn_acceptBranch hm g i outcome others bus
      rwa [Option.some.inj hs] at hgoes
    · split at hs
      · obtain ⟨rfl, -⟩ := Prod.mk.inj (Option.some.inj hs)
        exact .branching hm
      · obtain ⟨rfl, -⟩ := Prod.mk.inj (Option.some.inj hs)
        exact .gathering hm

/-- Branches run on copies, whatever their targets do to them. -/
theorem keeps_scatter (s : Scatter) (targets : List (Option String × Mediator)) (m : Message) :
    Keeps m.wayBack (.busy m (.mediate (.scatter s targets)) []) := by
  refine .mediate fun bus _ => ?_
  simp only [mediate]
  split
  · exact (stops_failed m _).keeps _
  · refine .of_invariant (GathersOn.gathering rfl) (fun h _ hs => h.step hs) fun m' r h _ => ?_
    generalize hf : answer m' r [] = f at h
    cases h with
    | ended hm =>
      obtain ⟨rfl, -, -⟩ := Flow.busy.inj hf
      exact hm
    | _ => simp [answer] at hf

end Flow

/-! ## Sequences and trees -/

/-- A mediator that leaves the way back of any message alone when it returns `true`. -/
def Mediator.Neutral (x : Mediator) : Prop :=
  ∀ m, Flow.Keeps m.wayBack (.busy m (.mediate x) [])

/-- From a position on, neutral children lead a message out of their sequence, with the way
back from before it. -/
theorem Flow.keeps_children (run : SequenceRun) {inside outside : List FaultHandler}
    (hguards : run.Guards inside outside) {xs : List Mediator} (hxs : ∀ x ∈ xs, x.Neutral)
    (position : Nat) {frame : Frame} {frames : Continuation} {m : Message}
    (hm : m.wayBack = (frame :: frames, inside)) :
    Keeps (frames, outside) (children run position xs m []) := by
  induction xs generalizing position frame m with
  | nil =>
    rw [children_nil hguards hm]
    exact keeps_answer rfl
  | cons x xs ih =>
    rw [List.forall_mem_cons] at hxs
    -- the child sees the frame at its own position
    have hmoved : (m.movePosition position).wayBack =
        (frame.moveTo position :: frames, inside) := by
      obtain ⟨hframes, hhandlers⟩ := Message.wayBack_eq.1 hm
      rw [Message.wayBack_eq, Message.movePosition, hframes]
      exact ⟨rfl, hhandlers⟩
    refine EndsIn.behind (p := .children run position xs) (hxs.1 (m.movePosition position)) rfl ?_
    intro m' r bus hreturned
    simp only [resume]
    split
    · next htrue => exact ih hxs.2 (position + 1) ((hreturned htrue).trans hmoved)
    · exact (stops_halted m').keeps _
    · exact (stops_failed m' _).keeps _

namespace Mediator

theorem neutral_sequence (name : String) (kind : SequenceKind) {children : List Mediator}
    (onError : Option Mediator) (h : ∀ x ∈ children, x.Neutral) :
    (Mediator.sequence name kind children onError).Neutral := by
  intro m
  refine .mediate fun bus _ => ?_
  cases onError with
  | none => exact Flow.keeps_children ⟨name, false⟩ rfl h 0 rfl
  | some handler =>
    exact Flow.keeps_children ⟨name, true⟩ ⟨⟨bus.freshId.1, name, handler⟩, rfl, rfl⟩ h 0
      rfl

mutual

/-- A tree whose editors are neutral is neutral. -/
theorem neutral_of_editors : (x : Mediator) →
    (∀ name edits result, .editor name edits result ∈ x.leaves →
      (Mediator.editor name edits result).Neutral) → x.Neutral
  | .recorder r, _ => Flow.keeps_recorder r
  | .editor name edits result, h => h name edits result (by simp [leaves])
  | .call c, _ => Flow.keeps_call c
  | .sequence name kind children onError, h =>
    neutral_sequence name kind onError (neutralOf_of_editors children h)
  | .scatter s targets, _ => Flow.keeps_scatter s targets

/-- Trees whose editors are neutral are neutral. -/
theorem neutralOf_of_editors : (xs : List Mediator) →
    (∀ name edits result, .editor name edits result ∈ leavesOf xs →
      (Mediator.editor name edits result).Neutral) → ∀ x ∈ xs, x.Neutral
  | [], _ => by simp
  | x :: xs, h => by
    rw [List.forall_mem_cons]
    refine ⟨neutral_of_editors x fun name edits result hmem => ?_,
      neutralOf_of_editors xs fun name edits result hmem => ?_⟩
    · exact h name edits result (by simp [leavesOf, hmem])
    · exact h name edits result (by simp [leavesOf, hmem])

end

/-- If mediation ends with `true`, on whatever course and whatever happens on the bus meanwhile,
the message has exactly the frames and the fault handlers that it had before. -/
theorem mediate_neutral {x : Mediator}
    (hleaves : ∀ name edits result, .editor name edits result ∈ x.leaves →
      (Mediator.editor name edits result).Neutral)
    {m m' : Message} {r : Reply}
    (hends : Flow.Reaches Bus.Calm (.busy m (.mediate x) []) (Flow.answer m' r []))
    (htrue : r.verdict = .ok true) :
    m'.continuation = m.continuation ∧ m'.faultHandlers = m.faultHandlers :=
  Message.wayBack_eq.1 (neutral_of_editors x hleaves m m' r hends htrue)

/-! ## A tree of all kinds of mediators -/

namespace Mixed

def step (name : String) : Mediator := .recorder { id := name, name := name }

def asks : Call := { name := "asks", transport := "channel", blocking := true }

def tells : Call := { name := "tells", transport := "channel" }

def scatter : Scatter where
  name := "both"
  config := ⟨true, .json, .body, { correlation := some "id" }, none⟩
  aggregator := "both"

/-- Both sequences have the same name, and both look out for faults. -/
def tree : Mediator :=
  .sequence "flow" .named
    [step "before",
      .sequence "flow" .named [.call asks, .call tells] (some (step "inner rescue")),
      .scatter scatter [(none, step "left"), (none, step "right")],
      .editor "mark" [.setProperty "marked" (.bool true)] true]
    (some (step "rescue"))

/-- A message that wants no reply, inside another sequence of that name. -/
def message : Message where
  id := ⟨0⟩
  properties := Dict.ofList [(Property.outOnly, .bool true)]
  continuation := [⟨.named, "flow", 3⟩]
  faultHandlers := [⟨⟨1⟩, "flow", step "outer rescue"⟩]

/-- The channel replies, and stamps what it delivers. -/
def channel : Transport where
  standing := .respond (.text "reply")
  edits := [[.setHeader "stamp" "1"]]

def bus : Bus where
  nextId := 2
  evaluator := fun _ _ => .ok (.text "x")
  transports := Dict.ofList [("channel", channel)]

def ended : Flow := ((Flow.busy message (.mediate tree) []).run 100 bus).1

theorem calm_bus : bus.Calm := by
  intro name edits hedits e he w
  have hstamp : e = .setHeader "stamp" "1" := by
    by_cases hname : name = "channel"
    · subst hname
      obtain rfl := List.mem_singleton.1 (show edits ∈ [[.setHeader "stamp" "1"]] from hedits)
      exact List.mem_singleton.1 he
    · have hnone : bus.transport name = {} := by
        have hbus : bus.transports = (∅ : Dict Transport).insert "channel" channel := rfl
        rw [Bus.transport, hbus, Dict.get?_insert, if_neg hname]
        rfl
      rw [hnone] at hedits
      exact absurd hedits (by simp)
  rw [hstamp]
  exact ⟨rfl, fun m _ hm => hm⟩

theorem mediate_neutral_mixed :
    (∀ name edits result, .editor name edits result ∈ tree.leaves →
      (Mediator.editor name edits result).Neutral) ∧
    Flow.Reaches Bus.Calm (.busy message (.mediate tree) [])
      (Flow.answer ended.message (.proceed true) []) ∧
    ended.message.continuation = [⟨.named, "flow", 3⟩] ∧
      ended.message.faultHandlers = [⟨⟨1⟩, "flow", step "outer rescue"⟩] := by
  have hleaves (name : String) (edits : List (Edit Mediator)) (result : Bool)
      (h : .editor name edits result ∈ tree.leaves) :
      (Mediator.editor name edits result).Neutral := by
    have hlist : tree.leaves = [step "before", .call asks, .call tells,
        .scatter scatter [(none, step "left"), (none, step "right")],
        .editor "mark" [.setProperty "marked" (.bool true)] true] := rfl
    simp only [hlist, step, List.mem_cons, List.not_mem_nil, or_false, reduceCtorEq, false_or] at h
    obtain ⟨rfl, rfl, rfl⟩ := Mediator.editor.inj h
    refine Flow.keeps_editor fun e he w => ?_
    obtain rfl := List.mem_singleton.1 he
    exact ⟨rfl, fun m _ hm => hm⟩
  have hends : Flow.Reaches Bus.Calm (.busy message (.mediate tree) []) ended :=
    .run (fun hcalm hs => hcalm.step hs) 100 calm_bus
  have hend : ended = Flow.answer ended.message (.proceed true) [] := rfl
  rw [hend] at hends
  obtain ⟨hframes, hhandlers⟩ := mediate_neutral hleaves hends rfl
  exact ⟨hleaves, hends, hframes, hhandlers⟩

end Mixed

end Mediator

end ServiceBus
