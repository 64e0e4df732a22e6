import ServiceBus.Proofs.Sequence.Leaves

/-
ServiceBus.Proofs.Sequence.StraightThrough — a passage with stops enters what
one straight through would enter.

The proof is by induction over the tree: `enter` leads from a mediator in an open
sequence to what comes behind it, and `children` from the children of a sequence,
from a position on, to what comes behind the sequence.
-/
namespace ServiceBus

/-! ## Sequences -/

/-- The chain of fault handlers inside a sequence, and the one outside. -/
def SequenceRun.Guards (run : SequenceRun) (inside outside : List FaultHandler) : Prop :=
  if run.guarded then ∃ h : FaultHandler, h.name = run.name ∧ inside = h :: outside
  else inside = outside

/-- Behind its last child a sequence takes off its frame, and its own fault handler, which its
name tells. -/
theorem Flow.children_nil {run : SequenceRun} {m : Message} {frame : Frame}
    {frames : Continuation} {inside outside : List FaultHandler}
    (hguards : run.Guards inside outside) (hback : m.wayBack = (frame :: frames, inside))
    (position : Nat) (k : List Pending) :
    children run position [] m k =
      answer { m with continuation := frames, faultHandlers := outside } (.proceed true) k := by
  obtain ⟨hframes, hhandlers⟩ := Message.wayBack_eq.1 hback
  have hpopped : m.popFrame = { m with continuation := frames, faultHandlers := inside } := by
    rw [Message.popFrame, hframes, ← hhandlers]
    rfl
  simp only [children, hpopped]
  rw [SequenceRun.Guards] at hguards
  cases hg : run.guarded with
  | false =>
    simp only [hg, Bool.false_eq_true, if_false] at hguards
    rw [Bool.false_and, if_neg (by simp), hguards]
  | true =>
    simp only [hg, if_true] at hguards
    obtain ⟨handler, hname, rfl⟩ := hguards
    rw [if_pos]
    · rfl
    · simp [Message.headHandler?, hname]

namespace Passage

section

variable {S : Circumstances} {root : Mediator} {Q : Passage → Bus → Prop} {o : Opened}
  {path : List Opened} {handlers : List FaultHandler} {entered : List Mediator}
  {returned : List (Call × Frame)} {m : Message} {bus : Bus}

/-- A sequence pushes its frame, and its fault handler if it has one. -/
theorem enter_sequence {name : String} {kind : SequenceKind} {list : List Mediator}
    {onError : Option Mediator} (k : List Pending)
    (hback : m.wayBack = (path.map Opened.frame, handlers)) (hfit : S.fit m bus)
    (h : ∀ m' bus' inside, m'.wayBack = (Frame.start kind name :: path.map Opened.frame, inside) →
      SequenceRun.Guards ⟨name, onError.isSome⟩ inside handlers → S.fit m' bus' →
      Comes S root Q ⟨Flow.children ⟨name, onError.isSome⟩ 0 list m' k, entered, returned⟩ bus') :
    Comes S root Q ⟨.busy m (.mediate (.sequence name kind list onError)) k, entered, returned⟩
      bus := by
  obtain ⟨hframes, hhandlers⟩ := Message.wayBack_eq.1 hback
  have hleaf : (Flow.busy m (.mediate (.sequence name kind list onError)) k).leaf? = none := by
    simp [Flow.leaf?, Mediator.key?]
  refine .of_flow hleaf fun bus' hw => ?_
  have hfit' : S.fit m bus' := S.fit_world hfit hw
  cases onError with
  | none =>
    refine ⟨_, bus', rfl, h _ bus' handlers ?_ rfl ?_⟩
    · rw [Message.wayBack_eq]
      exact ⟨congrArg (Frame.start kind name :: ·) hframes, hhandlers⟩
    · exact S.fit_wayBack hfit' (Frame.start kind name :: m.continuation) m.faultHandlers
  | some handler =>
    refine ⟨_, bus'.freshId.2, rfl, h _ _ (⟨bus'.freshId.1, name, handler⟩ :: handlers) ?_ ?_ ?_⟩
    · rw [Message.wayBack_eq]
      exact ⟨congrArg (Frame.start kind name :: ·) hframes, congrArg (_ :: ·) hhandlers⟩
    · exact ⟨_, rfl, rfl⟩
    · exact S.fit_wayBack (S.fit_freshId hfit') (Frame.start kind name :: m.continuation)
        (⟨bus'.freshId.1, name, handler⟩ :: m.faultHandlers)

/-- A sequence that is through leaves the message fit. -/
theorem children_nil {run : SequenceRun} {frame : Frame} {frames : Continuation}
    {inside outside : List FaultHandler} (hguards : run.Guards inside outside)
    (hback : m.wayBack = (frame :: frames, inside)) (hfit : S.fit m bus) (position : Nat)
    (k : List Pending) :
    ∃ m', Flow.children run position [] m k = Flow.answer m' (.proceed true) k ∧
      m'.wayBack = (frames, outside) ∧ S.fit m' bus := by
  refine ⟨_, Flow.children_nil hguards hback position k, rfl, ?_⟩
  exact S.fit_wayBack hfit frames outside

/-! ## Trees -/

mutual

/-- From a mediator of the tree to what comes behind it. -/
theorem enter (hdistinct : (root.sequences.map Mediator.key?).Nodup) (x : Mediator)
    (hsequences : ∀ y ∈ x.sequences, y ∈ root.sequences) (hleaves : ∀ l ∈ x.leaves, S.Behaves l)
    {o : Opened} {path : List Opened} {handlers : List FaultHandler} {entered : List Mediator}
    {returned : List (Call × Frame)} (ho : o.Of root)
    (h : Onward S root Q o path handlers (entered ++ x.leaves) (returned ++ x.stops o.frame))
    {near far : List Opened} (hpath : near ++ far = path) {m : Message} {bus : Bus}
    (hback : m.wayBack = ((o :: path).map Opened.frame, handlers)) (hfit : S.fit m bus) :
    Comes S root Q ⟨.busy m (.mediate x) ((o :: near).map Opened.pending), entered, returned⟩
      bus := by
  cases x with
  | sequence name kind list onError =>
    refine enter_sequence _ hback hfit fun m' bus' inside hback' hguards hfit' => ?_
    have hmem : Mediator.sequence name kind list onError ∈ root.sequences :=
      hsequences _ (by simp [Mediator.sequences])
    refine children hdistinct list (fun y hy => hsequences y (by simp [Mediator.sequences, hy]))
      hleaves hmem rfl rfl hguards (through_of_onward hdistinct ho h)
      (congrArg (o :: ·) hpath) hback' hfit'
  | call c =>
    cases hmode : c.blocking with
    | true =>
      have hordinary : S.Ordinary (.call c) := by
        have hc := hleaves (.call c) (by simp [Mediator.leaves])
        rwa [Circumstances.Behaves, hmode, if_pos rfl] at hc
      have hthrough := through_of_onward hdistinct ho h
      simp only [Mediator.stops, hmode, if_true, List.append_nil] at hthrough
      exact enter_ordinary hordinary rfl hthrough hpath hback hfit
    | false =>
      have hhandsOff : S.HandsOff c := by
        have hc := hleaves (.call c) (by simp [Mediator.leaves])
        rwa [Circumstances.Behaves, hmode, if_neg (by simp)] at hc
      simp only [Mediator.stops, hmode, Bool.false_eq_true, if_false] at h
      exact enter_handOff hdistinct hmode hhandsOff ho h near hback hfit
  | _ =>
    have hordinary := hleaves _ (List.mem_singleton_self _)
    simp only [Circumstances.Behaves] at hordinary
    have hthrough := through_of_onward hdistinct ho h
    simp only [Mediator.stops, List.append_nil] at hthrough
    exact enter_ordinary hordinary rfl hthrough hpath hback hfit

/-- From the children of a sequence, from a position on, to what comes behind the
sequence. -/
theorem children (hdistinct : (root.sequences.map Mediator.key?).Nodup) (xs : List Mediator)
    (hsequences : ∀ y ∈ Mediator.sequencesOf xs, y ∈ root.sequences)
    (hleaves : ∀ l ∈ Mediator.leavesOf xs, S.Behaves l) {run : SequenceRun} {kind : SequenceKind}
    {list : List Mediator} {onError : Option Mediator}
    (hmem : Mediator.sequence run.name kind list onError ∈ root.sequences)
    (hguarded : run.guarded = onError.isSome) {position : Nat} (hrest : list.drop position = xs)
    {inside outside : List FaultHandler} (hguards : run.Guards inside outside)
    {path : List Opened} {entered : List Mediator} {returned : List (Call × Frame)}
    (h : Through S root Q path outside (entered ++ Mediator.leavesOf xs)
      (returned ++ Mediator.stopsOf ⟨kind, run.name, position⟩ xs))
    {near far : List Opened} (hpath : near ++ far = path) {m : Message} {bus : Bus} {before : Nat}
    (hback : m.wayBack = (⟨kind, run.name, before⟩ :: path.map Opened.frame, inside))
    (hfit : S.fit m bus) :
    Comes S root Q ⟨Flow.children run position xs m (near.map Opened.pending), entered, returned⟩
      bus := by
  cases xs with
  | nil =>
    obtain ⟨m', hend, hback', hfit'⟩ := children_nil hguards hback hfit position
      (near.map Opened.pending)
    rw [hend]
    simp only [Mediator.leavesOf, Mediator.stopsOf, List.append_nil] at h
    exact h near far hpath m' bus hback' hfit'
  | cons x xs =>
    have hbehind : list.drop (position + 1) = xs := by
      rw [← List.drop_drop, hrest]
      rfl
    have ho : Opened.Of root ⟨kind, run, position, xs⟩ := ⟨list, onError, hmem, hguarded, hbehind⟩
    obtain ⟨hframes, hhandlers⟩ := Message.wayBack_eq.1 hback
    have hmoved : (m.movePosition position).wayBack =
        ((⟨kind, run, position, xs⟩ :: path : List Opened).map Opened.frame, inside) := by
      rw [Message.wayBack_eq]
      refine ⟨?_, hhandlers⟩
      rw [Message.movePosition, hframes]
      rfl
    refine enter hdistinct x (fun y hy => hsequences y (by simp [Mediator.sequencesOf, hy]))
      (fun l hl => hleaves l (by simp [Mediator.leavesOf, hl])) ho ?_ hpath hmoved
      (S.fit_wayBack hfit _ _)
    -- behind the child, the children behind it
    intro near far hpath m bus hback hfit
    refine children hdistinct xs (fun y hy => hsequences y (by simp [Mediator.sequencesOf, hy]))
      (fun l hl => hleaves l (by simp [Mediator.leavesOf, hl])) hmem hguarded hbehind hguards ?_
      hpath hback hfit
    simp only [Mediator.leavesOf, Mediator.stopsOf] at h
    rw [List.append_assoc, List.append_assoc]
    exact h

end

/-- Suspended at every call that is handed off and resumed from the frames, a tree of
sequences of any shape comes to the end that a run straight through has: every leaf was
entered once, from left to right, every reply came back to the innermost sequence around
its call, no frame is left, and the fault handlers are those from before. -/
theorem straight_through (S : Circumstances) {name : String} {kind : SequenceKind}
    {list : List Mediator} {onError : Option Mediator}
    (hdistinct : ((Mediator.sequence name kind list onError).sequences.map Mediator.key?).Nodup)
    (hleaves : ∀ l ∈ (Mediator.sequence name kind list onError).leaves, S.Behaves l) {m : Message}
    {bus : Bus} (hfit : S.fit m bus) (hempty : m.continuation = []) :
    Inevitably (step (.sequence name kind list onError)) S.world
      (fun p _ => ∃ m', p.flow = Flow.answer m' (.proceed true) [] ∧ m'.continuation = [] ∧
        m'.faultHandlers = m.faultHandlers ∧
        p.entered = (Mediator.sequence name kind list onError).leaves ∧
        p.returned = Mediator.stopsOf (Frame.start kind name) list)
      ⟨.busy m (.mediate (.sequence name kind list onError)) [], [], []⟩ bus := by
  have hback : m.wayBack = (([] : List Opened).map Opened.frame, m.faultHandlers) :=
    Message.wayBack_eq.2 ⟨hempty, rfl⟩
  have hmem : Mediator.sequence name kind list onError ∈
      (Mediator.sequence name kind list onError).sequences := by simp [Mediator.sequences]
  refine enter_sequence [] hback hfit fun m' bus' inside hback' hguards hfit' => ?_
  have hnone : ([] : List Opened) ++ [] = [] := rfl
  refine children hdistinct list (fun y hy => by simp [Mediator.sequences, hy]) hleaves hmem rfl
    rfl hguards ?_ hnone hback' hfit'
  -- behind the outermost sequence the passage is through
  intro near far hpath m bus hback hfit
  obtain ⟨rfl, rfl⟩ := List.append_eq_nil_iff.1 hpath
  obtain ⟨hframes, hhandlers⟩ := Message.wayBack_eq.1 hback
  exact .now ⟨m, rfl, hframes, hhandlers, rfl, rfl⟩

end

end Passage

/-! ## A tree of two sequences with two calls -/

namespace Nested

/-- Time goes by, and nothing else happens. -/
def Passes (bus bus' : Bus) : Prop := ∃ now rung, bus' = { bus with now, rung }

/-- A channel that delivers whatever it is given, and does nothing else. -/
structure Willing (t : Transport) : Prop where
  script : t.script = []
  byAddress : t.byAddress = ∅
  standing : t.standing = .success
  edits : t.edits = []

theorem Willing.accept {t : Transport} (h : Willing t) (address : Option String) (m : Message) :
    (t.accept address m).1 = .success ∧ Willing (t.accept address m).2 := by
  obtain ⟨hscript, haddress, hstanding, hedits⟩ := h
  cases address with
  | none =>
    simp only [Transport.accept, Transport.nextOutcome, hscript]
    exact ⟨hstanding, rfl, haddress, hstanding, hedits⟩
  | some a =>
    simp only [Transport.accept, Transport.nextOutcome, hscript, haddress, Dict.get?_empty]
    exact ⟨hstanding, rfl, rfl, hstanding, hedits⟩

/-- A message that wants a reply, on a bus with such a channel. -/
structure Fit (m : Message) (bus : Bus) : Prop where
  request : m.isOutOnly = false
  channel : Willing (bus.transport "channel")

/-- Nobody else is on the bus. -/
def quiet : Circumstances where
  world := Passes
  fit := Fit
  still bus := ⟨bus.now, bus.rung, rfl⟩
  channels := by
    rintro bus bus' ⟨now, rung, rfl⟩
    rfl
  request h := h.request
  fit_world := by
    rintro m bus bus' h ⟨now, rung, rfl⟩
    exact ⟨h.request, h.channel⟩
  fit_freshId h := ⟨h.request, h.channel⟩
  fit_wayBack h _ _ := ⟨h.request, h.channel⟩

def step (name : String) : Mediator := .recorder { id := name, name := name }

def ask : Call := { name := "ask", transport := "channel" }

/-- The inner sequence stops at its first child, the outer one at its third child. -/
def tree : Mediator :=
  .sequence "outer" .named
    [step "before", .sequence "inner" .named [.call ask, step "between"] (some (step "rescue")),
      .call ask, step "after"] none

theorem ordinary_step (name : String) : quiet.Ordinary (step name) := by
  intro m bus hfit
  refine .of_step (quiet.still bus) fun bus' hw => ⟨_, _, rfl, .now ⟨m, rfl, rfl, ?_⟩⟩
  obtain ⟨hrequest, hchannel⟩ := quiet.fit_world hfit hw
  exact ⟨hrequest, hchannel⟩

theorem sends_ask {m : Message} {bus : Bus} (hfit : Fit m bus) :
    Inevitably Flow.step Passes
      (fun f bus' => (∃ m' r flag, f = Flow.answer m' r [] ∧ r.verdict = .ok flag) ∧
        ∀ sent ∈ (bus'.transport ask.transport).sent.head?, Fit sent.message bus')
      (Flow.send ask (ask.handedOver m) [] bus).1 (Flow.send ask (ask.handedOver m) [] bus).2 := by
  have hrequest : (ask.handedOver m).isOutOnly = false :=
    Call.handedOver_isOutOnly.trans hfit.request
  -- the channel after the send
  obtain ⟨hsuccess, hwilling⟩ :=
    hfit.channel.accept (ask.handedOver m).destination (ask.handedOver m)
  obtain ⟨hsent, -⟩ := (bus.transport "channel").accept_spec (ask.handedOver m).destination
    (ask.handedOver m)
  generalize hnext : (bus.transport "channel").accept (ask.handedOver m).destination
    (ask.handedOver m) = next at hsuccess hwilling hsent
  have hsend : Flow.send ask (ask.handedOver m) [] bus =
      (.busy (ask.handedOver m) (.transmit .success []) [.implicit ask.mode],
        bus.setTransport "channel" next.2) := by
    show Flow.transmit "channel" none _ _ bus = _
    rw [Flow.transmit, Option.none_or]
    simp only [hnext, hsuccess, hfit.channel.edits, List.getElem?_nil, Option.getD_none]
  rw [hsend]
  refine .of_step (quiet.still _) fun bus₁ hw₁ => ⟨_, _, rfl, ?_⟩
  refine .of_step (quiet.still _) fun bus₂ hw₂ => ⟨_, _, rfl, ?_⟩
  refine .of_step (quiet.still _) fun bus₃ hw₃ => ⟨_, _, rfl, ?_⟩
  refine .of_step (quiet.still _) fun bus₄ hw₄ => ⟨_, _, rfl, .now ⟨⟨_, _, true, rfl, rfl⟩, ?_⟩⟩
  have hchannels : bus₄.transports = (bus.setTransport "channel" next.2).transports := by
    rw [quiet.channels hw₄, quiet.channels hw₃, quiet.channels hw₂, quiet.channels hw₁]
  have hchannel : bus₄.transport "channel" = next.2 := by
    rw [Bus.transport_congr hchannels, Bus.transport_setTransport]
  intro sent hhead
  have hlatest : sent.message = ask.handedOver m := by
    have hhead : sent ∈ (bus₄.transport "channel").sent.head? := hhead
    rw [hchannel, hsent, List.head?_cons, Option.mem_def] at hhead
    obtain rfl := Option.some.inj hhead
    rfl
  exact ⟨hlatest ▸ hrequest, hchannel ▸ hwilling⟩

theorem handsOff_ask : quiet.HandsOff ask where
  plain m bus hfit := by
    have hedits : (bus.transport ask.transport).edits = [] := hfit.channel.edits
    rw [Transport.Plain, hedits]
    simp
  ready m bus _ := rfl
  sends m bus hfit _ := sends_ask hfit
  fit_respond m bus hfit := by
    refine ⟨?_, ?_⟩
    · cases hframes : m.continuation with
      | nil =>
        simp only [Call.respond, Message.resume, hframes]
        exact hfit.request
      | cons top rest =>
        simp only [Call.respond, Message.resume, hframes]
        exact (Message.isOutOnly_removeProperty _ (by decide)).trans hfit.request
    · cases hframes : m.continuation with
      | nil =>
        simp only [Call.respond, Message.resume, hframes]
        exact hfit.channel
      | cons top rest =>
        simp only [Call.respond, Message.resume, hframes]
        exact hfit.channel

/-- Two stops, and everything runs once. -/
theorem straight_through_tree :
    Inevitably (Passage.step tree) Passes
      (fun p _ => ∃ m', p.flow = Flow.answer m' (.proceed true) [] ∧ m'.continuation = [] ∧
        m'.faultHandlers = [] ∧
        p.entered = [step "before", .call ask, step "between", .call ask, step "after"] ∧
        p.returned = [(ask, ⟨.named, "inner", 0⟩), (ask, ⟨.named, "outer", 2⟩)])
      ⟨.busy { id := ⟨0⟩ } (.mediate tree) [], [], []⟩ {} := by
  have hleaves : ∀ l ∈ tree.leaves, quiet.Behaves l := by
    have hsteps (name : String) : quiet.Behaves (step name) := ordinary_step name
    have hask : quiet.Behaves (.call ask) := handsOff_ask
    have hlist : tree.leaves =
        [step "before", .call ask, step "between", .call ask, step "after"] := rfl
    rw [hlist]
    simp only [List.forall_mem_cons]
    exact ⟨hsteps _, hask, hsteps _, hask, hsteps _, by simp⟩
  have hfit : quiet.fit { id := ⟨0⟩ } {} := ⟨rfl, rfl, rfl, rfl, rfl⟩
  exact Passage.straight_through quiet (by decide) hleaves hfit rfl

end Nested

end ServiceBus
