import ServiceBus.Proofs.Call.Sending
import ServiceBus.Proofs.Sequence.Passage

/-
ServiceBus.Proofs.Sequence.Leaves — a passage through one leaf of a tree.

`Circumstances` says what a tree may count on: how the bus may change between two
moves, and which messages are fit to be run on which bus. Of every leaf a contract
is known: a step that returns `true` and leaves the way back alone (`Ordinary`),
or a call that is handed off with success (`HandsOff`).

A message in the tree stands in the open sequences `path`, innermost first: its
frames are theirs. Of these sequences the flow itself still remembers those that
were not resumed since, `near`; the others are resumed from their frames.
`Through` and `Onward` say that the passage comes to its end from behind a child
and from behind a position, whatever the flow remembers; `enter_ordinary` and
`enter_handOff` lead from a leaf to what comes behind it.
-/
namespace ServiceBus

/-! ## Contracts -/

/-- What a tree of sequences may count on: the changes of the bus between two moves,
which leave the channels alone, and the messages that are fit to be run, which want
a reply. -/
structure Circumstances where
  /-- How the bus may change between two moves. -/
  world : Bus → Bus → Prop
  /-- Which messages are fit to be run on which bus. -/
  fit : Message → Bus → Prop
  still : ∀ bus, world bus bus
  channels : ∀ {bus bus'}, world bus bus' → bus'.transports = bus.transports
  request : ∀ {m bus}, fit m bus → m.isOutOnly = false
  fit_world : ∀ {m bus bus'}, fit m bus → world bus bus' → fit m bus'
  fit_freshId : ∀ {m bus}, fit m bus → fit m bus.freshId.2
  /-- Whether a message is fit does not depend on its way back. -/
  fit_wayBack : ∀ {m bus}, fit m bus → ∀ frames handlers,
    fit { m with continuation := frames, faultHandlers := handlers } bus

namespace Circumstances

variable (S : Circumstances)

/-- A step that returns `true` and leaves the way back alone. -/
def Ordinary (x : Mediator) : Prop :=
  ∀ m bus, S.fit m bus → Inevitably Flow.step S.world
    (fun f bus' => ∃ m', f = Flow.answer m' (.proceed true) [] ∧ m'.wayBack = m.wayBack ∧
      S.fit m' bus')
    (.busy m (.mediate x) []) bus

/-- A call that is handed off with success, and whose reply is taken in. -/
structure HandsOff (c : Call) : Prop where
  /-- The channel leaves fault handlers to the flow. -/
  plain : ∀ m bus, S.fit m bus → (bus.transport c.transport).Plain
  /-- The body can be moved. -/
  ready : ∀ m bus, S.fit m bus → (c.rehoming.outbound m (Envelope.capture m)).2 = .ok ()
  /-- The send succeeds, and the message that the channel was given is fit to be the
  reply. -/
  sends : ∀ m bus, S.fit m bus → m.continuation ≠ [] → Inevitably Flow.step S.world
    (fun f bus' => (∃ m' r flag, f = Flow.answer m' r [] ∧ r.verdict = .ok flag) ∧
      ∀ sent ∈ (bus'.transport c.transport).sent.head?, S.fit sent.message bus')
    (Flow.send c (c.handedOver m) [] bus).1 (Flow.send c (c.handedOver m) [] bus).2
  fit_respond : ∀ m bus, S.fit m bus → S.fit (c.respond m bus).2.1 (c.respond m bus).2.2

/-- The contract of a leaf. -/
def Behaves : Mediator → Prop
  | .call c => if c.blocking then S.Ordinary (.call c) else S.HandsOff c
  | x => S.Ordinary x

/-- The channel of a call was given a message last that has this way back and is fit. -/
def Holds (c : Call) (w : Continuation × List FaultHandler) (bus : Bus) : Prop :=
  ∃ sent earlier, (bus.transport c.transport).sent = sent :: earlier ∧
    sent.message.wayBack = w ∧ S.fit sent.message bus

variable {S}

theorem Holds.world {c : Call} {w : Continuation × List FaultHandler} {bus bus' : Bus}
    (h : S.Holds c w bus) (hw : S.world bus bus') : S.Holds c w bus' := by
  obtain ⟨sent, earlier, hsent, hback, hfit⟩ := h
  rw [Holds, Bus.transport_congr (S.channels hw)]
  exact ⟨sent, earlier, hsent, hback, S.fit_world hfit hw⟩

/-- A call that may be sent has an endpoint. -/
theorem HandsOff.endpoint {c : Call} {m : Message} {bus : Bus} (hc : S.HandsOff c)
    (hfit : S.fit m bus) (hframes : m.continuation ≠ []) {name : String}
    (hname : c.endpoint = some name) : ∃ e, bus.concrete name = .ok e := by
  cases he : bus.concrete name with
  | ok e => exact ⟨e, rfl⟩
  | error failure =>
    have hsends := hc.sends m bus hfit hframes
    have hsend : Flow.send c (c.handedOver m) [] bus =
        (Flow.answer (c.handedOver m) (.failed failure) [], bus) := by
      simp only [Flow.send, hname, Flow.dispatch, he]
    rw [hsend] at hsends
    cases hsends with
    | now hend =>
      obtain ⟨⟨m', r, flag, hend, hr⟩, -⟩ := hend
      obtain ⟨-, hreply, -⟩ := Flow.busy.inj hend
      rw [← Task.reply.inj hreply] at hr
      simp [Reply.verdict] at hr
    | move hmoves =>
      -- what has failed at once does not move
      obtain ⟨bus', -, hmoves⟩ := hmoves
      simp [Flow.answer, Flow.step, Flow.work] at hmoves

end Circumstances

/-! ## Open sequences -/

/-- A sequence with a child at hand. -/
structure Opened where
  kind : SequenceKind
  run : SequenceRun
  position : Nat
  rest : List Mediator

namespace Opened

/-- The frame of the sequence. -/
def frame (o : Opened) : Frame := ⟨o.kind, o.run.name, o.position⟩

/-- What a flow has left of the sequence. -/
def pending (o : Opened) : Pending := .children o.run o.position o.rest

/-- Whether it is a sequence of the tree. -/
def Of (root : Mediator) (o : Opened) : Prop :=
  ∃ children onError, Mediator.sequence o.run.name o.kind children onError ∈ root.sequences ∧
    o.run.guarded = onError.isSome ∧ children.drop (o.position + 1) = o.rest

theorem isAttempt_pending (near : List Opened) : ∀ p ∈ near.map pending, p.isAttempt = false := by
  intro p hp
  obtain ⟨o, -, rfl⟩ := List.mem_map.1 hp
  rfl

theorem isChildren_pending (near : List Opened) :
    (near.map pending).all Pending.isChildren = true := by
  rw [List.all_eq_true]
  intro p hp
  obtain ⟨o, -, rfl⟩ := List.mem_map.1 hp
  rfl

/-- A frame of an open sequence leads back to it. -/
theorem Of.resume? {root : Mediator} {o : Opened} (ho : o.Of root)
    (hdistinct : (root.sequences.map Mediator.key?).Nodup) (m : Message) :
    root.resume? o.frame m = some (Flow.children o.run (o.position + 1) o.rest m []) := by
  obtain ⟨children, onError, hmem, hguarded, hrest⟩ := ho
  rw [frame, Mediator.resume?_of_mem hdistinct hmem, hrest, ← hguarded]

end Opened

namespace Passage

section

variable (S : Circumstances) (root : Mediator) (Q : Passage → Bus → Prop)

/-- A passage comes to its end. -/
def Comes (p : Passage) (bus : Bus) : Prop := Inevitably (step root) S.world Q p bus

/-- From behind the child at hand of the innermost open sequence. -/
def Through (path : List Opened) (handlers : List FaultHandler) (entered : List Mediator)
    (returned : List (Call × Frame)) : Prop :=
  ∀ near far, near ++ far = path → ∀ m bus, m.wayBack = (path.map Opened.frame, handlers) →
    S.fit m bus → Comes S root Q
      ⟨Flow.answer m (.proceed true) (near.map Opened.pending), entered, returned⟩ bus

/-- From behind the position of an open sequence. -/
def Onward (o : Opened) (path : List Opened) (handlers : List FaultHandler)
    (entered : List Mediator) (returned : List (Call × Frame)) : Prop :=
  ∀ near far, near ++ far = path → ∀ m bus, m.wayBack = ((o :: path).map Opened.frame, handlers) →
    S.fit m bus → Comes S root Q
      ⟨Flow.children o.run (o.position + 1) o.rest m (near.map Opened.pending), entered, returned⟩
      bus

end

section

variable {S : Circumstances} {root : Mediator} {Q : Passage → Bus → Prop} {o : Opened}
  {path : List Opened} {handlers : List FaultHandler} {entered : List Mediator}
  {returned : List (Call × Frame)} {m : Message} {bus : Bus}

theorem Comes.of_step {p : Passage} (h : ∀ bus', S.world bus bus' → ∃ p' bus'',
    p.step root bus' = some (p', bus'') ∧ Comes S root Q p' bus'') : Comes S root Q p bus :=
  Inevitably.of_step (S.still bus) h

/-- A move of the flow that enters no leaf. -/
theorem Comes.of_flow {f : Flow} (hleaf : f.leaf? = none)
    (h : ∀ bus', S.world bus bus' → ∃ f' bus'', f.step bus' = some (f', bus'') ∧
      Comes S root Q ⟨f', entered, returned⟩ bus'') :
    Comes S root Q ⟨f, entered, returned⟩ bus := by
  refine .of_step fun bus' hw => ?_
  obtain ⟨f', bus'', hs, hcomes⟩ := h bus' hw
  refine ⟨_, bus'', step_of_flow hs, ?_⟩
  simp only [hleaf, Option.toList_none, List.append_nil]
  exact hcomes

/-- The flow goes on with the innermost sequence if it remembers it; else the frame on
top does. -/
theorem through_of_onward (hdistinct : (root.sequences.map Mediator.key?).Nodup)
    (ho : o.Of root) (h : Onward S root Q o path handlers entered returned) :
    Through S root Q (o :: path) handlers entered returned := by
  intro near far hpath m bus hback hfit
  cases near with
  | nil =>
    refine .of_step fun bus' hw => ?_
    have htop : m.continuation = o.frame :: path.map Opened.frame := (Message.wayBack_eq.1 hback).1
    refine ⟨_, bus', ?_, h [] path rfl m bus' hback (S.fit_world hfit hw)⟩
    simp [step, Flow.answer, Flow.step, Flow.work, Flow.finished?, htop,
      ho.resume? hdistinct m]
  | cons o' near =>
    obtain ⟨rfl, rfl⟩ := List.cons.inj hpath
    refine .of_flow rfl fun bus' hw => ⟨_, bus', rfl, ?_⟩
    exact h near far rfl m bus' hback (S.fit_world hfit hw)

/-! ## Leaves -/

/-- A step that returns `true`. -/
theorem enter_ordinary {x : Mediator} (hx : S.Ordinary x) (hkey : x.key? = none)
    (h : Through S root Q (o :: path) handlers (entered ++ [x]) returned) {near far : List Opened}
    (hpath : near ++ far = path) (hback : m.wayBack = ((o :: path).map Opened.frame, handlers))
    (hfit : S.fit m bus) :
    Comes S root Q ⟨.busy m (.mediate x) ((o :: near).map Opened.pending), entered, returned⟩
      bus := by
  cases hx m bus hfit with
  | now hend =>
    obtain ⟨m', hend, -⟩ := hend
    simp [Flow.answer] at hend
  | move hmoves hx =>
    refine .of_step fun bus' hw => ?_
    have hgoes : (Flow.busy m (.mediate x) ((o :: near).map Opened.pending)).step bus' = _ :=
      Flow.step_andThen (f := .busy m (.mediate x) []) rfl (Opened.isAttempt_pending (o :: near))
    refine ⟨_, _, step_of_flow hgoes, ?_⟩
    have hleaf : (Flow.busy m (.mediate x) ((o :: near).map Opened.pending)).leaf? = some x := by
      simp only [Flow.leaf?, Opened.isChildren_pending, hkey]
      rfl
    rw [hleaf]
    refine (hx bus' _ _ hw rfl).inside (Flow.inside_of_mediate hkey m bus') (by simp)
      (Opened.isAttempt_pending (o :: near)) ?_
    rintro f bus'' ⟨m', rfl, hback', hfit'⟩
    exact h (o :: near) far (congrArg (o :: ·) hpath) m' bus'' (hback'.trans hback) hfit'

/-- The reply to the call that stopped the message resumes the innermost open
sequence. -/
theorem comes_of_reply {c : Call} (hdistinct : (root.sequences.map Mediator.key?).Nodup)
    (hc : S.HandsOff c) (ho : o.Of root)
    (hholds : S.Holds c (o.frame :: (o :: path).map Opened.frame, handlers) bus)
    (h : Onward S root Q o path handlers (entered ++ [.call c]) (returned ++ [(c, o.frame)])) :
    Comes S root Q ⟨Flow.answer m (.proceed false) [], entered ++ [.call c], returned⟩ bus := by
  refine .of_step fun bus' hw => ?_
  obtain ⟨sent, earlier, hsent, hback, hfit⟩ := hholds.world hw
  have hframes : sent.message.continuation ≠ [] := by
    rw [(Message.wayBack_eq.1 hback).1]
    simp
  obtain ⟨m', bus'', hrespond, hback'⟩ :=
    Call.respond_eq_ok hback fun name hname => hc.endpoint hfit hframes hname
  have hfit' : S.fit m' bus'' := by
    have hkept := hc.fit_respond sent.message bus' hfit
    rwa [hrespond] at hkept
  refine ⟨_, bus'', ?_, h [] path rfl m' bus'' hback' hfit'⟩
  simp [step, reply, Flow.answer, Flow.step, Flow.work, Flow.finished?, hsent,
    hrespond, ho.resume? hdistinct m']

/-- A reply that stops the message stops all sequences that the flow remembers. -/
theorem comes_of_halt {c : Call} {w : Continuation × List FaultHandler} (near : List Opened)
    (hholds : S.Holds c w bus)
    (h : ∀ bus, S.Holds c w bus →
      Comes S root Q ⟨Flow.answer m (.proceed false) [], entered, returned⟩ bus) :
    Comes S root Q ⟨Flow.answer m (.proceed false) (near.map Opened.pending), entered, returned⟩
      bus := by
  induction near generalizing bus with
  | nil => exact h bus hholds
  | cons o near ih =>
    refine .of_flow rfl fun bus' hw => ⟨_, bus', rfl, ?_⟩
    exact ih (hholds.world hw)

/-- A call that is handed off stops the message, and its reply resumes behind it. -/
theorem enter_handOff {c : Call} (hdistinct : (root.sequences.map Mediator.key?).Nodup)
    (hmode : c.blocking = false) (hc : S.HandsOff c) (ho : o.Of root)
    (h : Onward S root Q o path handlers (entered ++ [.call c]) (returned ++ [(c, o.frame)]))
    (near : List Opened) (hback : m.wayBack = ((o :: path).map Opened.frame, handlers))
    (hfit : S.fit m bus) :
    Comes S root Q
      ⟨.busy m (.mediate (.call c)) ((o :: near).map Opened.pending), entered, returned⟩ bus := by
  have hframes : m.continuation = o.frame :: path.map Opened.frame :=
    (Message.wayBack_eq.1 hback).1
  refine .of_step fun bus' hw => ?_
  have hfit' : S.fit m bus' := S.fit_world hfit hw
  have hleaf : (Flow.busy m (.mediate (.call c)) ((o :: near).map Opened.pending)).leaf? =
      some (.call c) := by
    simp only [Flow.leaf?, Opened.isChildren_pending]
    rfl
  -- the send by itself, and what is left behind it
  have hgoes : (Flow.busy m (.mediate (.call c)) ((o :: near).map Opened.pending)).step bus' =
      some ((Flow.send c (c.handedOver m) [] bus').1.andThen
        (.handOff c :: (o :: near).map Opened.pending),
        (Flow.send c (c.handedOver m) [] bus').2) := by
    show some (Flow.call c m _ bus') = _
    rw [Call.call_eq_send hmode hframes (hc.ready m bus' hfit') (S.request hfit')]
    exact congrArg some ((Flow.goes_send c (c.handedOver m) bus').andThen [] _)
  refine ⟨_, _, step_of_flow hgoes, ?_⟩
  rw [hleaf]
  have hsends : Sends c (o.frame :: (o :: path).map Opened.frame, handlers)
      (Flow.send c (c.handedOver m) [] bus') :=
    .send (Call.handedOver_wayBack hback) (hc.plain m bus' hfit')
  have hcomes := (hc.sends m bus' hfit' (by simp [hframes])).and_of_step
    (I := fun f bus => Sends c (o.frame :: (o :: path).map Opened.frame, handlers) (f, bus)) hsends
    (fun hI hw => hI.congr (S.channels hw)) (fun hI hs => hI.step hs)
  have hattempt : ∀ p ∈ Pending.handOff c :: (o :: near).map Opened.pending,
      p.isAttempt = false := by
    rw [List.forall_mem_cons]
    exact ⟨rfl, Opened.isAttempt_pending (o :: near)⟩
  refine hcomes.inside ((Flow.goes_send c _ bus').inside (by simp)) (by simp) hattempt ?_
  rintro f bus'' ⟨⟨⟨m', r, flag, rfl, hr⟩, hsentfit⟩, hI⟩
  have hholds : S.Holds c (o.frame :: (o :: path).map Opened.frame, handlers) bus'' := by
    obtain ⟨sent, earlier, hsent, hback'⟩ := hI.sending.saw hr
    refine ⟨sent, earlier, hsent, hback', hsentfit sent ?_⟩
    rw [hsent]
    rfl
  refine Comes.of_flow rfl fun bus₁ hw₁ =>
    ⟨Flow.answer m' (.proceed false) ((o :: near).map Opened.pending), bus₁, ?_, ?_⟩
  · show some (Flow.afterHandOff r m' _, bus₁) = _
    rw [Flow.afterHandOff, hr]
  · exact comes_of_halt (o :: near) (hholds.world hw₁) fun bus₂ hholds₂ =>
      comes_of_reply hdistinct hc ho hholds₂ h

end

end Passage

end ServiceBus
