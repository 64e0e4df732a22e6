import ServiceBus.Proofs.Bus.Replies
import ServiceBus.Proofs.Traffic.Lookup

/-
ServiceBus.Proofs.Traffic.Registration — which buffer an aggregator finds while
runs with the same correlation identity come and go.

A run that ends makes its aggregator forget the correlation identity, whatever
buffer is found under it by then. A buffer that was closed may have been
replaced in the meantime, so the end of its run takes away the buffer of
another. `History.registered_iff` says that this is the only way in which an open
buffer gets lost, and `registration_lost` shows that it happens: a run is
closed by a reply, another one begins under its key, and only then does the
first one go on.
-/
namespace ServiceBus

open Bus

/-! ## Replies -/

/-- The reply of a branch that is not settled is accepted if its correlation identity
leads to an open buffer. -/
theorem Scatter.deliver_accepted {s : Scatter} {m : Message} {bus : Bus} {ref index : Nat}
    {buffer : Buffer}
    (hkey : (m.textProperty? Property.correlation).bind (bus.findBuffer? s.aggregator) = some ref)
    (hindex : branchOf m = some index) (hb : bus.buffer? ref = some buffer)
    (hopen : buffer.isClosed = false) (hnew : index ∉ buffer.settled)
    (hvalue : ∀ e, s.config.policy.value = some e → ∃ v, bus.evaluator e m = .ok v) :
    (s.deliver m bus).1 = .ok .accepted :=
  (deliver_accepted_iff hkey hindex hb hopen).2 ⟨hnew, .inr hvalue⟩

/-! ## One move -/

/-- A run that is concluded leaves its buffer closed, if the buffer is there. -/
theorem RunEvent.Effect.isBufferClosed_of_concluded {g : Gathering} {m : Message} {b b' b'' : Bus}
    (h : Effect (some (.concluded g m b)) b' b'') (hlt : g.buffer < b''.buffers.length) :
    b''.isBufferClosed g.buffer = true := by
  cases h with
  | closed g m hclosed => exact (Effect.closed g m hclosed).isBufferClosed hclosed
  | late g m hopen hdeadline hrung =>
    have hrun := Scatter.conclude_runState g m (b'.updateBuffer g.buffer (·.close .timeout))
    rw [buffers_of_runState hrun] at hlt
    rw [isBufferClosed_of_runState hrun, isBufferClosed_eq]
    show ((((b'.updateBuffer g.buffer (·.close .timeout)).updateBuffer g.buffer
      (·.perform .take)).buffer? g.buffer).any Buffer.isClosed) = true
    rw [updateBuffer_updateBuffer, buffer?_updateBuffer, if_pos rfl]
    cases hb : b'.buffer? g.buffer with
    | none =>
      have hle := (b'.buffer?_eq_none).1 hb
      simp only [forgetBuffer, updateBuffer, List.length_modify] at hlt
      omega
    | some buffer =>
      rw [Option.map_some, Option.any_some]
      exact Buffer.perform_isClosed_of_closed (Buffer.close_isClosed ..) .take

namespace Traffic

section Step

variable {t t' : Traffic} {e : Option RunEvent}

/-- A closed buffer stays closed. -/
theorem Step.isBufferClosed (h : Step t e t') {ref : Nat} (hc : t.bus.isBufferClosed ref = true) :
    t'.bus.isBufferClosed ref = true := by
  obtain ⟨b, he, hbuffers, -⟩ := h.effect
  have hsame : t'.bus.isBufferClosed ref = b.isBufferClosed ref := by
    rw [isBufferClosed_eq, isBufferClosed_eq, Bus.buffer?, Bus.buffer?, hbuffers]
  rw [hsame]
  exact he.isBufferClosed hc

theorem Step.isBufferClosed_eq_false (h : Step t e t') {ref : Nat}
    (ho : t'.bus.isBufferClosed ref = false) : t.bus.isBufferClosed ref = false := by
  cases hc : t.bus.isBufferClosed ref with
  | false => rfl
  | true => rw [h.isBufferClosed hc] at ho; exact ho

/-- An open buffer is found as before unless an event makes its key forgotten. -/
theorem Step.findBuffer? (h : Step t e t') {ref : Nat} {aggregator correlation : String}
    (hlt : ref < t.bus.buffers.length) (hopen : t.bus.isBufferClosed ref = false) :
    t'.bus.findBuffer? aggregator correlation = some ref ↔
      t.bus.findBuffer? aggregator correlation = some ref ∧
        ∀ event ∈ e, ¬ event.forgets aggregator correlation := by
  rw [h.findBuffer?_iff]
  cases e with
  | none => simp [not_registered_nil]
  | some event =>
    simp only [Option.toList_some, registered_singleton, List.forall_mem_singleton, Option.mem_def,
      Option.some.injEq, forall_eq']
    cases event with
    | concluded g m b => simp [RunEvent.begun, RunEvent.run, RunEvent.forgets, Run.Under,
        Gathering.run]
    | broken g m => simp [RunEvent.begun, RunEvent.run, RunEvent.forgets, Run.Under, Gathering.run]
    | began s targets m b g =>
      obtain ⟨b', he, -⟩ := h.effect
      cases he with
      | began s targets m g hbegin =>
        -- the buffer of the new run is another one, and its key was free
        obtain ⟨href, hfree, -⟩ := RunEvent.Effect.began_runState hbegin
        obtain ⟨rfl, -⟩ := Scatter.begin_eq_ok hbegin
        constructor
        · rintro (⟨r, ⟨hr, -⟩, hbuffer⟩ | ⟨hfind, -⟩)
          · obtain rfl : g.run m = r := Option.some.inj hr
            exact absurd (hbuffer.symm.trans href) (Nat.ne_of_lt hlt)
          · exact ⟨hfind, id⟩
        · rintro ⟨hfind, -⟩
          refine .inr ⟨hfind, fun hkey => ?_⟩
          obtain ⟨rfl, rfl⟩ := hkey
          exact Bool.false_ne_true (hopen.symm.trans (inProgress_eq_false.1 hfree ref hfind))

end Step

namespace History

variable {past before after : List RunEvent} {t : Traffic}

/-- A history up to one of its events. -/
theorem split (h : History past t) {e : RunEvent} (hp : past = before ++ e :: after) :
    ∃ t₁ t₂, History before t₁ ∧ Step t₁ (some e) t₂ ∧
      ∀ ref, t.bus.isBufferClosed ref = false → t₂.bus.isBufferClosed ref = false := by
  induction h generalizing after with
  | fresh hbuffers haggregators hrung => simp at hp
  | @step past t t' e' h hs ih =>
    cases e' with
    | none =>
      obtain ⟨t₁, t₂, h₁, h₂, hopen⟩ := ih (by simpa using hp)
      exact ⟨t₁, t₂, h₁, h₂, fun ref ho => hopen ref (hs.isBufferClosed_eq_false ho)⟩
    | some event =>
      rcases List.eq_nil_or_concat after with rfl | ⟨after, last, rfl⟩
      · -- the event is the last one
        obtain ⟨rfl, he⟩ := List.append_inj' hp rfl
        obtain rfl : event = e := by simpa using he
        exact ⟨_, _, h, hs, fun _ ho => ho⟩
      · have hp' : past ++ [event] = (before ++ e :: after) ++ [last] := by simpa using hp
        obtain ⟨hpast, -⟩ := List.append_inj' hp' rfl
        obtain ⟨t₁, t₂, h₁, h₂, hopen⟩ := ih hpast
        exact ⟨t₁, t₂, h₁, h₂, fun ref ho => hopen ref (hs.isBufferClosed_eq_false ho)⟩

variable {s : Scatter} {targets : List Mediator} {m : Message} {b : Bus} {g : Gathering}

/-- While the buffer of a run is open, it is found under its key exactly if no run of
that key has ended since it was opened. -/
theorem findBuffer?_eq_some (h : History past t)
    (hp : past = before ++ .began s targets m b g :: after)
    (hopen : t.bus.isBufferClosed g.buffer = false) :
    t.bus.findBuffer? s.aggregator g.correlation = some g.buffer ↔
      ∀ e ∈ after, ¬ e.forgets s.aggregator g.correlation := by
  -- along what follows the beginning; the buffer was open all the time
  induction h generalizing after with
  | fresh hbuffers haggregators hrung => simp at hp
  | @step past t t' e' h hs ih =>
    have hbefore := hs.isBufferClosed_eq_false hopen
    have hlt (hmem : .began s targets m b g ∈ past) : g.buffer < t.bus.buffers.length := by
      obtain ⟨ops, hbuffer, -⟩ := h.buffer? hmem
      exact lt_of_buffer? hbuffer
    cases e' with
    | none =>
      have hp : past = before ++ .began s targets m b g :: after := by simpa using hp
      rw [hs.findBuffer? (hlt (by simp [hp])) hbefore, ih hp hbefore]
      simp
    | some event =>
      rcases List.eq_nil_or_concat after with rfl | ⟨after, last, rfl⟩
      · obtain ⟨rfl, he⟩ := List.append_inj' hp rfl
        obtain rfl : event = .began s targets m b g := by simpa using he
        obtain ⟨b', he, -, haggregators, -⟩ := hs.effect
        cases he with
        | began s targets m g hbegin =>
          obtain ⟨-, -, hok, hrun, -⟩ := Scatter.begin_eq_ok hbegin
          rw [Bus.findBuffer?, Bus.aggregator, haggregators, ← Bus.aggregator, ← Bus.findBuffer?,
            findBuffer?_of_runState hrun, findBuffer?_openBuffer hok]
          simp
      · have hp : past ++ [event] = (before ++ .began s targets m b g :: after) ++ [last] := by
          simpa using hp
        obtain ⟨hpast, hevent⟩ := List.append_inj' hp rfl
        obtain rfl : event = last := by simpa using hevent
        rw [hs.findBuffer? (hlt (by simp [hpast])) hbefore, ih hpast hbefore]
        simp [or_imp, forall_and]

/-- The buffer of a run that was concluded is closed. -/
theorem isBufferClosed_of_concluded (h : History past t) {g' : Gathering} {m' : Message} {b' : Bus}
    (hmem : .concluded g' m' b' ∈ past) : t.bus.isBufferClosed g'.buffer = true := by
  induction h with
  | fresh hbuffers haggregators hrung => simp at hmem
  | @step past t t' e h hs ih =>
    rcases List.mem_append.1 hmem with hmem | hmem
    · exact hs.isBufferClosed (ih hmem)
    · -- the run has begun, so its buffer is there
      have hbegun := (h.step hs).mem_begun_of_mem_ended (r := g'.run m')
        (List.mem_filterMap.2 ⟨_, List.mem_append_right _ hmem, rfl⟩)
      have hlt : g'.buffer < t'.bus.buffers.length :=
        List.mem_range.1 ((h.step hs).buffers ▸ List.mem_map_of_mem hbegun)
      obtain ⟨b₁, he, hbuffers, -⟩ := hs.effect
      rw [isBufferClosed_eq, Bus.buffer?, hbuffers, ← Bus.buffer?, ← isBufferClosed_eq]
      rw [hbuffers] at hlt
      rw [Option.mem_toList] at hmem
      cases hmem
      exact he.isBufferClosed_of_concluded hlt

/-- The buffer of a run is found as long as it is open, unless another run of the same key
ends, or a branch of it breaks a rule; and only the end of a run of that key lets
another one begin beside it. While it is found, it takes the replies that its
branches wait for. -/
theorem registered_iff (h : History (before ++ .began s targets m b g :: after) t)
    (hopen : t.bus.isBufferClosed g.buffer = false) :
    (t.bus.findBuffer? s.aggregator g.correlation = some g.buffer ↔
      ∀ e ∈ after, ¬ e.forgets s.aggregator g.correlation) ∧
    (∀ g' m' b', .concluded g' m' b' ∈ after → g'.buffer ≠ g.buffer) ∧
    (∀ middle s' targets' m' b' g' later,
      after = middle ++ .began s' targets' m' b' g' :: later → s'.aggregator = s.aggregator →
      g'.correlation = g.correlation → ∃ e ∈ middle, e.forgets s.aggregator g.correlation) ∧
    ((∀ e ∈ after, ¬ e.forgets s.aggregator g.correlation) →
      ∀ reply index buffer, reply.textProperty? Property.correlation = some g.correlation →
        Scatter.branchOf reply = some index → t.bus.buffer? g.buffer = some buffer →
        index ∉ buffer.settled →
        (∀ e, s.config.policy.value = some e → ∃ v, t.bus.evaluator e reply = .ok v) →
        (s.deliver reply t.bus).1 = .ok .accepted) := by
  have hfound := h.findBuffer?_eq_some rfl hopen
  refine ⟨hfound, fun g' m' b' hmem hsame => ?_, ?_, ?_⟩
  · have hclosed := h.isBufferClosed_of_concluded (List.mem_append_right _
      (List.mem_cons_of_mem _ hmem))
    rw [hsame, hopen] at hclosed
    exact Bool.false_ne_true hclosed
  · rintro middle s' targets' m' b' g' later rfl hs hg
    by_contra hnone
    -- up to the second beginning the first buffer is open, and it would still be found
    have hp : before ++ .began s targets m b g :: (middle ++ .began s' targets' m' b' g' :: later) =
        (before ++ .began s targets m b g :: middle) ++ .began s' targets' m' b' g' :: later := by
      simp
    obtain ⟨t₁, t₂, h₁, hstep, hback⟩ := h.split hp
    have hopen₁ := hstep.isBufferClosed_eq_false (hback g.buffer hopen)
    have hfound₁ := (h₁.findBuffer?_eq_some rfl hopen₁).2 fun e he hf => hnone ⟨e, he, hf⟩
    obtain ⟨b₁, heffect, -⟩ := hstep.effect
    cases heffect with
    | began s' targets' m' g' hbegin =>
      obtain ⟨-, hfree, -⟩ := RunEvent.Effect.began_runState hbegin
      rw [hs, hg] at hfree
      have := inProgress_eq_false.1 hfree g.buffer hfound₁
      rw [hopen₁] at this
      exact Bool.false_ne_true this
  · intro hkept reply index buffer hkey hindex hbuffer hnew hvalue
    have hfinds : (reply.textProperty? Property.correlation).bind
        (t.bus.findBuffer? s.aggregator) = some g.buffer := by
      rw [hkey, Option.bind_some]
      exact hfound.2 hkept
    rw [isBufferClosed_eq, hbuffer, Option.any_some] at hopen
    exact Scatter.deliver_accepted hfinds hindex hbuffer hopen hnew hvalue

end History

/-! ## A buffer that gets lost

Two scatter-gathers share an aggregator and have one target each, a call that is
handed off. -/

namespace Sharing

def shared (name : String) : Scatter where
  name
  config := ⟨true, .json, .body, { correlation := some "id" }, none⟩
  aggregator := "shared"

def handedOff : Mediator :=
  .editor "hand-off" [.setProperty Property.continuationCall (.bool true)] false

def request (id : Nat) : Message := { id := ⟨id⟩ }

/-- The reply of the only branch of either run. -/
def reply : Message :=
  ((request 9).setProperty Property.correlation (.text "x")).setProperty Property.branchIndex
    (.int 0)

/-- Both runs have the correlation identity `x`. -/
def start : Bus := { evaluator := fun _ _ => .ok (.text "x") }

/-- The first run waits for its reply. -/
def waiting : Flow × Bus × List RunEvent :=
  advance 8 (.busy (request 0) (.mediate (.scatter (shared "first") [(none, handedOff)])) []) start

/-- The reply has closed the buffer of the first run, which has not yet gone on. -/
def replied : Bus := ((shared "first").deliver reply waiting.2.1).2

def secondRun : Gathering := ⟨shared "second", "x", 1, none, [(0, handedOff)]⟩

/-- The second run has begun. -/
def begun : Bus := ((shared "second").begin [handedOff] (request 1) replied).2

/-- The first run has gone on and is concluded. -/
def concluded : Flow × Bus × List RunEvent := advance 1 waiting.1 begun

theorem history_begun :
    History
      (waiting.2.2 ++ .began (shared "second") [handedOff] (request 1) replied secondRun :: [])
      ⟨begun, [.gathering (request 1) secondRun [] [], waiting.1]⟩ := by
  have h₀ : History [] ⟨start, []⟩ := .fresh rfl rfl (Nat.le_refl _)
  have h₁ := History.advance [] [] (h₀.step (.start [] (request 0)
    (.mediate (.scatter (shared "first") [(none, handedOff)])) [])) 8
  have h₂ := h₁.step (.reply _ (shared "first") reply)
  have h₃ := h₂.step (.start _ (request 1)
    (.mediate (.scatter (shared "second") [(none, handedOff)])) [])
  have hbegin : (shared "second").begin [handedOff] (request 1) replied =
      (.ok secondRun, begun) := rfl
  simpa [waiting, replied] using History.begin [] _ h₃ hbegin

theorem history_concluded :
    History (waiting.2.2 ++ .began (shared "second") [handedOff] (request 1) replied secondRun ::
        concluded.2.2)
      ⟨concluded.2.1, [.gathering (request 1) secondRun [] [], concluded.1]⟩ := by
  have h := History.advance [.gathering (request 1) secondRun [] []] [] history_begun 1
  simpa [concluded] using h

/-- Before the first run goes on, the buffer of the second one is found. -/
theorem registered_iff_begun : begun.isBufferClosed secondRun.buffer = false ∧
    begun.findBuffer? "shared" "x" = some 1 := by
  have hopen : begun.isBufferClosed secondRun.buffer = false := rfl
  exact ⟨hopen, (History.registered_iff history_begun hopen).1.2 (by simp)⟩

end Sharing

open Sharing in
/-- An open buffer need not be found, and the reply of its branch is rejected then: the
first run is concluded after the second one has begun. -/
theorem registration_lost : ∃ past t s targets m b g, History past t ∧
    .began s targets m b g ∈ past ∧ t.bus.isBufferClosed g.buffer = false ∧
    t.bus.findBuffer? s.aggregator g.correlation = none ∧
    reply.textProperty? Property.correlation = some g.correlation ∧
    Scatter.branchOf reply = some 0 ∧ (s.deliver reply t.bus).1 = .ok .rejected :=
  ⟨_, _, shared "second", [handedOff], request 1, replied, secondRun, history_concluded, by simp,
    rfl, rfl, rfl, rfl, rfl⟩

end Traffic

end ServiceBus
