import ServiceBus.Proofs.Traffic.Effect
import Mathlib.Data.List.Pairwise

/-
ServiceBus.Proofs.Traffic.History — flows that take turns on one bus.

`Traffic.Step` is one move of any of the flows under way, the beginning or the
giving up of a flow, a reply that arrives for a branch, or anything that happens
elsewhere and leaves buffers and aggregators alone, such as the passing of
time. `Traffic.History past t` says that `t` may come about from a bus without
buffers, with the events `past` in this order.

Three things hold along every history, whatever the flows do and whichever of
them goes on next.

  - Buffers: each run has a buffer of its own, found under its reference for
    ever, and it is only contributed to until the run ends
    (`History.buffers`, `History.buffer?`).
  - Runs: a run that ends has begun, and ends once (`History.runs`).
  - Conclusions: the buffer of a run that is concluded was closed by a
    contribution, or by the deadline once it had passed
    (`History.concluded`).
-/
namespace ServiceBus

/-! ## Moves -/

/-- A bus with the flows that are under way on it. -/
structure Traffic where
  bus : Bus
  flows : List Flow

namespace Traffic

/-- The runs that are in progress. -/
def runs (t : Traffic) : List Run := t.flows.flatMap Flow.runs

/-- One move, with the event that it is for the runs. -/
inductive Step : Traffic → Option RunEvent → Traffic → Prop where
  /-- A flow goes on. -/
  | move {b b' : Bus} {f f' : Flow} (before after : List Flow) (h : f.step b = some (f', b')) :
      Step ⟨b, before ++ f :: after⟩ (f.event? b) ⟨b', before ++ f' :: after⟩
  /-- A flow is begun, with any task. -/
  | start {b : Bus} (flows : List Flow) (m : Message) (task : Task) (k : List Pending) :
      Step ⟨b, flows⟩ none ⟨b, .busy m task k :: flows⟩
  /-- A flow is given up. -/
  | drop {b : Bus} (before after : List Flow) (f : Flow) :
      Step ⟨b, before ++ f :: after⟩ none ⟨b, before ++ after⟩
  /-- A reply arrives for a branch. -/
  | reply {b : Bus} (flows : List Flow) (s : Scatter) (m : Message) :
      Step ⟨b, flows⟩ none ⟨(s.deliver m b).2, flows⟩
  /-- Anything else happens; the clock is only put forward. -/
  | elsewhere {b b' : Bus} (flows : List Flow) (hbuffers : b'.buffers = b.buffers)
      (haggregators : b'.aggregators = b.aggregators) (hnow : b.now ≤ b'.now)
      (hrung : b'.rung ≤ b'.now) : Step ⟨b, flows⟩ none ⟨b', flows⟩

/-- What may come about, with the events on the way. -/
inductive History : List RunEvent → Traffic → Prop where
  | fresh {b : Bus} (hbuffers : b.buffers = []) (haggregators : b.aggregators = ∅)
      (hrung : b.rung ≤ b.now) : History [] ⟨b, []⟩
  | step {past : List RunEvent} {t t' : Traffic} {e : Option RunEvent} (h : History past t)
      (hs : Step t e t') : History (past ++ e.toList) t'

/-- The flow and the bus after at most `limit` moves of a flow, and the events of these
moves. -/
def advance : Nat → Flow → Bus → Flow × Bus × List RunEvent
  | 0, f, b => (f, b, [])
  | limit + 1, f, b =>
    match f.step b with
    | some (f', b') =>
      let (last, bus, events) := advance limit f' b'
      (last, bus, (f.event? b).toList ++ events)
    | none => (f, b, [])

theorem History.advance {past : List RunEvent} {b : Bus} {f : Flow} (before after : List Flow)
    (h : History past ⟨b, before ++ f :: after⟩) (limit : Nat) :
    History (past ++ (advance limit f b).2.2)
      ⟨(advance limit f b).2.1, before ++ (advance limit f b).1 :: after⟩ := by
  induction limit generalizing past f b with
  | zero => simpa [Traffic.advance] using h
  | succ limit ih =>
    unfold Traffic.advance
    cases hs : f.step b with
    | none => simpa using h
    | some next =>
      obtain ⟨f', b'⟩ := next
      have hlast := ih (h.step (.move before after hs))
      simpa using hlast

/-- A run begins. -/
theorem History.begin {past : List RunEvent} {b b' : Bus} {m : Message} {s : Scatter}
    {targets : List (Option String × Mediator)} {k : List Pending} {g : Gathering}
    (before after : List Flow)
    (h : History past ⟨b, before ++ .busy m (.mediate (.scatter s targets)) k :: after⟩)
    (hb : s.begin (targets.map Prod.snd) m b = (.ok g, b')) :
    History (past ++ [.began s (targets.map Prod.snd) m b g])
      ⟨b', before ++ .gathering m g [] k :: after⟩ := by
  have hs : (Flow.busy m (.mediate (.scatter s targets)) k).step b =
      some (.gathering m g [] k, b') := by
    simp [Flow.step, Flow.work, Flow.mediate, hb]
  have hlast := h.step (.move before after hs)
  simpa [Flow.event?, hb] using hlast

/-- A run is concluded. -/
theorem History.conclude {past : List RunEvent} {b : Bus} {m : Message} {g : Gathering}
    {branches : List (Nat × Flow)} {k : List Pending} (before after : List Flow)
    (h : History past ⟨b, before ++ .gathering m g branches k :: after⟩)
    (hclosed : b.isBufferClosed g.buffer = true) :
    History (past ++ [.concluded g m b])
      ⟨(Flow.conclude m g k b).2, before ++ (Flow.conclude m g k b).1 :: after⟩ := by
  have hevent : (Flow.gathering m g branches k).event? b = some (.concluded g m b) := by
    simp [Flow.event?, hclosed]
  have hs : (Flow.gathering m g branches k).step b =
      some ((Flow.conclude m g k b).1, (Flow.conclude m g k b).2) :=
    (Flow.gather_of_concluded hevent).2.2
  have hlast := h.step (.move before after hs)
  rwa [hevent] at hlast

end Traffic

/-! ## What an event changes -/

namespace RunEvent.Effect

open Bus

variable {e : Option RunEvent} {b b' : Bus}

/-- The bus of a run that has begun is one with one more buffer. -/
theorem began_runState {s : Scatter} {targets : List Mediator} {m : Message} {g : Gathering}
    (h : s.begin targets m b = (.ok g, b')) :
    g.buffer = b.buffers.length ∧ b.inProgress s.aggregator g.correlation = false ∧
      b'.buffers = b.buffers ++
        [Buffer.opened g.correlation (s.limitsFor targets.length m b.evaluator)] ∧
      b'.now = b.now ∧ b'.rung = b.rung := by
  obtain ⟨-, -, hopen, hrun, -⟩ := Scatter.begin_eq_ok h
  obtain ⟨hfree, href, hbus⟩ := openBuffer_eq_ok hopen
  rw [hbus] at hrun
  exact ⟨href, hfree, congrArg RunState.buffers hrun, congrArg RunState.now hrun,
    congrArg RunState.rung hrun⟩

/-- No event moves the clock. -/
theorem clock (h : Effect e b b') : b'.now = b.now ∧ b'.rung = b.rung := by
  cases h with
  | served h =>
    obtain ⟨ref, ops, -, he⟩ := h
    exact ⟨congrArg RunState.now he, congrArg RunState.rung he⟩
  | began s targets m g h => exact ⟨(began_runState h).2.2.2.1, (began_runState h).2.2.2.2⟩
  | closed g m _ =>
    have he := Scatter.conclude_runState g m b
    exact ⟨congrArg RunState.now he, congrArg RunState.rung he⟩
  | late g m _ _ _ =>
    have he := Scatter.conclude_runState g m (b.updateBuffer g.buffer (·.close .timeout))
    exact ⟨congrArg RunState.now he, congrArg RunState.rung he⟩
  | broken g m h => exact ⟨congrArg RunState.now h, congrArg RunState.rung h⟩

/-- Only a run that begins opens a buffer, behind all others. -/
theorem buffers (h : Effect e b b') :
    List.range b'.buffers.length =
      List.range b.buffers.length ++ (e.toList.filterMap RunEvent.begun).map Run.buffer := by
  have same (he : b'.buffers.length = b.buffers.length) :
      List.range b'.buffers.length = List.range b.buffers.length ++ [] := by
    rw [he, List.append_nil]
  cases h with
  | served h =>
    obtain ⟨ref, ops, -, he⟩ := h
    exact same (by simpa [updateBuffer] using congrArg List.length (buffers_of_runState he))
  | began s targets m g h =>
    obtain ⟨href, -, hbuffers, -⟩ := began_runState h
    simp [hbuffers, List.range_succ, RunEvent.begun, Gathering.run, href]
  | closed g m _ =>
    have he := buffers_of_runState (Scatter.conclude_runState g m b)
    exact same (by simpa [updateBuffer, forgetBuffer] using congrArg List.length he)
  | late g m _ _ _ =>
    have he := buffers_of_runState
      (Scatter.conclude_runState g m (b.updateBuffer g.buffer (·.close .timeout)))
    exact same (by simpa [updateBuffer, forgetBuffer] using congrArg List.length he)
  | broken g m h =>
    exact same (by simpa [forgetBuffer] using congrArg List.length (buffers_of_runState h))

/-- A buffer stays where it is, and is only contributed to unless its run ends. -/
theorem buffer? (h : Effect e b b') {ref : Nat} {buffer : Buffer}
    (hb : b.buffer? ref = some buffer) :
    ∃ ops : List Buffer.Operation, b'.buffer? ref = some (buffer.performAll ops) ∧
      ((∀ r ∈ e.toList.filterMap RunEvent.ended, r.buffer ≠ ref) →
        ∀ op ∈ ops, op.contributes = true) := by
  -- a run that is concluded works on its own buffer
  have concluded (g : Gathering) (m : Message) (b₀ b₁ : Bus) (ops : List Buffer.Operation)
      (hb₁ : b₁ = b₀.updateBuffer g.buffer (·.performAll ops))
      (hb₀ : b₀.buffer? ref = some buffer) :
      ∃ ops : List Buffer.Operation,
        (Scatter.conclude g m b₁).2.2.buffer? ref = some (buffer.performAll ops) ∧
          ((∀ r ∈ (some (RunEvent.concluded g m b₁)).toList.filterMap RunEvent.ended,
            r.buffer ≠ ref) → ∀ op ∈ ops, op.contributes = true) := by
    rw [buffer?_of_runState (Scatter.conclude_runState g m b₁)]
    show ∃ ops', (b₁.updateBuffer g.buffer (·.perform .take)).buffer? ref = _ ∧ _
    rw [hb₁, updateBuffer_updateBuffer, buffer?_updateBuffer]
    by_cases hg : g.buffer = ref
    · refine ⟨ops ++ [.take], by simp [hg, hb₀, Buffer.performAll_append], fun hne => ?_⟩
      exact absurd hg (hne (g.run m) (by simp [RunEvent.ended]))
    · exact ⟨[], by simp [hg, hb₀], by simp⟩
  cases h with
  | served h =>
    obtain ⟨ops, hops, he⟩ := h.buffer? hb
    exact ⟨ops, he, fun _ => hops⟩
  | began s targets m g h =>
    obtain ⟨-, -, hbuffers, -⟩ := began_runState h
    refine ⟨[], ?_, by simp⟩
    rw [Bus.buffer?, hbuffers, List.getElem?_append_left (lt_of_buffer? hb)]
    exact hb
  | closed g m _ => exact concluded g m b b [] (b.updateBuffer_id _).symm hb
  | late g m _ _ _ => exact concluded g m b _ [.close .timeout] rfl hb
  | broken g m h => exact ⟨[], (buffer?_of_runState h ref).trans hb, by simp⟩

/-- A closed buffer stays closed. -/
theorem isBufferClosed (h : Effect e b b') {ref : Nat} (hc : b.isBufferClosed ref = true) :
    b'.isBufferClosed ref = true := by
  rw [isBufferClosed_eq] at hc ⊢
  cases hb : b.buffer? ref with
  | none => simp [hb] at hc
  | some buffer =>
    obtain ⟨ops, he, -⟩ := h.buffer? hb
    simp only [hb, Option.any_some] at hc
    rw [he, Option.any_some, Buffer.isClosed, Buffer.performAll_reason_of_closed hc]
    exact hc

end RunEvent.Effect

/-! ## What holds along a history -/

namespace Traffic

open Bus

section Step

variable {t t' : Traffic} {e : Option RunEvent}

/-- A move has the effect of its event; what happens elsewhere comes on top. -/
theorem Step.effect (h : Step t e t') :
    ∃ b, RunEvent.Effect e t.bus b ∧ t'.bus.buffers = b.buffers ∧
      t'.bus.aggregators = b.aggregators ∧ b.now ≤ t'.bus.now ∧
      (b.rung ≤ b.now → t'.bus.rung ≤ t'.bus.now) := by
  cases h with
  | move before after h => exact ⟨_, Flow.effect_of_step h, rfl, rfl, Nat.le_refl _, id⟩
  | start flows m task k => exact ⟨_, .served (.of_runState rfl), rfl, rfl, Nat.le_refl _, id⟩
  | drop before after f => exact ⟨_, .served (.of_runState rfl), rfl, rfl, Nat.le_refl _, id⟩
  | reply flows s m => exact ⟨_, .served (s.deliver_served m _), rfl, rfl, Nat.le_refl _, id⟩
  | elsewhere flows hbuffers haggregators hnow hrung =>
    exact ⟨_, .served (.of_runState rfl), hbuffers, haggregators, hnow, fun _ => hrung⟩

theorem Step.countP_runs (h : Step t e t') (p : Run → Bool) :
    t'.runs.countP p + (e.toList.filterMap RunEvent.ended).countP p ≤
      t.runs.countP p + (e.toList.filterMap RunEvent.begun).countP p := by
  cases h with
  | move before after h =>
    have hmove := Flow.countP_runs_of_step p h
    simp only [runs, List.flatMap_append, List.flatMap_cons, List.countP_append]
    omega
  | start flows m task k => simp [runs, Flow.runs]
  | drop before after f => simp [runs]
  | reply flows s m => exact Nat.le_refl _
  | elsewhere flows hbuffers haggregators hnow hrung => exact Nat.le_refl _

/-- A buffer stays where it is, and is only contributed to unless its run ends. -/
theorem Step.buffer? (h : Step t e t') {ref : Nat} {buffer : Buffer}
    (hb : t.bus.buffer? ref = some buffer) :
    ∃ ops : List Buffer.Operation, t'.bus.buffer? ref = some (buffer.performAll ops) ∧
      ((∀ r ∈ e.toList.filterMap RunEvent.ended, r.buffer ≠ ref) →
        ∀ op ∈ ops, op.contributes = true) := by
  obtain ⟨b, he, hbuffers, -⟩ := h.effect
  obtain ⟨ops, hops, hcontributes⟩ := he.buffer? hb
  exact ⟨ops, by rw [Bus.buffer?, hbuffers]; exact hops, hcontributes⟩

end Step

namespace History

variable {past : List RunEvent} {t : Traffic}

/-- Timers ring when their time has come. -/
theorem clock (h : History past t) : t.bus.rung ≤ t.bus.now := by
  induction h with
  | fresh hbuffers haggregators hrung => exact hrung
  | step h hs ih =>
    obtain ⟨b, he, -, -, -, hrung⟩ := hs.effect
    refine hrung ?_
    rw [he.clock.1, he.clock.2]
    exact ih

/-- The runs begun so far have the buffers there are, each one its own. -/
theorem buffers (h : History past t) :
    (past.filterMap RunEvent.begun).map Run.buffer = List.range t.bus.buffers.length := by
  induction h with
  | fresh hbuffers haggregators hrung => simp [hbuffers]
  | step h hs ih =>
    obtain ⟨b, he, hb, -⟩ := hs.effect
    rw [List.filterMap_append, List.map_append, ih, hb, he.buffers]

theorem nodup_begun (h : History past t) :
    ((past.filterMap RunEvent.begun).map Run.buffer).Nodup :=
  h.buffers ▸ List.nodup_range

/-- The runs in progress and those that have ended are among those that have begun. -/
theorem runs (h : History past t) (p : Run → Bool) :
    t.runs.countP p + (past.filterMap RunEvent.ended).countP p ≤
      (past.filterMap RunEvent.begun).countP p := by
  induction h with
  | fresh hbuffers haggregators hrung => exact Nat.le_refl _
  | step h hs ih =>
    have hstep := hs.countP_runs p
    simp only [List.filterMap_append, List.countP_append]
    omega

theorem mem_begun_of_mem_ended (h : History past t) {r : Run}
    (hr : r ∈ past.filterMap RunEvent.ended) : r ∈ past.filterMap RunEvent.begun := by
  classical
  have hcount := h.runs fun r' => decide (r' = r)
  have hpos := Flow.countP_pos_iff_mem.2 hr
  exact Flow.countP_pos_iff_mem.1 (by omega)

/-- A run ends once. -/
theorem nodup_ended (h : History past t) :
    ((past.filterMap RunEvent.ended).map Run.buffer).Nodup := by
  refine List.nodup_iff_count_le_one.2 fun ref => ?_
  have hbegun := List.nodup_iff_count_le_one.1 h.nodup_begun ref
  have hcount := h.runs fun r => r.buffer == ref
  simp only [List.count_eq_countP, List.countP_map] at hbegun ⊢
  exact Nat.le_trans (Nat.le_trans (Nat.le_add_left _ _) hcount) hbegun

/-- No run has ended before with the buffer of one that ends. -/
theorem ne_buffer_of_ended {e : RunEvent} (h : History (past ++ [e]) t) {r r' : Run}
    (hr : e.ended = some r) (hr' : r' ∈ past.filterMap RunEvent.ended) : r'.buffer ≠ r.buffer := by
  intro hsame
  have hnodup := h.nodup_ended
  rw [List.filterMap_append, List.map_append] at hnodup
  exact (List.nodup_append'.1 hnodup).2.2 (List.mem_map_of_mem hr') (by simp [hr, hsame])

/-- Two runs have different buffers. -/
theorem began_unique (h : History past t) {s s' : Scatter} {targets targets' : List Mediator}
    {m m' : Message} {b b' : Bus} {g g' : Gathering} (hg : .began s targets m b g ∈ past)
    (hg' : .began s' targets' m' b' g' ∈ past) (hsame : g.buffer = g'.buffer) :
    RunEvent.began s targets m b g = .began s' targets' m' b' g' := by
  have hnodup : (past.filterMap RunEvent.begun).Pairwise fun r r' => r.buffer ≠ r'.buffer :=
    List.pairwise_map.1 h.nodup_begun
  rw [List.pairwise_filterMap] at hnodup
  have : Std.Symm fun e e' : RunEvent =>
      ∀ r, e.begun = some r → ∀ r', e'.begun = some r' → r.buffer ≠ r'.buffer :=
    ⟨fun e e' he r hr r' hr' => (he r' hr' r hr).symm⟩
  by_contra hne
  exact hnodup.forall hg hg' hne (g.run m) rfl (g'.run m') rfl hsame

/-- A run that has begun was begun as its event says. -/
theorem began (h : History past t) {s : Scatter} {targets : List Mediator} {m : Message} {b : Bus}
    {g : Gathering} (hg : .began s targets m b g ∈ past) :
    ∃ b', s.begin targets m b = (.ok g, b') := by
  induction h with
  | fresh hbuffers haggregators hrung => simp at hg
  | step h hs ih =>
    rcases List.mem_append.1 hg with hg | hg
    · exact ih hg
    · obtain ⟨b', he, -⟩ := hs.effect
      rw [Option.mem_toList] at hg
      cases hg
      cases he with
      | began s targets m g h => exact ⟨_, h⟩

/-- The buffer of a run is only contributed to until the run ends. -/
theorem buffer? (h : History past t) {s : Scatter} {targets : List Mediator} {m : Message}
    {b : Bus} {g : Gathering} (hg : .began s targets m b g ∈ past) :
    ∃ ops : List Buffer.Operation,
      t.bus.buffer? g.buffer = some ((Buffer.opened g.correlation
        (s.limitsFor targets.length m b.evaluator)).performAll ops) ∧
      ((∀ r ∈ past.filterMap RunEvent.ended, r.buffer ≠ g.buffer) →
        ∀ op ∈ ops, op.contributes = true) := by
  induction h with
  | fresh hbuffers haggregators hrung => simp at hg
  | @step past t t' e h hs ih =>
    rcases List.mem_append.1 hg with hg | hg
    · obtain ⟨ops, hops, hcontributes⟩ := ih hg
      obtain ⟨later, hlater, hcontributes'⟩ := hs.buffer? hops
      refine ⟨ops ++ later, ?_, fun hended op hop => ?_⟩
      · rw [hlater, Buffer.performAll_append]
      · rw [List.filterMap_append] at hended
        rcases List.mem_append.1 hop with hop | hop
        · exact hcontributes (fun r hr => hended r (List.mem_append_left _ hr)) op hop
        · exact hcontributes' (fun r hr => hended r (List.mem_append_right _ hr)) op hop
    · obtain ⟨b', he, hb, -⟩ := hs.effect
      rw [Option.mem_toList] at hg
      cases hg
      cases he with
      | began s targets m g h =>
        obtain ⟨href, -, hbuffers, -⟩ := RunEvent.Effect.began_runState h
        refine ⟨[], ?_, by simp⟩
        rw [Bus.buffer?, hb, hbuffers, href]
        simp

/-- What the buffer of a run is when the run is concluded, if it was opened as
`start`: closed by a contribution, or by the deadline while it was open. -/
inductive Closed (start : Buffer) (due : Option Time) (now : Time) : Buffer → Prop where
  | contributed (ops : List Buffer.Operation) (hops : ∀ op ∈ ops, op.contributes = true)
      (h : (start.performAll ops).isClosed = true) : Closed start due now (start.performAll ops)
  | late (ops : List Buffer.Operation) (hops : ∀ op ∈ ops, op.contributes = true)
      (h : (start.performAll ops).isClosed = false) (time : Time) (hdue : due = some time)
      (hpassed : time ≤ now) : Closed start due now ((start.performAll ops).close .timeout)

/-- A run that is concluded has begun, on the same message, and its buffer is
closed. -/
theorem concluded (h : History past t) {g : Gathering} {m : Message} {b : Bus}
    (hg : .concluded g m b ∈ past) :
    ∃ s targets m₀ b₀ g₀ buffer, .began s targets m₀ b₀ g₀ ∈ past ∧ g.run m = g₀.run m₀ ∧
      b.buffer? g.buffer = some buffer ∧
      Closed (Buffer.opened g₀.correlation (s.limitsFor targets.length m₀ b₀.evaluator))
        (g.run m).due b.now buffer := by
  induction h with
  | fresh hbuffers haggregators hrung => simp at hg
  | @step past t t' e h hs ih =>
    rcases List.mem_append.1 hg with hg | hg
    · obtain ⟨s, targets, m₀, b₀, g₀, buffer, hbegan, hrest⟩ := ih hg
      exact ⟨s, targets, m₀, b₀, g₀, buffer, List.mem_append_left _ hbegan, hrest⟩
    · obtain ⟨b', he, -⟩ := hs.effect
      rw [Option.mem_toList] at hg
      cases hg
      -- the run has begun before, and this is its only end
      have hall := h.step hs
      have hmem := hall.mem_begun_of_mem_ended (r := g.run m) (by simp [RunEvent.ended])
      have hbegun : g.run m ∈ past.filterMap RunEvent.begun := by
        simpa [List.filterMap_append, RunEvent.begun] using hmem
      obtain ⟨event, hevent, hrun⟩ := List.mem_filterMap.1 hbegun
      have hother (r : Run) (hr : r ∈ past.filterMap RunEvent.ended) : r.buffer ≠ g.buffer :=
        hall.ne_buffer_of_ended (r := g.run m) rfl hr
      cases event with
      | concluded g' m' b'' => simp [RunEvent.begun] at hrun
      | broken g' m' => simp [RunEvent.begun] at hrun
      | began s targets m₀ b₀ g₀ =>
        have hrun : g.run m = g₀.run m₀ := (Option.some.inj hrun).symm
        have hsame : g₀.buffer = g.buffer := (congrArg Run.buffer hrun).symm
        obtain ⟨ops, hbuffer, hops⟩ := h.buffer? hevent
        have hops := hops fun r hr => hsame ▸ hother r hr
        rw [hsame] at hbuffer
        refine ⟨s, targets, m₀, b₀, g₀, ?_⟩
        cases he with
        | closed g m hclosed =>
          rw [isBufferClosed_eq, hbuffer, Option.any_some] at hclosed
          exact ⟨_, List.mem_append_left _ hevent, hrun, hbuffer, .contributed ops hops hclosed⟩
        | @late b g m timer hopen hdeadline hrung =>
          rw [isBufferClosed_eq, hbuffer, Option.any_some] at hopen
          have hpassed : timer.due ≤ t.bus.now :=
            Nat.le_trans (of_decide_eq_true hrung) h.clock
          exact ⟨_, List.mem_append_left _ hevent, hrun,
            by rw [buffer?_updateBuffer, if_pos rfl, hbuffer, Option.map_some],
            .late ops hops hopen timer.due (by simp [Gathering.run, hdeadline]) hpassed⟩

end History

end Traffic

end ServiceBus
