import ServiceBus.Proofs.Traffic.Lookup

/-
ServiceBus.Proofs.Traffic.Abandoned — buffers that outlive their runs.

A run that ends, in whatever way, makes its aggregator forget its key. But a run may
also be given up from outside (`Traffic.GivesUp`): with the flow that it is in, or
inside a branch of another run that ends first, or with an attempt around it that is
cut off. Nobody closes or forgets its buffer then, and the run is `Abandoned`.

That is the only way to be left with a buffer: whatever an aggregator finds belongs to a
run that is in progress or abandoned. It does happen, and as long as the buffer is there
and open, no other run of its key can begin.
-/
namespace ServiceBus

open Bus

/-! ## Refusals -/

/-- A run is refused exactly if an open buffer is found under its key. -/
theorem Scatter.begin_refused {s : Scatter} {targets : List Mediator} {m : Message} {bus : Bus}
    {e : Failure} : (s.begin targets m bus).1 = .error e ↔
      bus.inProgress s.aggregator (s.correlationOf m bus).1 = true ∧
        e = .internal (.aggregationInProgress (s.correlationOf m bus).1) := by
  have noted (b : Bus) (expressions : List String) (aggregator correlation : String) :
      (b.noteEvaluated expressions).inProgress aggregator correlation =
        b.inProgress aggregator correlation := rfl
  have hsame := inProgress_of_runState (s.correlationOf_runState m bus).1
  unfold begin
  simp only [resolve?, openBuffer_eq, noted, hsame]
  cases bus.inProgress s.aggregator (s.correlationOf m bus).1 with
  | true => simp [eq_comm]
  | false =>
    simp only [Bool.false_eq_true, if_false, false_and, iff_false]
    split <;> simp

theorem Bus.inProgress_iff {b : Bus} {aggregator correlation : String} :
    b.inProgress aggregator correlation = true ↔ ∃ ref,
      b.findBuffer? aggregator correlation = some ref ∧ b.isBufferClosed ref = false := by
  simp [inProgress, Option.any_eq_true]

/-- An aggregator that finds nothing holds nothing. -/
theorem Bus.openCount_eq_zero {b : Bus} {aggregator : String}
    (h : ∀ correlation, b.findBuffer? aggregator correlation = none) :
    b.openCount aggregator = 0 := by
  have hempty : b.aggregator aggregator = ∅ := Dict.ext_get? h
  rw [openCount, hempty]
  rfl

/-! ## Runs that are given up -/

theorem RunEvent.ended_of_begun {e : RunEvent} {r : Run} (h : e.begun = some r) :
    e.ended = none := by
  cases e with
  | began s targets m b g => rfl
  | concluded g m b => simp [begun] at h
  | broken g m => simp [begun] at h

/-- A move that begins a run leaves none behind. -/
theorem Flow.leaves_of_begun {bus : Bus} {e : RunEvent} {r : Run} (hr : e.begun = some r) :
    ∀ {f : Flow}, f.event? bus = some e → f.leaves bus = []
  | .busy .., _ => rfl
  | .gathering m g branches k, h => by
      -- such a flow has no event but the end of its run
      simp only [event?] at h
      split at h
      · cases h
        simp [RunEvent.begun] at hr
      · split at h
        · cases h
          simp [RunEvent.begun] at hr
        · simp at h
  | .branching m g i branch others k, h => by
      simp only [event?] at h
      simp only [leaves]
      split at h
      · split at h
        · cases h
          simp [RunEvent.begun] at hr
        · simp at h
      · exact leaves_of_begun hr h

namespace Traffic

/-- A move that gives up a run without an end of its own. -/
inductive GivesUp (r : Run) : Traffic → Traffic → Prop where
  /-- The flow that the run is in is given up. -/
  | dropped {b : Bus} (before after : List Flow) (f : Flow) (h : r ∈ f.runs) :
      GivesUp r ⟨b, before ++ f :: after⟩ ⟨b, before ++ after⟩
  /-- The flow that the run is in leaves it behind. -/
  | left {b b' : Bus} {f f' : Flow} (before after : List Flow) (h : f.step b = some (f', b'))
      (hr : r ∈ f.leaves b) : GivesUp r ⟨b, before ++ f :: after⟩ ⟨b', before ++ f' :: after⟩

/-- A run that has begun, has not ended and is not in progress any more. -/
def Abandoned (past : List RunEvent) (t : Traffic) (r : Run) : Prop :=
  r ∈ past.filterMap RunEvent.begun ∧ r ∉ past.filterMap RunEvent.ended ∧ r ∉ t.runs

section Step

variable {t t' : Traffic} {e : Option RunEvent} {r : Run}

/-- A run that begins is in progress. -/
theorem Step.mem_runs_of_begun (h : Step t e t') (hr : r ∈ e.toList.filterMap RunEvent.begun) :
    r ∈ t'.runs := by
  classical
  cases h with
  | @move b b' f f' before after h =>
    obtain ⟨event, hevent, hbegun⟩ := List.mem_filterMap.1 hr
    have hevent : f.event? b = some event := Option.mem_toList.1 hevent
    have hcount := Flow.countP_runs_of_step (fun r' => decide (r' = r)) h
    simp only [hevent, Flow.leaves_of_begun hbegun hevent, Option.toList_some,
      List.filterMap_cons_some hbegun, List.filterMap_cons_none (RunEvent.ended_of_begun hbegun),
      List.filterMap_nil, List.countP_nil, List.countP_singleton, decide_true, if_true] at hcount
    have hmem : r ∈ f'.runs := Flow.countP_pos_iff_mem.1 (by omega)
    simp [runs, hmem]
  | start flows m task k => simp at hr
  | drop before after f => simp at hr
  | reply flows s m => simp at hr
  | elsewhere flows hbuffers haggregators hnow hrung => simp at hr

/-- A run stays in progress unless it ends or is given up. -/
theorem Step.givesUp (h : Step t e t') (hr : r ∈ t.runs)
    (hended : r ∉ e.toList.filterMap RunEvent.ended) (hgone : r ∉ t'.runs) : GivesUp r t t' := by
  classical
  cases h with
  | @move b b' f f' before after h =>
    simp only [runs, List.flatMap_append, List.flatMap_cons, List.mem_append, not_or] at hr hgone
    have hmem : r ∈ f.runs := by tauto
    have hcount := Flow.countP_runs_of_step (fun r' => decide (r' = r)) h
    have hleft := Flow.countP_pos_iff_mem.2 hmem
    have hafter := mt Flow.countP_pos_iff_mem.1 hgone.2.1
    have hend := mt Flow.countP_pos_iff_mem.1 hended
    exact .left before after h (Flow.countP_pos_iff_mem.1 (by omega))
  | start flows m task k => exact absurd (List.mem_append_right _ hr) hgone
  | drop before after f =>
    refine .dropped before after f ?_
    simp only [runs, List.flatMap_append, List.flatMap_cons, List.mem_append, not_or] at hr hgone
    tauto
  | reply flows s m => exact absurd hr hgone
  | elsewhere flows hbuffers haggregators hnow hrung => exact absurd hr hgone

end Step

namespace History

variable {past : List RunEvent} {t : Traffic} {r : Run}

/-- A run is abandoned by a move that gave it up. -/
theorem givenUp (h : History past t) (hr : Abandoned past t r) :
    ∃ (before : List RunEvent) (t₁ : Traffic) (e : Option RunEvent) (t₂ : Traffic)
      (after : List RunEvent), past = before ++ e.toList ++ after ∧ History before t₁ ∧
      Step t₁ e t₂ ∧ GivesUp r t₁ t₂ := by
  induction h with
  | fresh hbuffers haggregators hrung => exact absurd hr.1 (by simp)
  | @step past t t' e h hs ih =>
    obtain ⟨hbegun, hended, hgone⟩ := hr
    rw [List.filterMap_append, List.mem_append] at hbegun hended
    rw [not_or] at hended
    have hbegun : r ∈ past.filterMap RunEvent.begun :=
      hbegun.resolve_right fun hnew => hgone (hs.mem_runs_of_begun hnew)
    by_cases hmem : r ∈ t.runs
    · exact ⟨past, t, e, t', [], by simp, h, hs, hs.givesUp hmem hended.2 hgone⟩
    · obtain ⟨before, t₁, e₁, t₂, after, rfl, hrest⟩ := ih ⟨hbegun, hended.1, hmem⟩
      exact ⟨before, t₁, e₁, t₂, after ++ e.toList, by simp, hrest⟩

/-- What an aggregator finds is the buffer of the run registered under the key. That run has
not ended, so it is in progress or abandoned, and it is only abandoned by a move that gave
it up. If no run is abandoned, every buffer that is found is that of a run in progress, and
there is none where no run is in progress. A run is refused only for an open buffer of a run
that is in progress or abandoned. -/
theorem run_of_found (h : History past t) :
    (∀ aggregator correlation ref, t.bus.findBuffer? aggregator correlation = some ref ↔
      ∃ r, Registered past aggregator correlation r ∧ r.buffer = ref) ∧
    (∀ aggregator correlation r, Registered past aggregator correlation r →
      r ∉ past.filterMap RunEvent.ended ∧ (r ∈ t.runs ∨ Abandoned past t r)) ∧
    (∀ r, Abandoned past t r → ∃ (before : List RunEvent) (t₁ : Traffic) (e : Option RunEvent)
      (t₂ : Traffic) (after : List RunEvent), past = before ++ e.toList ++ after ∧
      History before t₁ ∧ Step t₁ e t₂ ∧ GivesUp r t₁ t₂) ∧
    ((∀ r, ¬ Abandoned past t r) →
      (∀ aggregator correlation ref, t.bus.findBuffer? aggregator correlation = some ref →
        ∃ r ∈ t.runs, r.Under aggregator correlation ∧ r.buffer = ref) ∧
      (t.runs = [] → ∀ aggregator, t.bus.openCount aggregator = 0)) ∧
    (∀ (s : Scatter) (targets : List Mediator) (m : Message) (e : Failure),
      (s.begin targets m t.bus).1 = .error e →
      e = .internal (.aggregationInProgress (s.correlationOf m t.bus).1) ∧
      ∃ r, Registered past s.aggregator (s.correlationOf m t.bus).1 r ∧
        t.bus.isBufferClosed r.buffer = false ∧ (r ∈ t.runs ∨ Abandoned past t r)) := by
  have live {aggregator correlation : String} {r : Run}
      (hr : Registered past aggregator correlation r) : r ∈ t.runs ∨ Abandoned past t r := by
    by_cases hmem : r ∈ t.runs
    · exact .inl hmem
    · exact .inr ⟨hr.mem_begun, h.not_ended_of_registered hr, hmem⟩
  have ofNone (hnone : ∀ r, ¬ Abandoned past t r) (aggregator correlation : String) (ref : Nat)
      (hfind : t.bus.findBuffer? aggregator correlation = some ref) :
      ∃ r ∈ t.runs, r.Under aggregator correlation ∧ r.buffer = ref := by
    obtain ⟨r, hr, hbuffer⟩ := h.findBuffer?_iff.1 hfind
    exact ⟨r, (live hr).resolve_right (hnone r), hr.under, hbuffer⟩
  refine ⟨fun _ _ _ => h.findBuffer?_iff, fun _ _ _ hr => ⟨h.not_ended_of_registered hr, live hr⟩,
    fun _ => h.givenUp, fun hnone => ⟨ofNone hnone, fun hruns aggregator => ?_⟩,
    fun s targets m e hrefused => ?_⟩
  · refine openCount_eq_zero fun correlation => Option.eq_none_iff_forall_ne_some.2 ?_
    intro ref hfind
    obtain ⟨r, hr, -⟩ := ofNone hnone aggregator correlation ref hfind
    simp [hruns] at hr
  · obtain ⟨hopen, he⟩ := Scatter.begin_refused.1 hrefused
    obtain ⟨ref, hfind, hopen⟩ := inProgress_iff.1 hopen
    obtain ⟨r, hr, rfl⟩ := h.findBuffer?_iff.1 hfind
    exact ⟨he, r, hr, hopen, live hr⟩

end History

/-! ## A buffer that is left

A run waits for a reply in the first branch of another one, which is closed by its
second branch. -/

namespace Enclosed

def inner : Scatter where
  name := "inner"
  config := ⟨true, .json, .body, { correlation := some "x" }, none⟩
  aggregator := "inner"

def outer : Scatter where
  name := "outer"
  config := ⟨true, .json, .body, { correlation := some "y", maximum := some (.literal 1) }, none⟩
  aggregator := "outer"

def handedOff : Mediator :=
  .editor "hand-off" [.setProperty Property.continuationCall (.bool true)] false

def targets : List (Option String × Mediator) :=
  [(none, .sequence "slow" .anonymous [.scatter inner [(none, handedOff)]] none),
    (none, .recorder { id := "quick", name := "quick" })]

def request (id : Nat) : Message := { id := ⟨id⟩ }

/-- An expression is its own value. -/
def start : Bus := { evaluator := fun e _ => .ok (.text e) }

/-- The outer run is over. -/
def finished : Flow × Bus × List RunEvent :=
  advance 15 (.busy (request 0) (.mediate (.scatter outer targets)) []) start

theorem history_finished : History finished.2.2 ⟨finished.2.1, [finished.1]⟩ := by
  have h₀ : History [] ⟨start, []⟩ := .fresh rfl rfl (Nat.le_refl _)
  have h₁ := h₀.step (.start [] (request 0) (.mediate (.scatter outer targets)) [])
  exact History.advance [] [] h₁ 15

/-- The run whose buffer is found is abandoned. -/
theorem run_of_found_inner : finished.2.1.findBuffer? "inner" "x" = some 1 ∧
    ∃ r, r.buffer = 1 ∧ Abandoned finished.2.2 ⟨finished.2.1, [finished.1]⟩ r := by
  have hfind : finished.2.1.findBuffer? "inner" "x" = some 1 := rfl
  obtain ⟨found, live, -⟩ := History.run_of_found history_finished
  obtain ⟨r, hr, hbuffer⟩ := (found "inner" "x" 1).1 hfind
  refine ⟨hfind, r, hbuffer, (live "inner" "x" r hr).2.resolve_left fun hmem => ?_⟩
  have hnone : (⟨finished.2.1, [finished.1]⟩ : Traffic).runs = [] := rfl
  simp [hnone] at hmem

end Enclosed

open Enclosed in
/-- A buffer may be found although no run is in progress, and keep another run of its key
from beginning: the run inside a branch is abandoned as the run around it is over. -/
theorem buffer_left : ∃ (past : List RunEvent) (t : Traffic), History past t ∧ t.runs = [] ∧
    t.bus.openCount "inner" = 1 ∧
    (inner.begin [handedOff] (request 1) t.bus).1 =
      .error (.internal (.aggregationInProgress "x")) :=
  ⟨_, _, history_finished, rfl, rfl, rfl⟩

end Traffic

end ServiceBus
