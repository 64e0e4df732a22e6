import ServiceBus.Proofs.Traffic.History

/-
ServiceBus.Proofs.Traffic.Lookup — what an aggregator finds, told by the events.

A buffer comes under a key only where its run begins, and whatever is found there
goes when some run of the key ends. So an aggregator finds the buffer of the run
that is `Registered`: its beginning is the last event of the key
(`History.findBuffer?_iff`). Such a run has not ended
(`History.not_ended_of_registered`).
-/
namespace ServiceBus

open Bus

/-! ## The run that is registered -/

/-- Whether the buffer of a run is opened under this key. -/
def Run.Under (r : Run) (aggregator correlation : String) : Prop :=
  r.scatter.aggregator = aggregator ∧ r.correlation = correlation

/-- The run of an event. -/
def RunEvent.run : RunEvent → Run
  | .began _ _ m _ g => g.run m
  | .concluded g m _ => g.run m
  | .broken g m => g.run m

theorem RunEvent.run_of_ended {e : RunEvent} {r : Run} (h : e.ended = some r) : e.run = r := by
  cases e with
  | began s targets m b g => simp [ended] at h
  | concluded g m b => exact Option.some.inj h
  | broken g m => exact Option.some.inj h

/-- The last event of a key is that this run begins. -/
def Registered (past : List RunEvent) (aggregator correlation : String) (r : Run) : Prop :=
  ∃ before e after, past = before ++ e :: after ∧ e.begun = some r ∧
    r.Under aggregator correlation ∧ ∀ e' ∈ after, ¬ e'.run.Under aggregator correlation

section Registered

variable {past later : List RunEvent} {aggregator correlation : String} {r : Run}

theorem not_registered_nil : ¬ Registered [] aggregator correlation r := by
  rintro ⟨before, e, after, hpast, -⟩
  simp at hpast

theorem registered_singleton {e : RunEvent} : Registered [e] aggregator correlation r ↔
    e.begun = some r ∧ r.Under aggregator correlation := by
  constructor
  · rintro ⟨before, e', after, hpast, hbegun, hkey, -⟩
    obtain ⟨-, rfl, -⟩ : before = [] ∧ e = e' ∧ after = [] := by
      simpa [eq_comm, List.append_eq_cons_iff] using hpast
    exact ⟨hbegun, hkey⟩
  · rintro ⟨hbegun, hkey⟩
    exact ⟨[], e, [], rfl, hbegun, hkey, by simp⟩

/-- A run stays registered behind further events as long as none is of its key. -/
theorem registered_append : Registered (past ++ later) aggregator correlation r ↔
    Registered later aggregator correlation r ∨ (Registered past aggregator correlation r ∧
      ∀ e ∈ later, ¬ e.run.Under aggregator correlation) := by
  constructor
  · rintro ⟨before, e, after, hpast, hbegun, hkey, hlast⟩
    rcases List.append_eq_append_iff.1 hpast with ⟨middle, -, rfl⟩ | ⟨middle, rfl, hafter⟩
    · exact .inl ⟨middle, e, after, rfl, hbegun, hkey, hlast⟩
    · cases middle with
      | nil => exact .inl ⟨[], e, after, hafter.symm, hbegun, hkey, hlast⟩
      | cons e' middle =>
        obtain ⟨rfl, rfl⟩ := List.cons.inj hafter
        refine .inr ⟨⟨before, e, middle, rfl, hbegun, hkey, ?_⟩, ?_⟩
        · exact fun e' he' => hlast e' (List.mem_append_left _ he')
        · exact fun e' he' => hlast e' (List.mem_append_right _ he')
  · rintro (⟨before, e, after, rfl, hbegun, hkey, hlast⟩ |
      ⟨⟨before, e, after, rfl, hbegun, hkey, hlast⟩, hlater⟩)
    · exact ⟨past ++ before, e, after, by simp, hbegun, hkey, hlast⟩
    · refine ⟨before, e, after ++ later, by simp, hbegun, hkey, fun e' he' => ?_⟩
      exact (List.mem_append.1 he').elim (hlast e') (hlater e')

/-- Behind an event of the key, only a run that begins later can be registered, unless it
begins with that event. -/
theorem Registered.of_append_cons {before after : List RunEvent} {e : RunEvent}
    (h : Registered (before ++ e :: after) aggregator correlation r)
    (hkey : e.run.Under aggregator correlation) (hne : e.begun ≠ some r) :
    Registered after aggregator correlation r := by
  rw [List.append_cons, registered_append, registered_append, registered_singleton] at h
  rcases h with h | ⟨⟨hbegun, -⟩ | ⟨-, hother⟩, -⟩
  · exact h
  · exact absurd hbegun hne
  · exact absurd hkey (hother e (List.mem_singleton_self e))

theorem Registered.under (h : Registered past aggregator correlation r) :
    r.Under aggregator correlation := by
  obtain ⟨before, e, after, -, -, hkey, -⟩ := h
  exact hkey

theorem Registered.mem_begun (h : Registered past aggregator correlation r) :
    r ∈ past.filterMap RunEvent.begun := by
  obtain ⟨before, e, after, rfl, hbegun, -⟩ := h
  exact List.mem_filterMap.2 ⟨e, by simp, hbegun⟩

end Registered

/-! ## What is found -/

/-- An event of the key decides what is found there afterwards: the buffer of the run that
begins, or nothing. -/
theorem RunEvent.Effect.findBuffer?_iff {e : Option RunEvent} {b b' : Bus} (h : Effect e b b')
    {aggregator correlation : String} {ref : Nat} :
    b'.findBuffer? aggregator correlation = some ref ↔
      (∃ r, Registered e.toList aggregator correlation r ∧ r.buffer = ref) ∨
      (b.findBuffer? aggregator correlation = some ref ∧
        ∀ event ∈ e.toList, ¬ event.run.Under aggregator correlation) := by
  have ended (g : Gathering) (m : Message) (event : RunEvent) (hnone : event.begun = none)
      (hevent : event.run = g.run m) (b₀ : Bus)
      (hb₀ : b₀.findBuffer? aggregator correlation = b.findBuffer? aggregator correlation)
      (hrun : b'.runState = (b₀.forgetBuffer g.scatter.aggregator g.correlation).runState) :
      b'.findBuffer? aggregator correlation = some ref ↔
        (∃ r, Registered (some event).toList aggregator correlation r ∧ r.buffer = ref) ∨
        (b.findBuffer? aggregator correlation = some ref ∧
          ∀ e ∈ (some event).toList, ¬ e.run.Under aggregator correlation) := by
    rw [findBuffer?_of_runState hrun, findBuffer?_forgetBuffer, hb₀]
    simp only [Option.toList_some, registered_singleton, hnone, List.forall_mem_singleton, hevent]
    by_cases hkey : aggregator = g.scatter.aggregator ∧ correlation = g.correlation
    · simp [hkey.1, hkey.2, Run.Under, Gathering.run]
    · have hother : ¬ (g.run m).Under aggregator correlation :=
        fun hk => hkey ⟨hk.1.symm, hk.2.symm⟩
      simp [hkey, hother]
  cases h with
  | served h =>
    obtain ⟨ref', ops, -, he⟩ := h
    rw [findBuffer?_of_runState he]
    simp [not_registered_nil, Bus.findBuffer?, Bus.aggregator, Bus.updateBuffer]
  | began s targets m g h =>
    obtain ⟨hscatter, -, hok, hrun, -⟩ := Scatter.begin_eq_ok h
    rw [findBuffer?_of_runState hrun, findBuffer?_openBuffer hok]
    simp only [Option.toList_some, registered_singleton, List.forall_mem_singleton, RunEvent.begun,
      RunEvent.run]
    by_cases hkey : aggregator = s.aggregator ∧ correlation = g.correlation
    · simp [hkey.1, hkey.2, Run.Under, Gathering.run, hscatter]
    · have hother : ¬ (g.run m).Under aggregator correlation :=
        fun hk => hkey ⟨hk.1.symm.trans (congrArg Scatter.aggregator hscatter), hk.2.symm⟩
      simp [hkey, hother, and_assoc]
  | closed g m _ =>
    exact ended g m _ rfl rfl (b.updateBuffer g.buffer (·.perform .take)) rfl
      (Scatter.conclude_runState g m b)
  | late g m _ _ _ =>
    exact ended g m _ rfl rfl ((b.updateBuffer g.buffer (·.close .timeout)).updateBuffer g.buffer
      (·.perform .take)) rfl
      (Scatter.conclude_runState g m (b.updateBuffer g.buffer (·.close .timeout)))
  | broken g m h => exact ended g m _ rfl rfl b rfl h

namespace Traffic

theorem Step.findBuffer?_iff {t t' : Traffic} {e : Option RunEvent} (h : Step t e t')
    {aggregator correlation : String} {ref : Nat} :
    t'.bus.findBuffer? aggregator correlation = some ref ↔
      (∃ r, Registered e.toList aggregator correlation r ∧ r.buffer = ref) ∨
      (t.bus.findBuffer? aggregator correlation = some ref ∧
        ∀ event ∈ e.toList, ¬ event.run.Under aggregator correlation) := by
  obtain ⟨b, he, -, haggregators, -⟩ := h.effect
  rw [Bus.findBuffer?, Bus.aggregator, haggregators, ← Bus.aggregator, ← Bus.findBuffer?]
  exact he.findBuffer?_iff

namespace History

variable {past : List RunEvent} {t : Traffic} {aggregator correlation : String} {r : Run}

/-- The buffer found under a key is that of the run registered there. -/
theorem findBuffer?_iff (h : History past t) {ref : Nat} :
    t.bus.findBuffer? aggregator correlation = some ref ↔
      ∃ r, Registered past aggregator correlation r ∧ r.buffer = ref := by
  induction h with
  | fresh hbuffers haggregators hrung =>
    simp [Bus.findBuffer?, Bus.aggregator, haggregators, not_registered_nil]
  | @step past t t' e h hs ih =>
    rw [hs.findBuffer?_iff, ih]
    simp only [registered_append, or_and_right, exists_or, and_right_comm, exists_and_right]

theorem scatter_of_began (h : History past t) {s : Scatter} {targets : List Mediator} {m : Message}
    {b : Bus} {g : Gathering} (hg : .began s targets m b g ∈ past) : g.scatter = s := by
  obtain ⟨b', hbegin⟩ := h.began hg
  exact (Scatter.begin_eq_ok hbegin).1

/-- A run that is registered has not ended. -/
theorem not_ended_of_registered (h : History past t)
    (hr : Registered past aggregator correlation r) : r ∉ past.filterMap RunEvent.ended := by
  induction h with
  | fresh hbuffers haggregators hrung => exact absurd hr not_registered_nil
  | @step past t t' e h hs ih =>
    cases e with
    | none => simpa using ih (by simpa using hr)
    | some event =>
      simp only [Option.toList_some, registered_append, registered_singleton,
        List.forall_mem_singleton] at hr
      rw [List.filterMap_append, List.mem_append, not_or]
      rcases hr with ⟨hbegun, -⟩ | ⟨hr, hother⟩
      · -- the run begins only now, so it cannot have ended before
        refine ⟨fun hended => ?_, ?_⟩
        · have hbuffers := (h.step hs).buffers
          have hnodup : ((past.filterMap RunEvent.begun ++ [r]).map Run.buffer).Nodup := by
            have hbegun' : (past ++ (some event).toList).filterMap RunEvent.begun =
                past.filterMap RunEvent.begun ++ [r] := by simp [hbegun]
            rw [← hbegun', hbuffers]
            exact List.nodup_range
          rw [List.map_append] at hnodup
          exact (List.nodup_append'.1 hnodup).2.2
            (List.mem_map_of_mem (h.mem_begun_of_mem_ended hended)) (by simp)
        · cases event with
          | began s targets m b g => simp [RunEvent.ended]
          | concluded g m b => simp [RunEvent.begun] at hbegun
          | broken g m => simp [RunEvent.begun] at hbegun
      · refine ⟨ih hr, fun hended => ?_⟩
        have hevent : event.ended = some r := by simpa using hended
        exact hother (RunEvent.run_of_ended hevent ▸ hr.under)

end History

end Traffic

end ServiceBus
