import ServiceBus.Endpoint.Health
import ServiceBus.Proofs.Time
import Mathlib.Data.List.Basic

/-
ServiceBus.Proofs.Health.Course — the health of an endpoint over any course of
events.

State, counter, duration and deadline are fields of their own, and a failure
may go five ways through them. `recordFailure_cases` says once what a failure
can do. `Sound` ties the fields to each other and to the log of what happened,
`Tallies` the counters; every event keeps both (`Course.sound_perform`,
`Course.tallies_perform`), so they hold after any course of events, and what is
to be known about an endpoint at any time is read off from them.

The counter of failures is a plain number; with fewer than 2^32 counted
failures in a row it fits into 32 bits, since it is their number.
-/
namespace ServiceBus.Health

/-! ## One failure -/

/-- A failure that does not count changes two totals and nothing else; one that counts
below the allowed retries leads to a retry; any other one suspends from now on. -/
theorem recordFailure_cases (h : Health) (now : Time) (code : Int32) (s : Settings) :
    (s.suspendsAtOnce code = false ∧ s.counts code = false ∧
      h.recordFailure now code s =
        (.surface, { h with total := h.total + 1, failed := h.failed + 1 })) ∨
    (s.suspendsAtOnce code = false ∧ s.counts code = true ∧ h.state ≠ .suspended ∧
      h.failures + 1 ≤ s.retries.toNat ∧
      h.recordFailure now code s =
        (.retry s.delay, { h with
          state := .retrying
          failures := h.failures + 1
          total := h.total + 1
          failed := h.failed + 1 })) ∨
    ((s.suspendsAtOnce code = true ∨ s.counts code = true ∧
        (h.state = .suspended ∨ s.retries.toNat < h.failures + 1)) ∧
      h.recordFailure now code s =
        (.suspended (h.nextDuration s), { h with
          state := .suspended
          failures := h.failures + 1
          current := some (h.nextDuration s)
          deadline := some (now + h.nextDuration s)
          total := h.total + 1
          failed := h.failed + 1
          suspensions := h.suspensions + 1 })) := by
  cases honce : s.suspendsAtOnce code with
  | true =>
    refine .inr (.inr ⟨.inl rfl, ?_⟩)
    simp only [recordFailure, honce, if_true]
    rfl
  | false =>
    cases hcounts : s.counts code with
    | false =>
      refine .inl ⟨rfl, rfl, ?_⟩
      simp [recordFailure, honce, hcounts]
    | true =>
      by_cases hretry : h.state ≠ .suspended ∧ h.failures + 1 ≤ s.retries.toNat
      · refine .inr (.inl ⟨rfl, rfl, hretry.1, hretry.2, ?_⟩)
        simp [recordFailure, honce, hcounts, hretry]
      · refine .inr (.inr ⟨.inr ⟨rfl, ?_⟩, ?_⟩)
        · by_cases hstate : h.state = .suspended
          · exact .inl hstate
          · exact .inr (Nat.lt_of_not_le fun hle => hretry ⟨hstate, hle⟩)
        · simp only [recordFailure, honce, hcounts, Bool.not_true, Bool.false_eq_true, if_false,
            if_neg hretry]
          rfl

/-! ## Courses of events -/

/-- What may happen to the health of an endpoint. -/
inductive Event where
  | success
  | failure (code : Int32) (settings : Settings)
  | check
  | snapshot
  | reset
  /-- Time passes. -/
  | advance (duration : Time)

/-- What an event answers. -/
inductive Answer where
  | done
  | verdict (verdict : Verdict)
  /-- The rest of the suspension for which a dispatch is refused, if it is. -/
  | readiness (rest : Option Time)
  | view (snapshot : Value)

/-- The answer to an event, and the health behind it. -/
def respond (h : Health) (now : Time) : Event → Answer × Health
  | .success => (.done, h.recordSuccess)
  | .failure code s => (.verdict (h.recordFailure now code s).1, (h.recordFailure now code s).2)
  | .check => (.readiness (h.rest? now), h)
  | .snapshot => (.view (h.write now), h)
  | .reset => (.done, {})
  | .advance _ => (.done, h)

/-- Whether an endpoint is active again behind an event. -/
def Event.recovers : Event → Bool
  | .success => true
  | .reset => true
  | _ => false

/-- The time that an event takes. -/
def Event.duration : Event → Time
  | .advance duration => duration
  | _ => 0

/-- Something that has happened. -/
structure Entry where
  time : Time
  event : Event
  answer : Answer

namespace Entry

def isSuccess (e : Entry) : Bool :=
  match e.event with
  | .success => true
  | _ => false

def isReset (e : Entry) : Bool :=
  match e.event with
  | .reset => true
  | _ => false

/-- Whether an endpoint is active again behind this. -/
def recovers (e : Entry) : Bool := e.event.recovers

theorem recovers_eq (e : Entry) : e.recovers = (e.isSuccess || e.isReset) := by
  obtain ⟨time, event, answer⟩ := e
  cases event <;> rfl

/-- The verdict on a failure. -/
def verdict? (e : Entry) : Option Verdict :=
  match e.answer with
  | .verdict v => some v
  | _ => none

def isFailure (e : Entry) : Bool := e.verdict?.isSome

/-- Whether this is a failure that did not just surface. -/
def counts (e : Entry) : Bool := e.verdict?.any fun v => decide (v ≠ .surface)

/-- Whether this is a failure that suspended the endpoint. -/
def suspends (e : Entry) : Bool :=
  match e.verdict? with
  | some (.suspended _) => true
  | _ => false

theorem isFailure_of_counts {e : Entry} (h : e.counts = true) : e.isFailure = true := by
  unfold counts at h
  unfold isFailure
  cases hv : e.verdict? with
  | none => simp [hv] at h
  | some v => rfl

theorem isFailure_of_suspends {e : Entry} (h : e.suspends = true) : e.isFailure = true := by
  unfold suspends at h
  unfold isFailure
  cases hv : e.verdict? with
  | none => simp [hv] at h
  | some v => rfl

/-- What has happened since the last reset, latest first. -/
def sinceReset (log : List Entry) : List Entry := log.takeWhile fun e => !e.isReset

/-- What has happened since the last success or reset, latest first. -/
def sinceRecovery (log : List Entry) : List Entry := log.takeWhile fun e => !e.recovers

theorem sinceReset_cons (e : Entry) (log : List Entry) :
    sinceReset (e :: log) = if e.isReset then [] else e :: sinceReset log := by
  cases h : e.isReset <;> simp [sinceReset, h]

theorem sinceRecovery_cons (e : Entry) (log : List Entry) :
    sinceRecovery (e :: log) = if e.recovers then [] else e :: sinceRecovery log := by
  cases h : e.recovers <;> simp [sinceRecovery, h]

/-- What has happened since the last success or reset has happened since the last
reset. -/
theorem sinceRecovery_sublist (log : List Entry) :
    (sinceRecovery log).Sublist (sinceReset log) := by
  induction log with
  | nil => exact .slnil
  | cons e log ih =>
    rw [sinceRecovery_cons, sinceReset_cons]
    cases hreset : e.isReset with
    | true => simp [recovers_eq, hreset]
    | false =>
      cases hsuccess : e.isSuccess with
      | true => simp [recovers_eq, hsuccess]
      | false => simpa [recovers_eq, hreset, hsuccess] using ih

end Entry

/-- The health of an endpoint at a time, with what has happened to it. -/
structure Course where
  health : Health := {}
  now : Time := 0
  /-- Latest first. -/
  log : List Entry := []

namespace Course

/-- One more event. -/
def perform (c : Course) (e : Event) : Course where
  health := (c.health.respond c.now e).2
  now := c.now + e.duration
  log := ⟨c.now, e, (c.health.respond c.now e).1⟩ :: c.log

/-- Events one after the other. -/
def performAll (c : Course) (events : List Event) : Course := events.foldl perform c

end Course

/-! ## What every event keeps -/

/-- The counters are those of the log. -/
structure Tallies (h : Health) (log : List Entry) : Prop where
  succeeded : h.succeeded = (Entry.sinceReset log).countP Entry.isSuccess
  failed : h.failed = (Entry.sinceReset log).countP Entry.isFailure
  suspensions : h.suspensions = (Entry.sinceReset log).countP Entry.suspends
  total : h.total = h.succeeded + h.failed
  failures : h.failures = (Entry.sinceRecovery log).countP Entry.counts

/-- One more entry, with the counters moved on by what the entry is. -/
theorem Tallies.cons {h h' : Health} {log : List Entry} (t : Tallies h log) {e : Entry}
    (hreset : e.isReset = false)
    (hsucceeded : h'.succeeded = h.succeeded + if e.isSuccess then 1 else 0)
    (hfailed : h'.failed = h.failed + if e.isFailure then 1 else 0)
    (hsuspensions : h'.suspensions = h.suspensions + if e.suspends then 1 else 0)
    (htotal : h'.total = h.total + (if e.isSuccess then 1 else 0) + if e.isFailure then 1 else 0)
    (hfailures : h'.failures = if e.isSuccess then 0 else h.failures + if e.counts then 1 else 0) :
    Tallies h' (e :: log) where
  succeeded := by
    simp [Entry.sinceReset_cons, hreset, List.countP_cons, hsucceeded, t.succeeded]
  failed := by
    simp [Entry.sinceReset_cons, hreset, List.countP_cons, hfailed, t.failed]
  suspensions := by
    simp [Entry.sinceReset_cons, hreset, List.countP_cons, hsuspensions, t.suspensions]
  total := by
    have := t.total
    omega
  failures := by
    cases hs : e.isSuccess <;>
      simp [Entry.sinceRecovery_cons, Entry.recovers_eq, hreset, hs, List.countP_cons, hfailures,
        t.failures]

/-- State, counter, duration and deadline agree with each other, and the deadline
belongs to the latest suspension. -/
structure Sound (h : Health) (log : List Entry) : Prop where
  active : h.state = .active → h.failures = 0 ∧ h.current = none ∧ h.deadline = none
  retrying : h.state = .retrying → 1 ≤ h.failures ∧ h.current = none ∧ h.deadline = none
  suspended : h.state = .suspended →
    1 ≤ h.failures ∧ 1 ≤ h.suspensions ∧ ∃ time event duration,
      log.find? Entry.suspends = some ⟨time, event, .verdict (.suspended duration)⟩ ∧
      h.current = some duration ∧ h.deadline = some (time + duration)

/-- No suspension is in force unless the endpoint is suspended. -/
theorem Sound.unsuspended {h : Health} {log : List Entry} (sound : Sound h log)
    (hs : h.state ≠ .suspended) : h.current = none ∧ h.deadline = none := by
  cases hstate : h.state with
  | active => exact (sound.active hstate).2
  | retrying => exact (sound.retrying hstate).2
  | suspended => exact absurd hstate hs

/-- An entry that suspends nothing, where state, duration and deadline stay. -/
theorem Sound.cons {h h' : Health} {log : List Entry} (sound : Sound h log) {e : Entry}
    (he : e.suspends = false) (hstate : h'.state = h.state) (hfailures : h'.failures = h.failures)
    (hsuspensions : h'.suspensions = h.suspensions) (hcurrent : h'.current = h.current)
    (hdeadline : h'.deadline = h.deadline) : Sound h' (e :: log) where
  active hs := by
    rw [hfailures, hcurrent, hdeadline]
    exact sound.active (hstate ▸ hs)
  retrying hs := by
    rw [hfailures, hcurrent, hdeadline]
    exact sound.retrying (hstate ▸ hs)
  suspended hs := by
    rw [hfailures, hsuspensions, hcurrent, hdeadline, List.find?_cons_of_neg (by simp [he])]
    exact sound.suspended (hstate ▸ hs)

/-- An endpoint that is active again. -/
theorem Sound.recovered {h : Health} {log : List Entry} (hstate : h.state = .active)
    (hfailures : h.failures = 0) (hcurrent : h.current = none) (hdeadline : h.deadline = none) :
    Sound h log where
  active _ := ⟨hfailures, hcurrent, hdeadline⟩
  retrying hs := by simp [hstate] at hs
  suspended hs := by simp [hstate] at hs

namespace Course

/-- Every event is counted. -/
theorem tallies_perform {c : Course} (t : Tallies c.health c.log) (e : Event) :
    Tallies (c.perform e).health (c.perform e).log := by
  cases e with
  | success => exact t.cons rfl rfl rfl rfl rfl rfl
  | failure code s =>
    show Tallies (c.health.recordFailure c.now code s).2
      (⟨c.now, .failure code s, .verdict (c.health.recordFailure c.now code s).1⟩ :: c.log)
    rcases recordFailure_cases c.health c.now code s with
      ⟨-, -, he⟩ | ⟨-, -, -, -, he⟩ | ⟨-, he⟩ <;> rw [he] <;> exact t.cons rfl rfl rfl rfl rfl rfl
  | check => exact t.cons rfl rfl rfl rfl rfl rfl
  | snapshot => exact t.cons rfl rfl rfl rfl rfl rfl
  | reset => exact ⟨rfl, rfl, rfl, rfl, rfl⟩
  | advance duration => exact t.cons rfl rfl rfl rfl rfl rfl

/-- Every event keeps the health sound. -/
theorem sound_perform {c : Course} (sound : Sound c.health c.log) (e : Event) :
    Sound (c.perform e).health (c.perform e).log := by
  cases e with
  | success => exact .recovered rfl rfl rfl rfl
  | failure code s =>
    show Sound (c.health.recordFailure c.now code s).2
      (⟨c.now, .failure code s, .verdict (c.health.recordFailure c.now code s).1⟩ :: c.log)
    rcases recordFailure_cases c.health c.now code s with
      ⟨-, -, he⟩ | ⟨-, -, hstate, -, he⟩ | ⟨-, he⟩
    · rw [he]
      exact sound.cons rfl rfl rfl rfl rfl rfl
    · rw [he]
      refine ⟨fun hs => by simp at hs, fun _ => ⟨Nat.le_add_left 1 _, ?_⟩, fun hs => by simp at hs⟩
      exact sound.unsuspended hstate
    · rw [he]
      refine ⟨fun hs => by simp at hs, fun hs => by simp at hs, fun _ => ⟨Nat.le_add_left 1 _,
        Nat.le_add_left 1 _, c.now, .failure code s, c.health.nextDuration s, ?_, rfl, rfl⟩⟩
      exact List.find?_cons_of_pos rfl
  | check => exact sound.cons rfl rfl rfl rfl rfl rfl
  | snapshot => exact sound.cons rfl rfl rfl rfl rfl rfl
  | reset => exact .recovered rfl rfl rfl rfl
  | advance duration => exact sound.cons rfl rfl rfl rfl rfl rfl

/-- What every event keeps holds after any course of events. -/
theorem performAll_induction {P : Course → Prop} (hstep : ∀ c e, P c → P (c.perform e))
    {c : Course} (h : P c) (events : List Event) : P (c.performAll events) := by
  induction events generalizing c with
  | nil => exact h
  | cons e events ih => exact ih (hstep c e h)

theorem tallies (start : Time) (events : List Event) :
    let c := ({ now := start } : Course).performAll events
    Tallies c.health c.log :=
  performAll_induction (P := fun c => Tallies c.health c.log) (fun _ e t => tallies_perform t e)
    ⟨rfl, rfl, rfl, rfl, rfl⟩ events

theorem sound (start : Time) (events : List Event) :
    let c := ({ now := start } : Course).performAll events
    Sound c.health c.log :=
  performAll_induction (P := fun c => Sound c.health c.log) (fun _ e h => sound_perform h e)
    (.recovered rfl rfl rfl rfl) events

end Course

/-! ## An endpoint at any time -/

/-- A dispatch is refused for the rest of a suspension that is not over. -/
theorem rest?_eq_some {h : Health} {now rest : Time} :
    h.rest? now = some rest ↔
      h.state = .suspended ∧ 0 < rest ∧ h.deadline = some (now + rest) := by
  unfold rest? remaining
  cases hd : h.deadline with
  | none => simp only [lt_irrefl, and_false, if_false, reduceCtorEq]
  | some deadline =>
    simp only [Option.some.injEq]
    constructor
    · intro he
      split at he
      · rename_i hin
        obtain rfl := Option.some.inj he
        exact ⟨hin.1, hin.2, (Time.add_sub_of_pos hin.2).symm⟩
      · simp at he
    · rintro ⟨hstate, hrest, rfl⟩
      rw [Time.add_sub_cancel_left, if_pos ⟨hstate, hrest⟩]

/-- The rest for which a dispatch is refused is the rest of the suspension. -/
theorem remaining_of_rest? {h : Health} {now rest : Time} (hr : h.rest? now = some rest) :
    h.remaining now = rest := by
  unfold rest? at hr
  split at hr
  · exact Option.some.inj hr
  · simp at hr

/-- Where no dispatch is refused, nothing is left of a suspension. -/
theorem Sound.remaining_of_ready {h : Health} {log : List Entry} (sound : Sound h log)
    {now : Time} (hr : h.rest? now = none) : h.remaining now = 0 := by
  by_cases hs : h.state = .suspended
  · by_contra hne
    have hpos : 0 < h.remaining now := lt_of_le_of_ne (Time.zero_le _) (Ne.symm hne)
    simp [rest?, hs, hpos] at hr
  · rw [remaining, (sound.unsuspended hs).2]

/-- A snapshot shows the rest of the suspension, in whole milliseconds. -/
theorem write_remaining (h : Health) (now : Time) :
    (h.write now).member? "remaining_suspend_ms" = some (.int (h.remaining now).millis) := rfl

/-- A failure that just surfaces changes two totals and nothing else. -/
theorem recordFailure_of_surface {h : Health} {now : Time} {code : Int32} {s : Settings}
    (hv : (h.recordFailure now code s).1 = .surface) :
    (h.recordFailure now code s).2 = { h with total := h.total + 1, failed := h.failed + 1 } := by
  rcases recordFailure_cases h now code s with ⟨-, -, he⟩ | ⟨-, -, -, -, he⟩ | ⟨-, he⟩
  · rw [he]
  · simp [he] at hv
  · simp [he] at hv

/-- Whatever has happened to an endpoint, in whatever order and at whatever times: its state
says which of counter, duration and deadline are set, and the deadline is that of the
latest suspension; the totals since the last reset add up, and the counter is the number
of failures since the last recovery that did not just surface; a dispatch is refused
exactly as long as a suspension lasts, to the last nanosecond, for the rest that a snapshot
shows, cut off behind its whole milliseconds, and a snapshot shows none where no dispatch is
refused; and a failure that surfaces leaves everything but two totals. -/
theorem Course.consistent (start : Time) (events : List Event) :
    let c := ({ now := start } : Course).performAll events
    let h := c.health
    (h.state = .active → h.failures = 0 ∧ h.current = none ∧ h.deadline = none) ∧
    (h.state = .retrying → 1 ≤ h.failures ∧ h.current = none ∧ h.deadline = none) ∧
    (h.state = .suspended → 1 ≤ h.failures ∧ 1 ≤ h.suspensions ∧ ∃ time event duration,
      c.log.find? Entry.suspends = some ⟨time, event, .verdict (.suspended duration)⟩ ∧
      h.current = some duration ∧ h.deadline = some (time + duration)) ∧
    (h.succeeded = (Entry.sinceReset c.log).countP Entry.isSuccess ∧
      h.failed = (Entry.sinceReset c.log).countP Entry.isFailure ∧
      h.suspensions = (Entry.sinceReset c.log).countP Entry.suspends ∧
      h.total = h.succeeded + h.failed ∧ h.suspensions ≤ h.failed ∧ h.failures ≤ h.failed) ∧
    h.failures = (Entry.sinceRecovery c.log).countP Entry.counts ∧
    (∀ rest, h.rest? c.now = some rest ↔
      h.state = .suspended ∧ 0 < rest ∧ h.deadline = some (c.now + rest)) ∧
    (∀ rest, h.rest? c.now = some rest →
      (h.write c.now).member? "remaining_suspend_ms" = some (.int rest.millis) ∧
        rest.millis ≤ rest ∧ rest < (rest.millis + 1 : Nat)) ∧
    (h.rest? c.now = none →
      (h.write c.now).member? "remaining_suspend_ms" = some (.int 0)) ∧
    (∀ code s, (h.recordFailure c.now code s).1 = .surface →
      (h.recordFailure c.now code s).2 =
        { h with total := h.total + 1, failed := h.failed + 1 }) := by
  intro c h
  have sound : Sound h c.log := Course.sound start events
  have tallies : Tallies h c.log := Course.tallies start events
  have suspensions_le : h.suspensions ≤ h.failed := by
    rw [tallies.suspensions, tallies.failed]
    exact List.countP_mono_left fun e _ => Entry.isFailure_of_suspends
  have failures_le : h.failures ≤ h.failed := by
    calc h.failures = (Entry.sinceRecovery c.log).countP Entry.counts := tallies.failures
      _ ≤ (Entry.sinceReset c.log).countP Entry.counts :=
        (Entry.sinceRecovery_sublist c.log).countP_le
      _ ≤ (Entry.sinceReset c.log).countP Entry.isFailure :=
        List.countP_mono_left fun e _ => Entry.isFailure_of_counts
      _ = h.failed := tallies.failed.symm
  have shown : ∀ rest, h.rest? c.now = some rest →
      (h.write c.now).member? "remaining_suspend_ms" = some (.int rest.millis) ∧
        rest.millis ≤ rest ∧ rest < (rest.millis + 1 : Nat) := by
    intro rest hr
    rw [write_remaining, remaining_of_rest? hr]
    exact ⟨rfl, rest.millis_le, rest.lt_millis_add_one⟩
  have ready (hr : h.rest? c.now = none) :
      (h.write c.now).member? "remaining_suspend_ms" = some (.int 0) := by
    rw [write_remaining, sound.remaining_of_ready hr]
    rfl
  exact ⟨sound.active, sound.retrying, sound.suspended,
    ⟨tallies.succeeded, tallies.failed, tallies.suspensions, tallies.total, suspensions_le,
      failures_le⟩,
    tallies.failures, fun rest => rest?_eq_some, shown, ready,
    fun code s => recordFailure_of_surface⟩

/-- In its last half millisecond a suspension still refuses a dispatch, and both the dispatch
and a snapshot are told 0. -/
example :
    let h : Health := { state := .suspended, failures := 1, deadline := some 10 }
    let now : Time := ⟨9500000⟩
    h.rest? now = some ⟨500000⟩ ∧ h.refusal now = some 0 ∧
      (h.write now).member? "remaining_suspend_ms" = some (.int 0) :=
  ⟨rfl, rfl, rfl⟩

end ServiceBus.Health
