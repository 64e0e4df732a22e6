import ServiceBus.Proofs.Dispatch.History
import ServiceBus.Proofs.Health.Course
import ServiceBus.Proofs.Metrics.Counters
import Mathlib.Algebra.BigOperators.Fin
import Mathlib.Data.FinEnum

/-
ServiceBus.Proofs.Dispatch.Agreement — what the counters show is what the health of
endpoints says.

Failures are counted twice, in the health of an endpoint and in the measurements that
the bus logs, and both happens in two places, when an attempt ends and on the response
path. Every event adds the same to both (`Effect.adds`). So the health of an endpoint,
the log and what has happened fit together (`Tallies`) after every history from a bus on
which nothing has happened yet (`History.tallies`); and as a counter shows how many of
its events are in the log, health and counters agree (`counters_agree`).
-/
namespace ServiceBus

/-- Whether a measurement is one of a fault at an endpoint. -/
def Metric.isFaultAt (endpoint : String) : Metric → Bool
  | .faulted e _ => e = endpoint
  | _ => false

/-- Whether a measurement is one of an attempt at an endpoint that failed. -/
def Metric.isFailedAttemptAt (endpoint : String) : Metric → Bool
  | .dispatched e .fault _ => e = endpoint
  | .dispatched e .timeout _ => e = endpoint
  | _ => false

namespace Health

variable (h : Health) (now : Time) (code : Int32) (s : Settings)

theorem recordFailure_failed : (h.recordFailure now code s).2.failed = h.failed + 1 := by
  obtain ⟨-, -, he⟩ | ⟨-, -, -, -, he⟩ | ⟨-, he⟩ := recordFailure_cases h now code s <;> rw [he]

theorem recordFailure_succeeded : (h.recordFailure now code s).2.succeeded = h.succeeded := by
  obtain ⟨-, -, he⟩ | ⟨-, -, -, -, he⟩ | ⟨-, he⟩ := recordFailure_cases h now code s <;> rw [he]

/-- A suspension is counted exactly if it is measured. -/
theorem recordFailure_suspensions (endpoint : String) :
    (h.recordFailure now code s).2.suspensions = h.suspensions +
      (Dispatching.measuredOf endpoint (h.recordFailure now code s).1).length := by
  obtain ⟨-, -, he⟩ | ⟨-, -, -, -, he⟩ | ⟨-, he⟩ := recordFailure_cases h now code s <;> rw [he] <;>
    rfl

end Health

namespace Dispatching

namespace Event

/-- Whether an event is a failure of an endpoint. -/
def isFailureAt (endpoint : String) : Event → Bool
  | .undelivered e _ => e = endpoint
  | .faulted e _ => e = endpoint
  | _ => false

/-- Whether an event is an attempt at an endpoint that failed. -/
def isFailedAttemptAt (endpoint : String) : Event → Bool
  | .undelivered e _ => e = endpoint
  | _ => false

/-- Whether an event is a success of an endpoint: a hand-off is none, as it says nothing of the
reply. -/
def isSuccessAt (endpoint : String) : Event → Bool
  | .delivered e .blocking => e = endpoint
  | .responded e => e = endpoint
  | _ => false

theorem countP_isSuccessAt (endpoint : String) (past : List Event) :
    past.countP (isSuccessAt endpoint) =
      past.count (.delivered endpoint .blocking) + past.count (.responded endpoint) := by
  induction past with
  | nil => rfl
  | cons event past ih =>
    rw [List.countP_cons, List.count_cons, List.count_cons, ih]
    cases event with
    | delivered e mode =>
      cases mode <;> simp [isSuccessAt]
      omega
    | responded e =>
      simp [isSuccessAt]
      omega
    | _ => simp [isSuccessAt]

end Event

/-! ## What an event adds -/

/-- What an event adds to the counts in the health of an endpoint, and to those of the
measurements. -/
structure Adds (ev : Option Event) (name : String) (h h' : Health) (log log' : List Metric) :
    Prop where
  failed : h'.failed = h.failed + ev.toList.countP (Event.isFailureAt name)
  faults : log'.countP (Metric.isFaultAt name) =
    log.countP (Metric.isFaultAt name) + ev.toList.countP (Event.isFailureAt name)
  attempts : log'.countP (Metric.isFailedAttemptAt name) =
    log.countP (Metric.isFailedAttemptAt name) + ev.toList.countP (Event.isFailedAttemptAt name)
  succeeded : h'.succeeded = h.succeeded + ev.toList.countP (Event.isSuccessAt name)
  suspensions : ∃ n, h'.suspensions = h.suspensions + n ∧
    log'.count (.suspended name) = log.count (.suspended name) + n

variable {b b' : Bus} {name endpoint : String} {code : Int32} {measured : List Metric}
  {e : Endpoint} {event : Event} {ev : Option Event}

/-- What happens elsewhere adds nothing. -/
theorem Adds.refl {h : Health} {log : List Metric}
    (hfailure : ev.toList.countP (Event.isFailureAt name) = 0)
    (hattempt : ev.toList.countP (Event.isFailedAttemptAt name) = 0)
    (hsuccess : ev.toList.countP (Event.isSuccessAt name) = 0) : Adds ev name h h log log := by
  constructor
  · omega
  · omega
  · omega
  · omega
  · exact ⟨0, rfl, rfl⟩

theorem Succeeds.adds (h : Succeeds b b' endpoint) (he : b.endpoints.get? name = some e)
    (hfailure : event.isFailureAt name = false) (hattempt : event.isFailedAttemptAt name = false)
    (hsuccess : event.isSuccessAt name = decide (endpoint = name)) :
    ∃ e', b'.endpoints.get? name = some e' ∧
      Adds (some event) name e.health e'.health b.service.log b'.service.log := by
  rw [h.log]
  by_cases hname : name = endpoint
  · subst hname
    refine ⟨{ e with health := e.health.recordSuccess }, ?_, ?_⟩
    · rw [h.recorded, Dict.get?_modify, if_pos rfl, he]
      rfl
    · constructor
      · simp [Health.recordSuccess, hfailure]
      · simp [hfailure]
      · simp [hattempt]
      · simp [Health.recordSuccess, hsuccess]
      · exact ⟨0, rfl, rfl⟩
  · refine ⟨e, ?_, ?_⟩
    · rw [h.recorded, Dict.get?_modify, if_neg hname, he]
    · exact .refl (by simp [hfailure]) (by simp [hattempt]) (by simp [hsuccess, Ne.symm hname])

theorem Fails.adds (h : Fails b b' endpoint code measured) (he : b.endpoints.get? name = some e)
    (hfailure : event.isFailureAt name = decide (endpoint = name))
    (hsuccess : event.isSuccessAt name = false)
    (hfaults : measured.countP (Metric.isFaultAt name) = [event].countP (Event.isFailureAt name))
    (hattempts : measured.countP (Metric.isFailedAttemptAt name) =
      [event].countP (Event.isFailedAttemptAt name))
    (hsuspended : measured.count (.suspended name) = 0) :
    ∃ e', b'.endpoints.get? name = some e' ∧
      Adds (some event) name e.health e'.health b.service.log b'.service.log := by
  obtain ⟨e₀, s, he₀, -, hrecorded, hlog⟩ := h.recorded
  -- of the verdict at most the suspension is measured
  have hverdict (v : Verdict) {p : Metric → Bool} (hp : p (.suspended endpoint) = false) :
      (measuredOf endpoint v).countP p = 0 := by
    cases v <;> simp [measuredOf, hp]
  have hfaults' : b'.service.log.countP (Metric.isFaultAt name) =
      b.service.log.countP (Metric.isFaultAt name) + [event].countP (Event.isFailureAt name) := by
    rw [hlog, List.countP_append, List.countP_append, hverdict _ rfl, hfaults]
    omega
  have hattempts' : b'.service.log.countP (Metric.isFailedAttemptAt name) =
      b.service.log.countP (Metric.isFailedAttemptAt name) +
        [event].countP (Event.isFailedAttemptAt name) := by
    rw [hlog, List.countP_append, List.countP_append, hverdict _ rfl, hattempts]
    omega
  by_cases hname : name = endpoint
  · subst hname
    obtain rfl : e = e₀ := Option.some.inj (he.symm.trans he₀)
    refine ⟨{ e with health := (e.health.recordFailure b.now code s).2 }, ?_, ?_⟩
    · rw [hrecorded, Dict.get?_modify, if_pos rfl, he]
      rfl
    · refine ⟨?_, hfaults', hattempts', ?_, ?_⟩
      · simp [Health.recordFailure_failed, hfailure]
      · simp [Health.recordFailure_succeeded, hsuccess]
      · refine ⟨_, Health.recordFailure_suspensions _ _ _ _ name, ?_⟩
        have hcount (v : Verdict) :
            (measuredOf name v).count (.suspended name) = (measuredOf name v).length := by
          cases v <;> simp [measuredOf]
        rw [hlog, List.count_append, List.count_append, hcount, hsuspended]
        omega
  · refine ⟨e, ?_, ?_⟩
    · rw [hrecorded, Dict.get?_modify, if_neg hname, he]
    · refine ⟨?_, hfaults', hattempts', ?_, 0, rfl, ?_⟩
      · simp [hfailure, Ne.symm hname]
      · simp [hsuccess]
      · have hother (v : Verdict) : (measuredOf endpoint v).count (.suspended name) = 0 :=
          hverdict v (by simpa using Ne.symm hname)
        rw [hlog, List.count_append, List.count_append, hother, hsuspended]
        omega

/-- Every event adds to the health of each endpoint what it adds to the measurements. -/
theorem Effect.adds (h : Effect ev b b') (he : b.endpoints.get? name = some e) :
    ∃ e', b'.endpoints.get? name = some e' ∧
      Adds ev name e.health e'.health b.service.log b'.service.log := by
  cases h with
  | still hendpoints hlog =>
    rw [hlog, hendpoints]
    exact ⟨e, he, .refl rfl rfl rfl⟩
  | handedOff other hendpoints hlog =>
    rw [hlog, hendpoints]
    exact ⟨e, he, .refl rfl rfl rfl⟩
  | delivered h => exact h.adds he rfl rfl rfl
  | responded h => exact h.adds he rfl rfl rfl
  | undelivered houtcome h =>
    refine h.adds he rfl rfl ?_ ?_ ?_
    · obtain rfl | rfl := houtcome <;> simp [Metric.isFaultAt, Event.isFailureAt, List.countP_cons]
    · obtain rfl | rfl := houtcome <;>
        simp [Metric.isFailedAttemptAt, Event.isFailedAttemptAt, List.countP_cons]
    · simp
  | faulted h =>
    refine h.adds he rfl rfl ?_ ?_ ?_
    · simp [Metric.isFaultAt, Event.isFailureAt, List.countP_cons]
    · simp [Metric.isFailedAttemptAt, Event.isFailedAttemptAt]
    · simp

/-! ## All that has happened -/

/-- How the health of an endpoint fits to the measurements of failures and to what has
happened. -/
structure Tallies (log : List Metric) (past : List Event) (name : String) (h : Health) : Prop where
  failed : log.countP (Metric.isFaultAt name) = h.failed
  suspensions : log.count (.suspended name) = h.suspensions
  attempts : log.countP (Metric.isFailedAttemptAt name) = past.countP (Event.isFailedAttemptAt name)
  succeeded : h.succeeded = past.countP (Event.isSuccessAt name)

theorem Adds.tallies {h h' : Health} {log log' : List Metric} {past : List Event}
    (hadds : Adds ev name h h' log log') (ht : Tallies log past name h) :
    Tallies log' (past ++ ev.toList) name h' := by
  obtain ⟨n, hhealth, hmeasured⟩ := hadds.suspensions
  constructor
  · rw [hadds.faults, hadds.failed, ht.failed]
  · rw [hhealth, hmeasured, ht.suspensions]
  · rw [hadds.attempts, ht.attempts, List.countP_append]
  · rw [hadds.succeeded, ht.succeeded, List.countP_append]

/-- Health and measurements fit together after every history that starts with fresh
endpoints. -/
theorem History.tallies {start : Bus} {past : List Event} {t : Traffic}
    (hnamed : start.endpoints.WellNamed)
    (hfresh : ∀ name e, start.endpoints.get? name = some e → e.health = {})
    (hmetrics : start.metrics = []) (h : History start past t)
    (he : t.bus.endpoints.get? name = some e) :
    Tallies t.bus.service.log past name e.health := by
  induction h generalizing e with
  | fresh =>
    have hlog : start.service.log = [] := by simp [Bus.service, hmetrics]
    rw [hfresh name e he, hlog]
    constructor <;> rfl
  | @step past t t' ev h hs ih =>
    obtain ⟨hevolves, hmeets⟩ := h.evolves_meets hnamed
    have heffect := hs.effect (hevolves.wellNamed hnamed) hmeets
    obtain ⟨e₀, he₀, -⟩ := heffect.evolves.get?_eq_some he
    obtain ⟨e', he', hadds⟩ := heffect.adds he₀
    obtain rfl := Option.some.inj (he'.symm.trans he)
    exact hadds.tallies (ih he₀)

/-! ## Counters -/

/-- Measurements of failures are counted in the whole log. -/
theorem countP_log (b : Bus) {p : Metric → Bool} (hp : ∀ m, p m = true → m.isFailure = true) :
    b.metrics.countP p = b.service.log.countP p := by
  rw [Bus.service, List.countP_filter]
  refine List.countP_congr fun m _ => ?_
  constructor
  · intro hm
    simp [hm, hp m hm]
  · intro hm
    simp_all

theorem sum_countP_faulted (endpoint : String) (log : List Metric) :
    ∑ code : Int32, log.countP (fun m => m.untimed = .faulted endpoint code) =
      log.countP (Metric.isFaultAt endpoint) := by
  induction log with
  | nil => simp
  | cons m log ih =>
    simp only [List.countP_cons, Finset.sum_add_distrib, ih]
    cases m with
    | faulted e code =>
      by_cases h : e = endpoint <;> simp [Metric.untimed, Metric.isFaultAt, h]
    | _ => simp [Metric.untimed, Metric.isFaultAt]

theorem countP_dispatched_add (endpoint : String) (log : List Metric) :
    log.countP (fun m => m.untimed = .dispatched endpoint .fault 0) +
        log.countP (fun m => m.untimed = .dispatched endpoint .timeout 0) =
      log.countP (Metric.isFailedAttemptAt endpoint) := by
  induction log with
  | nil => rfl
  | cons m log ih =>
    rw [List.countP_cons, List.countP_cons, List.countP_cons, ← ih]
    cases m with
    | dispatched e outcome elapsed =>
      cases outcome <;> simp [Metric.untimed, Metric.isFailedAttemptAt] <;> omega
    | _ => simp [Metric.untimed, Metric.isFailedAttemptAt]

/-- Whatever has happened on a bus that started with fresh endpoints and nothing measured: for
each endpoint that stands for itself, the faults counted under all codes are its failures,
the suspensions counted are its suspensions, the attempts counted as faults and as timeouts
are those that failed, and its successes are the blocking attempts that succeeded and the
replies that arrived. All other endpoints are as they were. -/
theorem counters_agree {start : Bus} {past : List Event} {t : Traffic}
    (hnamed : start.endpoints.WellNamed)
    (hfresh : ∀ name e, start.endpoints.get? name = some e → e.health = {})
    (hmetrics : start.metrics = []) (h : History start past t) :
    (∀ name e, t.bus.endpoints.get? name = some e → e.Concrete →
      let shown := Metrics.counter (Metrics.report t.bus.metrics)
      ∑ code : Int32, shown (Metrics.title "mediation_dispatch_faults_total"
          [("code", String.ofList (ErrorCodes.codeText code)), ("endpoint", name)]) =
        e.health.failed ∧
      shown (Metrics.title "mediation_endpoint_suspensions_total" [("endpoint", name)]) =
        e.health.suspensions ∧
      shown (Metrics.title "mediation_dispatch_total"
          [("endpoint", name), ("outcome", "fault")]) +
        shown (Metrics.title "mediation_dispatch_total"
          [("endpoint", name), ("outcome", "timeout")]) =
        past.countP (Event.isFailedAttemptAt name) ∧
      e.health.succeeded =
        past.count (.delivered name .blocking) + past.count (.responded name)) ∧
    ∀ name e, start.endpoints.get? name = some e → ¬ e.Concrete →
      t.bus.endpoints.get? name = some e := by
  refine ⟨fun name e he _ => ?_, fun name e he hindirect => ?_⟩
  · have ht := h.tallies hnamed hfresh hmetrics he
    have hshown := Metrics.counter_report t.bus.metrics
    refine ⟨?_, ?_, ?_, ?_⟩
    · calc ∑ code : Int32, Metrics.counter (Metrics.report t.bus.metrics)
            (Metrics.counterTitle (.faulted name code))
          = ∑ code : Int32, t.bus.metrics.countP fun m => m.untimed = .faulted name code :=
            Finset.sum_congr rfl fun code _ => hshown (.faulted name code)
        _ = t.bus.metrics.countP (Metric.isFaultAt name) := sum_countP_faulted name _
        _ = t.bus.service.log.countP (Metric.isFaultAt name) := by
            refine countP_log t.bus fun m hm => ?_
            cases m <;> simp_all [Metric.isFaultAt, Metric.isFailure]
        _ = e.health.failed := ht.failed
    · calc Metrics.counter (Metrics.report t.bus.metrics) (Metrics.counterTitle (.suspended name))
          = t.bus.metrics.countP fun m => m.untimed = .suspended name := hshown (.suspended name)
        _ = t.bus.service.log.countP fun m => m.untimed = .suspended name := by
            refine countP_log t.bus fun m hm => ?_
            cases m <;> simp_all [Metric.untimed, Metric.isFailure]
        _ = t.bus.service.log.count (.suspended name) := by
            refine List.countP_congr fun m _ => ?_
            cases m <;> simp [Metric.untimed]
        _ = e.health.suspensions := ht.suspensions
    · calc Metrics.counter (Metrics.report t.bus.metrics)
              (Metrics.counterTitle (.dispatched name .fault 0)) +
            Metrics.counter (Metrics.report t.bus.metrics)
              (Metrics.counterTitle (.dispatched name .timeout 0))
          = t.bus.metrics.countP (Metric.isFailedAttemptAt name) := by
            rw [hshown, hshown]
            exact countP_dispatched_add name _
        _ = t.bus.service.log.countP (Metric.isFailedAttemptAt name) := by
            refine countP_log t.bus fun m hm => ?_
            unfold Metric.isFailedAttemptAt at hm
            split at hm <;> simp_all [Metric.isFailure]
        _ = past.countP (Event.isFailedAttemptAt name) := ht.attempts
    · rw [ht.succeeded, Event.countP_isSuccessAt]
  · obtain ⟨hevolves, -⟩ := h.evolves_meets hnamed
    obtain ⟨health, he', hkept⟩ := hevolves.2 name e he
    rw [he', hkept hindirect]

/-! ## Two failures, one suspension and a reply -/

namespace Answered

open Quote

def message : Message := { id := ⟨0⟩ }

/-- A fault arrives. -/
def faulted : Bus := (bus.recordFaultResponse "front" { code := some Code.timeout } message).2.2

/-- A send makes one attempt, which fails. -/
def sent : Flow × Bus := Flow.dispatch "front" "wire" .blocking message [] faulted

def attempted : Flow × Bus := sent.1.run 1 sent.2

def refused : Flow × Bus := attempted.1.run 1 attempted.2

def ended : Flow × Bus := refused.1.run 1 refused.2

/-- A reply arrives after all. -/
def answered : Bus := (ended.2.recordResponse "quote").2

/-- What the health of `quote` takes notice of. -/
def past : List Event :=
  [.faulted "quote" Code.timeout, .undelivered "quote" Code.connectionFailed, .responded "quote"]

theorem history : History bus past ⟨answered, [ended.1]⟩ := by
  have hfault : History bus _ ⟨faulted, []⟩ :=
    .step .fresh (.fault [] "front" { code := some Code.timeout } message)
  have hsend : History bus _ ⟨sent.2, [sent.1]⟩ :=
    .step hfault (.send [] "front" "wire" .blocking message)
  have hattempt : History bus _ ⟨attempted.2, [attempted.1]⟩ := .step hsend (.move [] [] rfl)
  have hrefused : History bus _ ⟨refused.2, [refused.1]⟩ := .step hattempt (.move [] [] rfl)
  have hend : History bus _ ⟨ended.2, [ended.1]⟩ := .step hrefused (.move [] [] rfl)
  exact .step hend (.response [ended.1] "quote")

theorem counters_agree_answered :
    bus.endpoints.WellNamed ∧
      (∀ name e, bus.endpoints.get? name = some e → e.health = {}) ∧ bus.metrics = [] ∧
      History bus past ⟨answered, [ended.1]⟩ ∧
      let shown := Metrics.counter (Metrics.report answered.metrics)
      ∑ code : Int32, shown (Metrics.title "mediation_dispatch_faults_total"
          [("code", String.ofList (ErrorCodes.codeText code)), ("endpoint", "quote")]) = 2 ∧
      shown (Metrics.title "mediation_endpoint_suspensions_total" [("endpoint", "quote")]) = 1 ∧
      shown (Metrics.title "mediation_dispatch_total"
          [("endpoint", "quote"), ("outcome", "fault")]) +
        shown (Metrics.title "mediation_dispatch_total"
          [("endpoint", "quote"), ("outcome", "timeout")]) = 1 ∧
      answered.endpoints.get? "front" = some front := by
  have hfresh (name : String) (e : Endpoint) (he : bus.endpoints.get? name = some e) :
      e.health = {} := by
    rw [get?_bus] at he
    split at he
    · obtain rfl := Option.some.inj he
      rfl
    · split at he
      · obtain rfl := Option.some.inj he
        rfl
      · simp at he
  refine ⟨wellNamed, hfresh, rfl, history, ?_⟩
  obtain ⟨hconcrete, hindirect⟩ := counters_agree wellNamed hfresh rfl history
  have hquote : ∀ key, quote.kind ≠ .indirect key := by simp [quote]
  obtain ⟨hfailed, hsuspensions, hattempts, -⟩ := hconcrete "quote" _ rfl hquote
  exact ⟨hfailed, hsuspensions, hattempts,
    hindirect "front" front rfl fun h => h "quote" rfl⟩

end Answered

end Dispatching

end ServiceBus
