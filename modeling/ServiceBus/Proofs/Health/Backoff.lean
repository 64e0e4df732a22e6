import ServiceBus.Proofs.Health.Course
import ServiceBus.Proofs.Decimal.WholeProduct

/-
ServiceBus.Proofs.Health.Backoff — how long an endpoint stays suspended, over its
whole history.

The duration of a suspension comes from the state and the duration now in
force. `Remembers` says that these two remember just enough: the duration that
comes next is the one that follows the suspensions since the last recovery,
whatever else has happened in between. The sequence of suspensions obeys the law
`Backoff` therefore.

Where the settings stay the same and the factor is a whole number, the durations
are known in closed form (`Escalated`): they are multiplied up to the maximum.
-/
namespace ServiceBus.Health

/-! ## The suspensions since the last recovery -/

/-- A failure that suspended an endpoint. -/
structure Suspension where
  settings : Settings
  duration : Nat

/-- The duration of a suspension that follows others, oldest first. -/
def following (earlier : List Suspension) (s : Settings) : Nat :=
  match earlier.getLast? with
  | none => min s.initial s.maximum
  | some last => min (Float.ofNat last.duration * s.factor).toUInt64.toNat s.maximum

namespace Entry

def suspension? (e : Entry) : Option Suspension :=
  match e.event, e.answer with
  | .failure _ s, .verdict (.suspended duration) => some ⟨s, duration⟩
  | _, _ => none

/-- The suspensions since the last success or reset, oldest first. -/
def suspensions (log : List Entry) : List Suspension :=
  ((sinceRecovery log).filterMap suspension?).reverse

theorem suspensions_cons (e : Entry) (log : List Entry) :
    suspensions (e :: log) =
      if e.recovers then [] else suspensions log ++ e.suspension?.toList := by
  rw [suspensions, sinceRecovery_cons]
  cases e.recovers with
  | true => rfl
  | false =>
    cases he : e.suspension? with
    | none => simp [suspensions, he]
    | some x => simp [suspensions, he]

end Entry

/-- The law of the sequence of suspensions, oldest first. -/
structure Backoff (l : List Suspension) : Prop where
  first : ∀ x, l[0]? = some x → x.duration = min x.settings.initial x.settings.maximum
  next : ∀ (j : Nat) (x y : Suspension), l[j]? = some x → l[j + 1]? = some y →
    y.duration =
      min (Float.ofNat x.duration * y.settings.factor).toUInt64.toNat y.settings.maximum
  capped : ∀ x ∈ l, x.duration ≤ x.settings.maximum

theorem Backoff.nil : Backoff [] where
  first x h := by simp at h
  next j x y h := by simp at h
  capped x h := by simp at h

theorem following_le (earlier : List Suspension) (s : Settings) :
    following earlier s ≤ s.maximum := by
  unfold following
  split
  · exact Nat.min_le_right _ _
  · exact Nat.min_le_right _ _

/-- One more suspension, with the duration that follows. -/
theorem Backoff.append {l : List Suspension} (h : Backoff l) {y : Suspension}
    (hy : y.duration = following l y.settings) : Backoff (l ++ [y]) where
  first x hx := by
    cases l with
    | nil =>
      obtain rfl : y = x := by simpa using hx
      exact hy
    | cons z l => exact h.first x (by simpa using hx)
  next j x z hx hz := by
    rcases Nat.lt_trichotomy (j + 1) l.length with hlt | heq | hgt
    · rw [List.getElem?_append_left (by omega)] at hx hz
      exact h.next j x z hx hz
    · -- the new one behind the last one before it
      obtain rfl : y = z := by simpa [heq] using hz
      rw [List.getElem?_append_left (by omega)] at hx
      have hlast : l.getLast? = some x := by
        rw [List.getLast?_eq_getElem?, ← heq]
        exact hx
      rw [hy, following, hlast]
    · rw [List.getElem?_eq_none (by simp; omega)] at hz
      simp at hz
  capped x hx := by
    rcases List.mem_append.1 hx with hx | hx
    · exact h.capped x hx
    · obtain rfl := List.mem_singleton.1 hx
      rw [hy]
      exact following_le l x.settings

/-! ## What every event keeps -/

/-- The health remembers the suspensions since the last recovery. -/
structure Remembers (h : Health) (log : List Entry) : Prop where
  nextDuration_eq : ∀ s, h.nextDuration s = following (Entry.suspensions log) s
  backoff : Backoff (Entry.suspensions log)

theorem nextDuration_of_unsuspended {h : Health} (hs : h.state ≠ .suspended) (s : Settings) :
    h.nextDuration s = min s.initial s.maximum := by
  unfold nextDuration
  split
  · rename_i hstate _
    exact absurd hstate hs
  · rfl

/-- An endpoint that is active again remembers nothing. -/
theorem Remembers.recovered {h : Health} {log : List Entry} (hs : h.state = .active)
    (hlog : Entry.suspensions log = []) : Remembers h log where
  nextDuration_eq s := by
    rw [nextDuration_of_unsuspended (by simp [hs]), hlog]
    rfl
  backoff := by
    rw [hlog]
    exact .nil

/-- An entry that neither recovers nor suspends, where the next duration stays. -/
theorem Remembers.cons {h h' : Health} {log : List Entry} (hr : Remembers h log) {e : Entry}
    (hrecovers : e.recovers = false) (hsuspension : e.suspension? = none)
    (hnext : ∀ s, h'.nextDuration s = h.nextDuration s) : Remembers h' (e :: log) := by
  have hlog : Entry.suspensions (e :: log) = Entry.suspensions log := by
    simp [Entry.suspensions_cons, hrecovers, hsuspension]
  refine ⟨fun s => ?_, ?_⟩
  · rw [hnext, hlog]
    exact hr.nextDuration_eq s
  · rw [hlog]
    exact hr.backoff

/-- Whether an event is a failure that does not just surface. -/
def Event.counts : Event → Bool
  | .failure code s => s.suspendsAtOnce code || s.counts code
  | _ => false

/-- An event that recovers nothing and, if it is a failure that counts, happens under these
settings with a code that does not suspend at once. -/
def Event.Steady (s : Settings) (e : Event) : Prop :=
  e.recovers = false ∧ ∀ code s', e = .failure code s' → e.counts = true →
    s' = s ∧ s.suspendsAtOnce code = false

/-- An endpoint behind `n` counted failures under settings whose factor is `p`. -/
structure Escalated (s : Settings) (p n : Nat) (h : Health) : Prop where
  failures : h.failures = n
  below : n ≤ s.retries.toNat → h.state ≠ .suspended
  above : s.retries.toNat < n → h.state = .suspended ∧
    h.current = some (min (s.initial * p ^ (n - s.retries.toNat - 1)) s.maximum)

/-- Capping before one more factor makes no difference. -/
theorem min_pow_succ {i p cap : Nat} (hp : 1 ≤ p) (k : Nat) :
    min (min (i * p ^ k) cap * p) cap = min (i * p ^ (k + 1)) cap := by
  have hcap : cap ≤ cap * p := Nat.le_mul_of_pos_right cap hp
  rw [Nat.pow_succ, ← Nat.mul_assoc]
  rcases Nat.le_total (i * p ^ k) cap with hle | hle
  · rw [Nat.min_eq_left hle]
  · have hbig : cap * p ≤ i * p ^ k * p := Nat.mul_le_mul_right p hle
    rw [Nat.min_eq_right hle, Nat.min_eq_right hcap, Nat.min_eq_right (Nat.le_trans hcap hbig)]

namespace Escalated

variable {s : Settings} {p n : Nat} {h : Health}

theorem zero (hfailures : h.failures = 0) (hstate : h.state = .active) : Escalated s p 0 h where
  failures := hfailures
  below _ := by simp [hstate]
  above hlt := absurd hlt (Nat.not_lt_zero _)

/-- The duration of the next suspension, behind the allowed retries. -/
theorem nextDuration (he : Escalated s p n h) (hp : 1 ≤ p) (hfactor : s.factor = Float.ofNat p)
    (hmaximum : s.maximum ≤ 2 ^ 53) (hn : s.retries.toNat ≤ n) :
    h.nextDuration s = min (s.initial * p ^ (n - s.retries.toNat)) s.maximum := by
  rcases Nat.lt_or_eq_of_le hn with hlt | heq
  · obtain ⟨hstate, hcurrent⟩ := he.above hlt
    have hgrow : h.nextDuration s =
        s.grow (min (s.initial * p ^ (n - s.retries.toNat - 1)) s.maximum) := by
      unfold Health.nextDuration
      rw [hstate, hcurrent]
    rw [hgrow, Settings.grow, hfactor, Whole.min_mul _ _ hmaximum, min_pow_succ hp]
    rw [show n - s.retries.toNat - 1 + 1 = n - s.retries.toNat by omega]
  · rw [nextDuration_of_unsuspended (he.below (Nat.le_of_eq heq.symm)), ← heq, Nat.sub_self,
      Nat.pow_zero, Nat.mul_one]

/-- One more counted failure: its verdict, and the health behind it. -/
theorem failure (he : Escalated s p n h) (hp : 1 ≤ p) (hfactor : s.factor = Float.ofNat p)
    (hmaximum : s.maximum ≤ 2 ^ 53) {code : Int32} (hcounts : s.counts code = true)
    (honce : s.suspendsAtOnce code = false) (now : Time) :
    (h.recordFailure now code s).1 =
        (if n + 1 ≤ s.retries.toNat then .retry s.delay
        else .suspended (min (s.initial * p ^ (n - s.retries.toNat)) s.maximum)) ∧
      Escalated s p (n + 1) (h.recordFailure now code s).2 := by
  rcases recordFailure_cases h now code s with
    ⟨-, hsurface, -⟩ | ⟨-, -, -, hretry, hr⟩ | ⟨hcause, hr⟩
  · rw [hcounts] at hsurface
    exact absurd hsurface (by simp)
  · rw [he.failures] at hretry
    rw [hr, if_pos hretry]
    exact ⟨rfl, congrArg (· + 1) he.failures, fun _ => by simp, fun hlt => by omega⟩
  · have hn : s.retries.toNat ≤ n := by
      rcases hcause with hcause | ⟨-, hstate | hlt⟩
      · rw [honce] at hcause
        exact absurd hcause (by simp)
      · by_contra hle
        exact he.below (by omega) hstate
      · rw [he.failures] at hlt
        omega
    have hduration := he.nextDuration hp hfactor hmaximum hn
    rw [hr, if_neg (by omega), hduration]
    refine ⟨rfl, congrArg (· + 1) he.failures, fun hle => by omega, fun _ => ⟨rfl, ?_⟩⟩
    rw [show n + 1 - s.retries.toNat - 1 = n - s.retries.toNat by omega]

/-- One more steady event. -/
theorem perform {c : Course} (he : Escalated s p n c.health) (hp : 1 ≤ p)
    (hfactor : s.factor = Float.ofNat p) (hmaximum : s.maximum ≤ 2 ^ 53) {e : Event}
    (hsteady : e.Steady s) :
    Escalated s p (n + if e.counts then 1 else 0) (c.perform e).health := by
  obtain ⟨hrecovers, hsame⟩ := hsteady
  cases e with
  | success => simp [Event.recovers] at hrecovers
  | reset => simp [Event.recovers] at hrecovers
  | check => exact he
  | snapshot => exact he
  | advance duration => exact he
  | failure code s' =>
    cases hc : (Event.failure code s').counts with
    | true =>
      obtain ⟨rfl, honce⟩ := hsame code s' rfl hc
      have hcounts : s'.counts code = true := by simpa [Event.counts, honce] using hc
      exact (he.failure hp hfactor hmaximum hcounts honce c.now).2
    | false =>
      have hno : s'.suspendsAtOnce code = false ∧ s'.counts code = false := by
        simpa [Event.counts] using hc
      have hsurface : (c.health.recordFailure c.now code s').1 = .surface := by
        rcases recordFailure_cases c.health c.now code s' with
          ⟨-, -, hr⟩ | ⟨-, hcounts, -⟩ | ⟨hcause, -⟩
        · rw [hr]
        · simp [hno.2] at hcounts
        · simp [hno.1, hno.2] at hcause
      have hhealth : (c.perform (.failure code s')).health = _ :=
        recordFailure_of_surface hsurface
      rw [hhealth]
      exact ⟨he.failures, he.below, he.above⟩

theorem performAll {c : Course} (he : Escalated s p n c.health) (hp : 1 ≤ p)
    (hfactor : s.factor = Float.ofNat p) (hmaximum : s.maximum ≤ 2 ^ 53) {events : List Event}
    (hsteady : ∀ e ∈ events, e.Steady s) :
    Escalated s p (n + events.countP Event.counts) (c.performAll events).health := by
  induction events generalizing c n with
  | nil => exact he
  | cons e events ih =>
    have hstep := he.perform hp hfactor hmaximum (hsteady e List.mem_cons_self)
    have hlast := ih hstep fun e' h' => hsteady e' (List.mem_cons_of_mem _ h')
    rw [List.countP_cons, Nat.add_comm (events.countP _), ← Nat.add_assoc]
    exact hlast

end Escalated

namespace Doubling

/-- One retry, then 100 ms, doubled up to 300 ms. -/
def settings : Settings where
  suspendCodes := ErrorCodes.none
  markCodes := ErrorCodes.none
  initial := 100
  factor := Float.ofNat 2
  maximum := 300
  retries := 1
  delay := 10
  retry := {}

def failures (n : Nat) : List Event := List.replicate n (.failure 101503 settings)

end Doubling

end ServiceBus.Health
