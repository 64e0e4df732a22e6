import Mathlib.Data.List.Chain
import ServiceBus.Flow.Dispatch
import ServiceBus.Proofs.Health.Course

/-
ServiceBus.Proofs.Dispatch.Attempts — the attempts that the policy of an endpoint allows
one send.

What an attempt comes to is settled by what the channel does with it and by the limit of
the policy (`Dispatch.result?`). `Dispatch.record` is what it then does to the health of
the endpoint, and `Dispatch.Final` says that no other attempt follows it.

`Dispatch.Tried` builds up attempts one after the other, as long as none of them is final
and with the retry delay between them. Each of them is a failure that counts, so there
are no more of them than the retries that are left, and together with a final one they
are the attempts of a send (`Dispatch.Obeys`).
-/
namespace ServiceBus

/-- For how many milliseconds a channel works on a message, and the fault that it ends with, if
any; none if it never ends. -/
def Outcome.result? : Outcome → Option (Nat × Option TransportFault)
  | success => some (0, none)
  | respond _ => some (0, none)
  | fault f => some (0, some f)
  | hang => none
  | after delay o => o.result?.map fun (n, f) => (delay + n, f)

/-- An attempt that was made: when it began and ended, and the fault that it ended with, if any. -/
structure Attempt where
  started : Time
  ended : Time
  fault : Option TransportFault

namespace Dispatch

section

variable (d : Dispatch)

/-- How many milliseconds an attempt takes, and the fault that it ends with, if any; it is
cut off when the channel does not end within the limit. -/
def result? (o : Outcome) : Option (Nat × Option TransportFault) :=
  match d.timeout.limit with
  | none => o.result?
  | some limit =>
    match o.result? with
    | some (n, fault) =>
      if n ≤ limit then some (n, fault) else some (limit, some (Flow.cutOff d))
    | none => some (limit, some (Flow.cutOff d))

/-- The code of a fault; one that names none has the code of the mode. -/
def code (fault : TransportFault) : Int32 := fault.code.getD d.mode.defaultCode

/-- The health once the end of an attempt is recorded. A message that is handed off says
nothing of the reply. -/
def record (h : Health) (a : Attempt) : Health :=
  match a.fault with
  | some fault => (h.recordFailure a.ended (d.code fault) d.settings).2
  | none =>
    match d.mode with
    | .blocking => h.recordSuccess
    | .handOff => h

/-- The health after attempts. -/
def after (h : Health) (attempts : List Attempt) : Health := attempts.foldl d.record h

/-- No other attempt follows: this one succeeded, or it failed with a code that suspends at once
or does not count, or on a suspended endpoint, or more often than may be retried. -/
def Final (h : Health) (a : Attempt) : Prop :=
  ∀ fault, a.fault = some fault → d.settings.suspendsAtOnce (d.code fault) = true ∨
    d.settings.counts (d.code fault) = false ∨ h.state = .suspended ∨
    d.settings.retries.toNat < h.failures + 1

/-- The failure that a fault surfaces as. A timeout on an endpoint that discards is no dispatch
failure. -/
def failure (fault : TransportFault) : Failure :=
  if d.code fault = Code.timeout ∧ d.timeout.action = .discard then
    .timeout (d.endpoint ++ ": " ++ fault.message.getD unnamedFault)
  else .dispatch (d.code fault) (fault.message.getD unnamedFault) fault.detail

/-- Attempts that are not final, and the time for the next one. -/
inductive Tried (start : Time) (h : Health) : List Attempt → Time → Prop where
  | start : Tried start h [] start
  | again {attempts : List Attempt} {now : Time} {a : Attempt} (ht : Tried start h attempts now)
      (hstarted : a.started = now) (hgoes : ¬ d.Final (d.after h attempts) a) :
      Tried start h (attempts ++ [a]) (a.ended + d.settings.delay)

end

variable {d : Dispatch} {h : Health} {a : Attempt} {o : Outcome} {n : Nat} {start now : Time}
  {attempts : List Attempt} {fault : Option TransportFault}

/-! ## What an attempt comes to -/

@[simp] theorem after_concat : d.after h (attempts ++ [a]) = d.record (d.after h attempts) a := by
  simp [after, List.foldl_append]

/-- A channel that ends within the limit is waited for. -/
theorem result?_of_le (ho : o.result? = some (n, fault))
    (hn : ∀ limit, d.timeout.limit = some limit → n ≤ limit) :
    d.result? o = some (n, fault) := by
  unfold result?
  cases hlimit : d.timeout.limit with
  | none => exact ho
  | some limit => simp [ho, hn limit hlimit]

/-- A channel that does not is cut off. -/
theorem result?_of_lt {limit : Nat} (hlimit : d.timeout.limit = some limit)
    (hn : ∀ n fault, o.result? = some (n, fault) → limit < n) :
    d.result? o = some (limit, some (Flow.cutOff d)) := by
  unfold result?
  cases ho : o.result? with
  | none => simp [hlimit]
  | some result =>
    obtain ⟨n, fault⟩ := result
    have hlate : ¬ n ≤ limit := Nat.not_le_of_lt (hn n fault ho)
    simp [hlimit, hlate]

/-- A channel that ends at once when it goes on ends then. -/
theorem result?_after_of_ended (ho : o.result? = some (0, fault))
    (hn : ∀ limit, d.timeout.limit = some limit → n ≤ limit) :
    d.result? (.after n o) = some (n, fault) := by
  refine result?_of_le ?_ hn
  simp [Outcome.result?, ho]

/-- A channel that goes on too late is cut off. -/
theorem result?_after_of_lt {limit : Nat} (hlimit : d.timeout.limit = some limit)
    (hn : limit < n) : d.result? (.after n o) = some (limit, some (Flow.cutOff d)) := by
  refine result?_of_lt hlimit ?_
  intro k fault hk
  rw [Outcome.result?, Option.map_eq_some_iff] at hk
  obtain ⟨_, -, hsum⟩ := hk
  obtain ⟨rfl, -⟩ := Prod.mk.inj hsum
  omega

theorem result?_after_after {k : Nat} :
    d.result? (.after n (.after k o)) = d.result? (.after (n + k) o) := by
  have hsum : (Outcome.after n (.after k o)).result? = (Outcome.after (n + k) o).result? := by
    simp [Outcome.result?, Function.comp_def, Nat.add_assoc]
  rw [result?, result?, hsum]

theorem result?_after_zero : d.result? (.after 0 o) = d.result? o := by
  have hsum : (Outcome.after 0 o).result? = o.result? := by
    simp [Outcome.result?]
  rw [result?, result?, hsum]

/-- The failure of an attempt that is not final counts, and leads to a retry. -/
theorem recordFailure_of_not_final (hgoes : ¬ d.Final h a) : ∃ fault, a.fault = some fault ∧
    h.failures + 1 ≤ d.settings.retries.toNat ∧
    h.recordFailure a.ended (d.code fault) d.settings = (.retry d.settings.delay, d.record h a) ∧
    (d.record h a).state = .retrying ∧ (d.record h a).failures = h.failures + 1 := by
  simp only [Final, not_forall, not_or] at hgoes
  obtain ⟨fault, hfault, hsuspends, hcounts, hstate, hretries⟩ := hgoes
  have hrecord : d.record h a = (h.recordFailure a.ended (d.code fault) d.settings).2 := by
    rw [record, hfault]
  refine ⟨fault, hfault, Nat.le_of_not_lt hretries, ?_⟩
  rw [hrecord]
  rcases h.recordFailure_cases a.ended (d.code fault) d.settings with
    ⟨-, hsurfaces, -⟩ | ⟨-, -, -, -, heq⟩ | ⟨hsuspended, -⟩
  · exact absurd hsurfaces hcounts
  · rw [heq]
    exact ⟨rfl, rfl, rfl⟩
  · rcases hsuspended with honce | ⟨-, hsuspended | htoo⟩
    · exact absurd honce hsuspends
    · exact absurd hsuspended hstate
    · exact absurd htoo hretries

/-- The failure of a final attempt leads to no retry. -/
theorem recordFailure_of_final {fault : TransportFault} (hfinal : d.Final h a)
    (hfault : a.fault = some fault) (delay : Nat) :
    (h.recordFailure a.ended (d.code fault) d.settings).1 ≠ .retry delay := by
  rcases h.recordFailure_cases a.ended (d.code fault) d.settings with
    ⟨-, -, heq⟩ | ⟨hsuspends, hcounts, hstate, hretries, -⟩ | ⟨-, heq⟩
  · simp [heq]
  · rcases hfinal fault hfault with honce | hsurfaces | hsuspended | htoo
    · simp [honce] at hsuspends
    · simp [hsurfaces] at hcounts
    · exact absurd hsuspended hstate
    · omega
  · simp [heq]

/-! ## One attempt after the other -/

namespace Tried

/-- Each attempt counts. -/
theorem failures (ht : d.Tried start h attempts now) :
    (d.after h attempts).failures = h.failures + attempts.length := by
  induction ht with
  | start => rfl
  | again _ _ hgoes ih =>
    obtain ⟨-, -, -, -, -, hcounted⟩ := recordFailure_of_not_final hgoes
    rw [after_concat, hcounted, ih, List.length_append]
    rfl

/-- After the first attempt the endpoint is retrying, within the retries that are allowed. -/
theorem retrying (ht : d.Tried start h attempts now) : attempts = [] ∨
    ((d.after h attempts).state = .retrying ∧
      (d.after h attempts).failures ≤ d.settings.retries.toNat) := by
  cases ht with
  | start => exact .inl rfl
  | again _ _ hgoes =>
    obtain ⟨-, -, hretries, -, hstate, hcounted⟩ := recordFailure_of_not_final hgoes
    rw [after_concat, hcounted]
    exact .inr ⟨hstate, hretries⟩

theorem goes (ht : d.Tried start h attempts now) : ∀ before a behind,
    attempts = before ++ a :: behind → ¬ d.Final (d.after h before) a := by
  induction ht with
  | start => simp
  | @again attempts _ a _ _ hgoes ih =>
    intro before a' behind hsplit
    rcases List.append_eq_append_iff.1 hsplit with ⟨middle, rfl, hrest⟩ | ⟨middle, rfl, hrest⟩
    · cases middle with
      | nil =>
        obtain ⟨rfl, -⟩ := List.cons.inj hrest
        simpa using hgoes
      | cons x middle => simp at hrest
    · cases middle with
      | nil =>
        obtain ⟨rfl, -⟩ := List.cons.inj hrest
        simpa using hgoes
      | cons x middle =>
        obtain ⟨rfl, -⟩ := List.cons.inj hrest
        exact ih before a' middle rfl

end Tried

end Dispatch

end ServiceBus
