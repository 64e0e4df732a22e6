import ServiceBus.Endpoint.Definition
import ServiceBus.Proofs.Fallible

/-
ServiceBus.Proofs.Definition.Checks — what a definition is checked for.

`Definition.validate` makes its checks one after the other (`validate_eq`). Each of them
looks at literals or at the retry lists, and says nothing of expressions, which have no
value yet. `Definition.Valid` collects what the checks ask, and is all that they ask
(`validate_eq_ok`).
-/
namespace ServiceBus

/-- A literal factor is one that a suspension may grow by. -/
def SuspendPolicy.HasFactor (s : SuspendPolicy) : Prop :=
  ∀ x, s.factor = some (.literal x) → Config.isFactor x = true

namespace Definition

/-! ## One check after the other -/

/-- A literal timeout must not be zero. -/
def checkTimeout (d : Definition) : Except Failure Unit :=
  if d.hasZeroTimeout then throw (.configuration .timeoutNotPositive) else pure ()

/-- A literal factor must be one that a suspension may grow by. -/
def checkFactor : Option (Policy Float) → Except Failure Unit
  | some (.literal x) =>
    if !Config.isFactor x then throw (.configuration (.progressionBelowOne x)) else pure ()
  | _ => pure ()

/-- Of two literals, the maximum must not be below the initial duration. -/
def checkMaximum (initial maximum : Option (Policy UInt64)) : Except Failure Unit :=
  match initial, maximum with
  | some (.literal initial), some (.literal maximum) =>
    if maximum < initial then throw (.configuration (.maximumBelowInitial maximum initial))
    else pure ()
  | _, _ => pure ()

/-- The checks of a suspension policy. -/
def checkSuspend : Option SuspendPolicy → Except Failure Unit
  | none => pure ()
  | some s => do
    checkFactor s.factor
    checkMaximum s.initial s.maximum

/-- One of the two lists must be empty. -/
def checkLists : Option RetryLists → Except Failure Unit
  | none => pure ()
  | some r =>
    if !r.disabled.isEmpty && !r.enabled.isEmpty then throw (.configuration .retryListsExclusive)
    else pure ()

/-- A literal key must not be blank. -/
def checkKey : Option Security → Except Failure Unit
  | some { policy := some (.literal key), .. } =>
    if Text.trimmed key = "" then throw (.configuration .blankSecurityKey) else pure ()
  | _ => pure ()

theorem validate_eq (d : Definition) :
    d.validate = (do
      d.checkTimeout
      checkSuspend d.suspend
      checkLists d.retry
      checkKey d.security) := by
  -- each check with whatever comes behind it
  have hlists (k : Unit → Except Failure Unit) : (do
      match d.retry with
      | none => pure ()
      | some r =>
        if !r.disabled.isEmpty && !r.enabled.isEmpty then
          throw (.configuration .retryListsExclusive)
      k ()) = checkLists d.retry >>= k := by
    cases d.retry with
    | none => rfl
    | some r =>
      simp only [checkLists]
      split <;> rfl
  have hmaximum (s : SuspendPolicy) (k : Unit → Except Failure Unit) : (do
      match s.initial, s.maximum with
      | some (.literal initial), some (.literal maximum) =>
        if maximum < initial then
          throw (.configuration (.maximumBelowInitial maximum initial))
      | _, _ => pure ()
      k ()) = checkMaximum s.initial s.maximum >>= k := by
    unfold checkMaximum
    split
    · split <;> rfl
    · rfl
  have hfactor (s : SuspendPolicy) (k : Unit → Except Failure Unit) : (do
      match s.factor with
      | some (.literal factor) =>
        if !Config.isFactor factor then throw (.configuration (.progressionBelowOne factor))
      | _ => pure ()
      k ()) = checkFactor s.factor >>= k := by
    unfold checkFactor
    split
    · split <;> rfl
    · rfl
  unfold validate checkTimeout
  cases d.hasZeroTimeout with
  | true => rfl
  | false =>
    have hrest := hlists fun _ => checkKey d.security
    cases d.suspend with
    | none => exact hrest
    | some s =>
      rw [checkSuspend]
      refine (hfactor s fun _ => _).trans ?_
      show _ = (checkFactor s.factor >>= fun _ => checkMaximum s.initial s.maximum) >>= _
      rw [bind_assoc]
      refine congrArg (checkFactor s.factor >>= ·) (funext fun _ => ?_)
      refine (hmaximum s fun _ => _).trans ?_
      exact congrArg (checkMaximum s.initial s.maximum >>= ·) (funext fun _ => hrest)

/-! ## What each check asks -/

theorem checkFactor_eq_ok {s : SuspendPolicy} : checkFactor s.factor = .ok () ↔ s.HasFactor := by
  unfold checkFactor SuspendPolicy.HasFactor
  split
  · next x hx => simp [Fallible.ite_throw_eq_ok, hx]
  · next h =>
    constructor
    · intro _ x hx
      exact absurd hx (h x)
    · intro _
      rfl

theorem checkMaximum_eq_ok {initial maximum : Option (Policy UInt64)} :
    checkMaximum initial maximum = .ok () ↔ ∀ low high, initial = some (.literal low) →
      maximum = some (.literal high) → low ≤ high := by
  unfold checkMaximum
  split
  · simp [Fallible.ite_throw_eq_ok]
  · next h =>
    constructor
    · intro _ low high hlow hhigh
      exact absurd hhigh (h low high hlow)
    · intro _
      rfl

theorem checkSuspend_eq_ok {o : Option SuspendPolicy} :
    checkSuspend o = .ok () ↔ ∀ s, o = some s →
      s.HasFactor ∧ checkMaximum s.initial s.maximum = .ok () := by
  cases o with
  | none => simp [checkSuspend, pure, Except.pure]
  | some s => simp [checkSuspend, Fallible.unit_bind_eq_ok, checkFactor_eq_ok]

theorem checkLists_eq_ok {o : Option RetryLists} :
    checkLists o = .ok () ↔ ∀ r, o = some r → r.disabled = [] ∨ r.enabled = [] := by
  cases o with
  | none => simp [checkLists, pure, Except.pure]
  | some r =>
    rw [checkLists, Fallible.ite_throw_eq_ok]
    cases hd : r.disabled <;> simp [hd]

theorem checkKey_eq_ok {o : Option Security} :
    checkKey o = .ok () ↔ ∀ s key, o = some s → s.policy = some (.literal key) →
      Text.trimmed key ≠ "" := by
  unfold checkKey
  split
  · next key _ _ =>
    rw [Fallible.ite_throw_eq_ok]
    constructor
    · intro hkey s key' hs he
      obtain rfl := Option.some.inj hs
      obtain rfl := Policy.literal.inj (Option.some.inj he)
      exact hkey
    · intro h
      exact h _ key rfl rfl
  · next h =>
    constructor
    · rintro _ ⟨policy, inbound, outbound⟩ key hs rfl
      exact absurd hs (h key inbound outbound)
    · intro _
      rfl

/-- What the checks of a definition ask of its literals and its retry lists. -/
structure Valid (d : Definition) : Prop where
  timeout : d.hasZeroTimeout = false
  factor : ∀ s, d.suspend = some s → s.HasFactor
  maximum : ∀ s low high, d.suspend = some s → s.initial = some (.literal low) →
    s.maximum = some (.literal high) → low ≤ high
  retry : ∀ r, d.retry = some r → r.disabled = [] ∨ r.enabled = []
  key : ∀ s key, d.security = some s → s.policy = some (.literal key) → Text.trimmed key ≠ ""

theorem validate_eq_ok {d : Definition} : d.validate = .ok () ↔ d.Valid := by
  simp only [validate_eq, Fallible.unit_bind_eq_ok, checkTimeout, Fallible.ite_throw_eq_ok,
    checkSuspend_eq_ok, checkMaximum_eq_ok, checkLists_eq_ok, checkKey_eq_ok]
  constructor
  · rintro ⟨htimeout, hsuspend, hretry, hkey⟩
    refine ⟨by simpa using htimeout, fun s hs => (hsuspend s hs).1, ?_, hretry, hkey⟩
    intro s low high hs hlow hhigh
    exact (hsuspend s hs).2 low high hlow hhigh
  · intro h
    refine ⟨by simp [h.timeout], fun s hs => ⟨h.factor s hs, ?_⟩, h.retry, h.key⟩
    intro low high hlow hhigh
    exact h.maximum s low high hs hlow hhigh

/-- What is read from data and accepted is valid. -/
theorem ofValue_eq_ok {v : Value} {d : Definition} :
    ofValue v = .ok d ↔ read v = .ok d ∧ d.Valid := by
  rw [ofValue]
  cases hread : read v with
  | error e => simp [throw, throwThe, MonadExceptOf.throw]
  | ok d' =>
    simp only [Fallible.unit_bind_eq_ok, validate_eq_ok, Except.ok.injEq, pure, Except.pure]
    constructor
    · rintro ⟨hvalid, rfl⟩
      exact ⟨rfl, hvalid⟩
    · rintro ⟨rfl, hvalid⟩
      exact ⟨hvalid, rfl⟩

end Definition

end ServiceBus
