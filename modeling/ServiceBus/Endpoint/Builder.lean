import ServiceBus.Endpoint.Definition

/-
ServiceBus.Endpoint.Builder — definitions put together piece by piece.

Each function states one part of a policy and leaves what was stated before;
numbers are stated as literals.
-/
namespace ServiceBus.Definition

/-- A definition with an address. -/
def atAddress (address : String) : Definition := { address := some address }

/-- Changes the suspension policy, which begins empty. -/
def updateSuspend (d : Definition) (f : SuspendPolicy → SuspendPolicy) : Definition :=
  { d with suspend := some (f (d.suspend.getD {})) }

/-- Changes the retry count policy, which begins empty. -/
def updateMark (d : Definition) (f : MarkPolicy → MarkPolicy) : Definition :=
  { d with mark := some (f (d.mark.getD {})) }

/-- States how long the endpoint is suspended. -/
def withSuspension (d : Definition) (initial : UInt64) (factor : Float) (maximum : UInt64) :
    Definition :=
  d.updateSuspend fun s => { s with
    initial := some (.literal initial)
    factor := some (.literal factor)
    maximum := some (.literal maximum) }

/-- States the codes that suspend at once. -/
def withSuspendCodes (d : Definition) (codes : List Int32) : Definition :=
  d.updateSuspend fun s => { s with codes := some (.literal ⟨codes⟩) }

/-- States the initial duration as an expression. -/
def withInitialExpression (d : Definition) (expression : String) : Definition :=
  d.updateSuspend fun s => { s with initial := some (.expression expression) }

/-- States how often, and after what delay, a failure is retried. -/
def withRetries (d : Definition) (retries : UInt32) (delay : UInt64) : Definition :=
  d.updateMark fun p => { p with
    retries := some (.literal retries)
    delay := some (.literal delay) }

/-- States the codes that count. -/
def withMarkCodes (d : Definition) (codes : List Int32) : Definition :=
  d.updateMark fun p => { p with codes := some (.literal ⟨codes⟩) }

/-- States how long an attempt may take, and what happens then. -/
def withTimeout (d : Definition) (duration : UInt64) (action : TimeoutAction) : Definition :=
  { d with timeout := some { d.timeout.getD {} with
      duration := some (.literal duration)
      action := some (.literal action) } }

/-- States the codes that may not be retried. -/
def withRetryDisabled (d : Definition) (codes : List Int32) : Definition :=
  { d with retry := some { disabled := codes } }

/-- States the only codes that may be retried. -/
def withRetryEnabled (d : Definition) (codes : List Int32) : Definition :=
  { d with retry := some { enabled := codes } }

end ServiceBus.Definition
