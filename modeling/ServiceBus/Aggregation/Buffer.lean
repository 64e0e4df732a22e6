import ServiceBus.Metrics
import ServiceBus.Failure

/-
ServiceBus.Aggregation.Buffer — the results that the branches of one run have
brought in.

A buffer is open until it is closed for one of four reasons, and never opens
again. While it is open every branch is taken into account at most once, as a
result or as excluded. `awaiting` counts the branches whose reply is still to
come. Each operation is one atomic change.
-/
namespace ServiceBus

/-- What one branch brought in. -/
structure BranchResult where
  branch : Nat
  payload : Payload

/-- Whether a contribution was taken. -/
inductive Contribution where
  | accepted
  | rejected
deriving Repr, DecidableEq, Inhabited

/-- How many branches there are and how many results are wanted. -/
structure BufferLimits where
  expected : Nat
  minimum : Option UInt32 := none
  maximum : Option UInt32 := none
deriving Repr, DecidableEq, Inhabited

/-- The results of one run. -/
structure Buffer where
  correlation : String
  limits : BufferLimits
  /-- Accepted results in the order of acceptance. -/
  results : List BranchResult := []
  excluded : Nat := 0
  /-- The branches that are results or excluded. -/
  settled : List Nat := []
  awaiting : Nat := 0
  /-- Why the buffer was closed; none while it is open. -/
  reason : Option CloseReason := none
deriving Inhabited

/-- The contents of a closed buffer. -/
structure ClosedBuffer where
  results : List BranchResult
  excluded : Nat
  reason : CloseReason

/-- A buffer was closed with fewer results than wanted. -/
structure PartialWarning where
  correlation : String
  received : Nat
  minimum : UInt32
  reason : CloseReason
deriving Repr, DecidableEq

namespace PartialWarning

/-- The text of a warning. -/
def text (w : PartialWarning) : String :=
  "聚合 " ++ w.correlation ++ " 仅收到 " ++ String.ofList (Decimal.digits w.received) ++ "/" ++
    String.ofList (Decimal.digits w.minimum.toNat) ++ " 条结果 (关闭原因: " ++ w.reason.name ++ ")"

/-- The value of a warning. -/
def write (w : PartialWarning) : Value :=
  .object [("correlation_id", .text w.correlation), ("min_messages", .int w.minimum.toNat),
    ("reason", .text w.reason.name), ("received", .int w.received)]

end PartialWarning

namespace Buffer

/-- An empty buffer. -/
def opened (correlation : String) (limits : BufferLimits) : Buffer where
  correlation
  limits

/-- Whether the buffer is closed. -/
def isClosed (b : Buffer) : Bool := b.reason.isSome

/-- The number of branches that are results or excluded. -/
def accounted (b : Buffer) : Nat := b.results.length + b.excluded

/-- Closes the buffer for a reason, unless it is closed. -/
def close (b : Buffer) (reason : CloseReason) : Buffer :=
  if b.isClosed then b else { b with reason := some reason }

/-- Closes the buffer if every branch is accounted for. -/
def closeIfAccounted (b : Buffer) : Buffer :=
  if b.limits.expected ≤ b.accounted then b.close .allBranches else b

/-- Whether there are as many results as are wanted at most. -/
def isFull (b : Buffer) : Bool :=
  match b.limits.maximum with
  | some maximum => decide (maximum.toNat ≤ b.results.length)
  | none => false

/-- Adds a result; `completed` says whether the completion condition holds on
its branch. The reasons to close are tried in the order full, completed, all
branches. -/
def add (b : Buffer) (result : BranchResult) (completed : Bool) : Contribution × Buffer :=
  if b.isClosed || b.settled.contains result.branch then (.rejected, b)
  else
    let b := { b with
      results := b.results ++ [result]
      settled := result.branch :: b.settled }
    if b.isFull then (.accepted, b.close .maxMessages)
    else if completed then (.accepted, b.close .completionCondition)
    else (.accepted, b.closeIfAccounted)

/-- Takes a branch into account that brings no result. -/
def exclude (b : Buffer) (branch : Nat) : Buffer :=
  if b.isClosed || b.settled.contains branch then b
  else { b with excluded := b.excluded + 1, settled := branch :: b.settled }.closeIfAccounted

/-- Notes that a branch waits for its reply, unless the reply was already
delivered. -/
def markAwaiting (b : Buffer) (branch : Nat) : Buffer :=
  if b.settled.contains branch then b else { b with awaiting := b.awaiting + 1 }

/-- Takes a reply off the count of those awaited; false for a branch that is
already settled. -/
def settleAwaiting (b : Buffer) (branch : Nat) : Bool × Buffer :=
  if b.settled.contains branch then (false, b) else (true, { b with awaiting := b.awaiting - 1 })

/-- The branches that are neither results nor excluded. -/
def outstanding (b : Buffer) : Nat := b.limits.expected - b.accounted

/-- Takes the contents out of a closed buffer. -/
def take (b : Buffer) : Except Failure ClosedBuffer × Buffer :=
  match b.reason with
  | none => (.error (.invariant (.aggregationOpen b.correlation)), b)
  | some reason => (.ok ⟨b.results, b.excluded, reason⟩, { b with results := [] })

/-- The warning for a number of results below the wanted minimum. -/
def partialWarning (b : Buffer) (received : Nat) (reason : CloseReason) : Option PartialWarning :=
  match b.limits.minimum with
  | some minimum =>
    if minimum.toNat ≤ received then none
    else some ⟨b.correlation, received, minimum, reason⟩
  | none => none

end Buffer

end ServiceBus
