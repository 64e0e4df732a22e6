import ServiceBus.Text.Blank

/-
ServiceBus.Config.Check — the checks that configuration fields share.

Each check names the field it was made for in what it reports.
-/
namespace ServiceBus

/-- Why a configuration is not accepted. -/
inductive ConfigFault where
  | emptyField (field : String)
  | notPositive (field : String)
  | badFactor (field : String)
  | noScheme (field : String)
  | defaultMaximumBelowInitial
  | badLogLevel (level : String)
  | duplicateEndpoint (name : String)
deriving Repr, DecidableEq

namespace ConfigFault

/-- What is wrong, without the introduction that `message` gives. -/
def reason : ConfigFault → String
  | emptyField field => field ++ " cannot be empty"
  | notPositive field => field ++ " must be greater than 0"
  | badFactor field => field ++ " must be a finite number >= 1.0"
  | noScheme field => field ++ " must be a valid URI with protocol"
  | defaultMaximumBelowInitial =>
    "dispatch.endpoint_defaults.maximum_suspend_ms must be >= initial_suspend_ms"
  | badLogLevel level =>
    "Invalid log level: " ++ level ++ ". Valid levels: trace, debug, info, warn, error, off"
  | duplicateEndpoint name => "duplicate endpoint name: " ++ name

/-- The text of a fault. -/
def message (f : ConfigFault) : String := "Validation error: " ++ f.reason

end ConfigFault

namespace Config

/-- A text must hold more than blanks. -/
def checkNotEmpty (value field : String) : Except ConfigFault Unit :=
  if Text.trimmed value = "" then .error (.emptyField field) else .ok ()

/-- A duration must be positive. -/
def checkPositive (value : UInt64) (field : String) : Except ConfigFault Unit :=
  if value = 0 then .error (.notPositive field) else .ok ()

/-- Factors that make a suspension neither shrink nor lose its meaning. -/
def isFactor (x : Float) : Bool := x.isFinite && 1.0 ≤ x

/-- A progression factor must be finite and at least one. -/
def checkFactor (value : Float) (field : String) : Except ConfigFault Unit :=
  if isFactor value then .ok () else .error (.badFactor field)

/-- An address must name a protocol. -/
def checkUri (value field : String) : Except ConfigFault Unit := do
  checkNotEmpty value field
  if (Text.splitAtPattern "://".toList value.toList).isNone then throw (.noScheme field)

end Config

end ServiceBus
