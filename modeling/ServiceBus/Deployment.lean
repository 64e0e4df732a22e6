import ServiceBus.Config.Basic
import ServiceBus.Flow.Lifecycle

/-
ServiceBus.Deployment — a bus built from its configuration.

Building registers the endpoints of the configuration and checks where their
keys lead. `reports` resolves every endpoint and its policy for an empty
message, so a policy that is computed from messages shows its default.
-/
namespace ServiceBus

/-- A bus with the configuration that it was built from. -/
structure Deployment where
  config : BusConfig
  bus : Bus
deriving Inhabited

/-- What an endpoint comes down to. -/
structure EndpointReport where
  endpoint : Endpoint
  /-- The endpoint that it stands for. -/
  target : Endpoint
  settings : Settings
deriving Inhabited

/-- Why a deployment cannot be built or described. -/
inductive DeploymentProblem where
  | registry (failure : Failure)
  | initialization (endpoint : String) (failure : Failure)
  | resolution (endpoint : String) (failure : Failure)
  | snapshot (failure : Failure)

namespace DeploymentProblem

/-- The failure behind a problem. -/
def failure : DeploymentProblem → Failure
  | registry f => f
  | initialization _ f => f
  | resolution _ f => f
  | snapshot f => f

/-- The messages of a problem, from the outermost inwards. -/
def messages : DeploymentProblem → List String
  | registry f => ["构建端点注册表失败", f.message]
  | initialization name f => ["初始化端点失败: " ++ name, f.message]
  | resolution name f => ["解析端点失败: " ++ name, f.message]
  | snapshot f => [f.message]

end DeploymentProblem

namespace EndpointReport

/-- The word for the kind of an endpoint. -/
def kind (r : EndpointReport) : String :=
  match r.endpoint.kind with
  | .address _ => "address"
  | .wsdl .. => "wsdl"
  | .default => "default"
  | .indirect _ => "indirect"

/-- Where an endpoint points: an address, or the key of another endpoint. -/
def address? (r : EndpointReport) : Option String :=
  match r.endpoint.kind with
  | .address uri => some uri
  | .wsdl uri _ _ => some uri
  | .default => none
  | .indirect key => some key

end EndpointReport

namespace Deployment

/-- Builds the bus of a configuration. -/
def build (c : BusConfig) : Except DeploymentProblem Deployment := do
  let endpoints ← (Registry.ofEntries c.endpoints).mapError .registry
  return ⟨c, { endpoints, defaults := c.endpointDefaults }⟩

/-- The registered endpoints in the order of their names. -/
def endpoints (d : Deployment) : List (String × Endpoint) := d.bus.endpoints.toList

/-- Puts endpoints into use, in order, up to the first that cannot be. -/
def initAll (d : Deployment) : List String → Except DeploymentProblem Unit × Deployment
  | [] => (.ok (), d)
  | name :: rest =>
    match d.bus.initEndpoint name with
    | (.ok (), bus) => initAll { d with bus } rest
    | (.error f, bus) => (.error (.initialization name f), { d with bus })

/-- Puts all endpoints into use. -/
def init (d : Deployment) : Except DeploymentProblem Unit × Deployment :=
  d.initAll (d.endpoints.map Prod.fst)

/-- Takes all endpoints out of use. -/
def shutdown (d : Deployment) : Deployment :=
  { d with bus := d.endpoints.foldl (fun bus (name, _) => bus.destroyEndpoint name) d.bus }

/-- The message for which policies are resolved. -/
def probe : Message := { id := ⟨0⟩ }

/-- What a registered endpoint comes down to. -/
def report (d : Deployment) (e : Endpoint) : Except DeploymentProblem EndpointReport := do
  let target ← (d.bus.endpoints.resolve e.name).mapError (.resolution e.name)
  let settings := Settings.resolve target.definition probe d.bus.evaluator d.bus.defaults
  return ⟨e, target, settings⟩

/-- What all endpoints come down to, in the order of their names. -/
def reports (d : Deployment) : Except DeploymentProblem (List EndpointReport) :=
  d.endpoints.mapM fun (_, e) => d.report e

/-- The configuration of a scatter-gather that leaves everything open. -/
def scatterConfig (d : Deployment) (form : AggregateForm) (place : ResultPlace) : ScatterConfig :=
  ScatterConfig.ofDefaults d.config.scatter form place

end Deployment

end ServiceBus
