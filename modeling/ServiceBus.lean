import ServiceBus.Time
import ServiceBus.Value.Reader
import ServiceBus.Expression
import ServiceBus.Rehoming
import ServiceBus.Endpoint.Registry
import ServiceBus.Aggregation.Buffer
import ServiceBus.Transport
import ServiceBus.Bus
import ServiceBus.Flow.Edit
import ServiceBus.Aggregation.Run
import ServiceBus.Flow.Basic
import ServiceBus.Flow.Call
import ServiceBus.Flow.Step
import ServiceBus.Flow.Lifecycle
import ServiceBus.Simulation.Step
import ServiceBus.Simulation.World
import ServiceBus.Simulation.Run
import ServiceBus.Endpoint.Builder
import ServiceBus.Config.Basic
import ServiceBus.Simulation.Reading
import ServiceBus.Main
import ServiceBus.Proofs.Buffer.Accounting
import ServiceBus.Proofs.Bus.Runs
import ServiceBus.Proofs.Bus.Buffers
import ServiceBus.Proofs.Traffic.Effect
import ServiceBus.Proofs.Traffic.History
import ServiceBus.Proofs.Traffic.Registration
import ServiceBus.Proofs.Buffer.Outcome
import ServiceBus.Proofs.Traffic.Report
import ServiceBus.Proofs.Flow.Apart
import ServiceBus.Proofs.Flow.Inevitable
import ServiceBus.Proofs.Call.WayBack
import ServiceBus.Proofs.Sequence.Passage
import ServiceBus.Proofs.Call.Sending
import ServiceBus.Proofs.Sequence.StraightThrough
import ServiceBus.Proofs.Traffic.Lookup
import ServiceBus.Proofs.Traffic.Late
import ServiceBus.Proofs.Traffic.Abandoned
import ServiceBus.Proofs.Health.Course
import ServiceBus.Proofs.Decimal.WholeProduct
import ServiceBus.Proofs.Health.Backoff
import ServiceBus.Proofs.Call.Exchange
import ServiceBus.Proofs.Call.BothWays
import ServiceBus.Proofs.Sequence.Neutral
import ServiceBus.Proofs.Dispatch.Endpoints
import ServiceBus.Proofs.Dispatch.Service
import ServiceBus.Proofs.Dispatch.Underway
import ServiceBus.Proofs.Dispatch.History
import ServiceBus.Proofs.Dispatch.FailFast
import ServiceBus.Proofs.Dispatch.Agreement
import ServiceBus.Proofs.Definition.Fields
import ServiceBus.Proofs.Definition.Checks
import ServiceBus.Proofs.Definition.RoundTrip
import ServiceBus.Proofs.Registry.Entries
import ServiceBus.Proofs.Registry.Chains
import ServiceBus.Proofs.Registry.Reports
import ServiceBus.Proofs.Registry.Validated
import ServiceBus.Proofs.Dispatch.Attempts
import ServiceBus.Proofs.Dispatch.Alone
import ServiceBus.Proofs.Dispatch.Retries
import ServiceBus.Proofs.Call.Failing
import ServiceBus.Proofs.Call.Diversion
import ServiceBus.Proofs.Call.Attributes
import ServiceBus.Proofs.Call.HandedOff
import ServiceBus.Proofs.Buffer.Deliveries
import ServiceBus.Proofs.Bus.Replies
import ServiceBus.Proofs.Traffic.Answers
import ServiceBus.Proofs.Traffic.Branches
import ServiceBus.Proofs.Traffic.Awaited
import ServiceBus.Proofs.Buffer.Complete
import ServiceBus.Proofs.Traffic.Foreign
import ServiceBus.Proofs.Call.Returned
import ServiceBus.Proofs.Call.Restored
import ServiceBus.Proofs.Traffic.Progress
import ServiceBus.Proofs.Traffic.Log
import ServiceBus.Proofs.Traffic.Schedule
import ServiceBus.Proofs.Dispatch.Given
import ServiceBus.Proofs.Call.Resent
import ServiceBus.Proofs.Call.Rejected
import ServiceBus.Proofs.Call.Copied
import ServiceBus.Proofs.Call.Delivered
import ServiceBus.Proofs.Payload.Fragments
import ServiceBus.Proofs.Definition.Keys
import ServiceBus.Proofs.Definition.Settings
import ServiceBus.Proofs.Registry.Indirection
import ServiceBus.Proofs.Dispatch.StandIn
import ServiceBus.Proofs.Text.Cutting
import ServiceBus.Proofs.Decimal.Numerals
import ServiceBus.Proofs.Definition.Codes
import ServiceBus.Proofs.Payload.Declaration
import ServiceBus.Proofs.Traffic.Diary
import ServiceBus.Proofs.Traffic.Waiting
