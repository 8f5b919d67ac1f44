import TemporalSdk.Properties.Activation
import TemporalSdk.Properties.ActivityCompletion
import TemporalSdk.Properties.Aliasing
import TemporalSdk.Properties.Answers
import TemporalSdk.Properties.AsCompleted
import TemporalSdk.Properties.AtomicUpserts
import TemporalSdk.Properties.AttributeMaps
import TemporalSdk.Properties.AttributeValues
import TemporalSdk.Properties.CancelReasons
import TemporalSdk.Properties.CodecCoverage
import TemporalSdk.Properties.Conditions
import TemporalSdk.Properties.ErrorMapping
import TemporalSdk.Properties.EventLoop
import TemporalSdk.Properties.Eviction
import TemporalSdk.Properties.FailureChains
import TemporalSdk.Properties.FailureCodec
import TemporalSdk.Properties.FailureRoundTrip
import TemporalSdk.Properties.FollowedRuns
import TemporalSdk.Properties.FunctionHints
import TemporalSdk.Properties.Heartbeats
import TemporalSdk.Properties.HistoryImport
import TemporalSdk.Properties.Lifecycle
import TemporalSdk.Properties.MatcherUnion
import TemporalSdk.Properties.Overrides
import TemporalSdk.Properties.PagedIterators
import TemporalSdk.Properties.Passthrough
import TemporalSdk.Properties.Patches
import TemporalSdk.Properties.PayloadRoundTrip
import TemporalSdk.Properties.Queries
import TemporalSdk.Properties.ReadOnly
import TemporalSdk.Properties.SandboxMatching
import TemporalSdk.Properties.SchedulePatches
import TemporalSdk.Properties.ScheduleWire
import TemporalSdk.Properties.SearchAttributes
import TemporalSdk.Properties.SharedHeartbeats
import TemporalSdk.Properties.SignalHandlers
import TemporalSdk.Properties.SignalOrder
import TemporalSdk.Properties.Signals
import TemporalSdk.Properties.TearDown
import TemporalSdk.Properties.ThreadCancellation
import TemporalSdk.Properties.ThreadReuse
import TemporalSdk.Properties.Timers
import TemporalSdk.Properties.TypeHints
import TemporalSdk.Properties.TypedJson
import TemporalSdk.Properties.Unrestricted
import TemporalSdk.Properties.UntypedUpserts
import TemporalSdk.Properties.UpdateResults
import TemporalSdk.Properties.WorkerShutdown
import TemporalSdk.Properties.WorkflowObject
import TemporalSdk.Properties.WorkflowWorker
import TemporalSdk.Workflow.Stands
