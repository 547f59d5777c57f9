import FeatureTrials.Analytics.Basic
import FeatureTrials.Analytics.Format
import FeatureTrials.Analytics.Log
import FeatureTrials.Analytics.Report
import FeatureTrials.Attribute.Value
import FeatureTrials.Bucket
import FeatureTrials.Config
import FeatureTrials.Decimal.Binary
import FeatureTrials.Decimal.Exponential
import FeatureTrials.Decimal.Layout
import FeatureTrials.Decimal.Literal
import FeatureTrials.Decimal.Shortest
import FeatureTrials.Digest
import FeatureTrials.Engine.Background
import FeatureTrials.Engine.Definitions
import FeatureTrials.Engine.Evaluation
import FeatureTrials.Engine.Operation
import FeatureTrials.Engine.Rollouts
import FeatureTrials.Engine.State
import FeatureTrials.Engine.Sweep
import FeatureTrials.Experiment.Assignment
import FeatureTrials.Experiment.Basic
import FeatureTrials.Experiment.Lifecycle
import FeatureTrials.Experiment.Results
import FeatureTrials.Experiment.Significance
import FeatureTrials.Experiment.Status
import FeatureTrials.Experiment.Validity
import FeatureTrials.Experiment.Variant
import FeatureTrials.Failure
import FeatureTrials.Flag.Basic
import FeatureTrials.Flag.Detail
import FeatureTrials.Flag.Value
import FeatureTrials.Json.Decode
import FeatureTrials.Json.Reader
import FeatureTrials.Json.Shape
import FeatureTrials.Json.Skip
import FeatureTrials.Json.Table
import FeatureTrials.Json.Token
import FeatureTrials.Json.Value
import FeatureTrials.Json.Writer
import FeatureTrials.Notice
import FeatureTrials.Rollout.Defaults
import FeatureTrials.Rollout.Progress
import FeatureTrials.Rollout.Safety
import FeatureTrials.Rollout.Strategy
import FeatureTrials.Rule.Basic
import FeatureTrials.Rule.Format
import FeatureTrials.Scheduler
import FeatureTrials.Segment
import FeatureTrials.Signal
import FeatureTrials.Table
import FeatureTrials.Text.Blank
import FeatureTrials.Text.Extender
import FeatureTrials.Text.Hex
import FeatureTrials.Text.Hidden
import FeatureTrials.Text.Property
import FeatureTrials.Text.Quoted
import FeatureTrials.Text.Search
import FeatureTrials.Time.Calendar
import FeatureTrials.Time.Format
import FeatureTrials.Time.Instant
import FeatureTrials.Time.Timestamp
import FeatureTrials.User
import FeatureTrials.Proofs.Analytics.Samples
import FeatureTrials.Proofs.Engine.Change
import FeatureTrials.Proofs.Engine.Effect
import FeatureTrials.Proofs.Engine.Exposures
import FeatureTrials.Proofs.Engine.Success
import FeatureTrials.Proofs.Engine.Sweep
import FeatureTrials.Proofs.Experiment.Assignment
import FeatureTrials.Proofs.Experiment.Frozen
import FeatureTrials.Proofs.Experiment.Lifecycle
import FeatureTrials.Proofs.Rollout.Resolve
import FeatureTrials.Proofs.Rollout.Transparency
import FeatureTrials.Proofs.Text.Bytes
import FeatureTrials.Proofs.Engine.Registries
import FeatureTrials.Proofs.Engine.InPlace
import FeatureTrials.Proofs.Engine.Refusal
import FeatureTrials.Proofs.Engine.Evaluation
import FeatureTrials.Proofs.Engine.ExperimentSweep
import FeatureTrials.Proofs.Engine.RolloutChange
import FeatureTrials.Proofs.Rollout.Safety
import FeatureTrials.Proofs.Engine.RolloutSweep
import FeatureTrials.Proofs.Engine.KillSwitch
import FeatureTrials.Proofs.Decimal.Order
import FeatureTrials.Proofs.Rollout.RampUp
import FeatureTrials.Proofs.Engine.RampUp
import FeatureTrials.Proofs.Experiment.Mirror
import FeatureTrials.Proofs.Time.Hours
import FeatureTrials.Proofs.Time.Order
import FeatureTrials.Proofs.Analytics.Counts
import FeatureTrials.Proofs.Analytics.Passes
import FeatureTrials.Proofs.Analytics.Reports
import FeatureTrials.Proofs.Analytics.Buckets
import FeatureTrials.Proofs.Analytics.Cleanup
import FeatureTrials.Proofs.Analytics.Retention
import FeatureTrials.Proofs.Engine.Accounts
import FeatureTrials.Proofs.Engine.WithoutAnalytics
import FeatureTrials.Proofs.Decimal.Finite
import FeatureTrials.Proofs.Json.Canonical
import FeatureTrials.Proofs.Json.Rereads
import FeatureTrials.Proofs.Time.Calendar
import FeatureTrials.Proofs.Time.Timestamp
import FeatureTrials.Proofs.Definitions.Values
import FeatureTrials.Proofs.Definitions.Records
import FeatureTrials.Proofs.Definitions.Settings
import FeatureTrials.Proofs.Engine.Noninterference
import FeatureTrials.Proofs.Engine.Segments
import FeatureTrials.Proofs.Analytics.Reordering
import FeatureTrials.Proofs.Engine.Calls
import FeatureTrials.Proofs.Scheduler.Tasks
import FeatureTrials.Proofs.Decimal.Rounding
import FeatureTrials.Proofs.Decimal.Operations
import FeatureTrials.Proofs.Experiment.Shares
import FeatureTrials.Proofs.Rollout.Timetable
import FeatureTrials.Proofs.Engine.PausedTime
import FeatureTrials.Proofs.Experiment.Traffic
import FeatureTrials.Proofs.Experiment.Proportions
import FeatureTrials.Proofs.Experiment.Verdict
import FeatureTrials.Proofs.Engine.Counting
import FeatureTrials.Proofs.Rule.Operators
import FeatureTrials.Proofs.Attribute.LooseEquality
import FeatureTrials.Proofs.Definitions.Readings
import FeatureTrials.Proofs.Definitions.Stored
import FeatureTrials.Proofs.Experiment.Validity
import FeatureTrials.Proofs.Bucket.Arithmetic
