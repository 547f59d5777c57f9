import FeatureTrials.Json.Reader
import FeatureTrials.Rollout.Defaults
import FeatureTrials.Segment

/-!
# Configuration

The settings of an engine. Every setting has a default, so a document only has to name those it
changes. Durations are whole seconds.
-/

namespace FeatureTrials

/-- What a new experiment is filled in with. -/
structure ExperimentDefaults where
  duration : Span := .ofDays 7
  trafficPercent : Float := 10.0

/-- How often each background job runs. -/
structure Intervals where
  experimentMonitor : Span := .ofMinutes 5
  analyticsProcessing : Span := .ofMinutes 1
  rolloutMonitor : Span := .ofMinutes 10
  dataCleanup : Span := .ofHours 1

/-- The settings of an engine. -/
structure Config where
  experimentationEnabled : Bool := true
  segmentationEnabled : Bool := true
  analyticsEnabled : Bool := true
  /-- the level of confidence that a significant result needs -/
  significance : Float := 0.95
  /-- the users over all variants below which every result is in progress -/
  minSampleSize : Nat := 1000
  analyticsRetention : Span := .ofDays 30
  experimentDefaults : ExperimentDefaults := {}
  /-- the strategy of flags that do not name one -/
  defaultStrategy : Option String := none
  strategies : List Strategy := Strategy.defaults
  segments : List Segment
  intervals : Intervals := {}

/-- The background jobs, by the setting that holds their interval. -/
inductive JobName where
  | experimentMonitor
  | analyticsProcessing
  | rolloutMonitor
  | dataCleanup
  deriving DecidableEq, Repr

/-- The name of a job. -/
def JobName.text : JobName → String
  | .experimentMonitor => "experiment_monitor"
  | .analyticsProcessing => "analytics_processing"
  | .rolloutMonitor => "rollout_monitor"
  | .dataCleanup => "data_cleanup"

/-- The interval of a job. -/
def Intervals.of (intervals : Intervals) : JobName → Span
  | .experimentMonitor => intervals.experimentMonitor
  | .analyticsProcessing => intervals.analyticsProcessing
  | .rolloutMonitor => intervals.rolloutMonitor
  | .dataCleanup => intervals.dataCleanup

/-- Why a configuration is refused. -/
inductive ConfigFailure where
  | significance (level : Float)
  | trafficPercent (percent : Float)
  | zeroInterval (job : JobName)
  deriving DecidableEq

/-- The text of a refusal. -/
def ConfigFailure.message : ConfigFailure → String
  | .significance level =>
    s!"statistical significance must be between 0 and 1 exclusive, got {Decimal.display level}"
  | .trafficPercent percent =>
    s!"experiment default traffic percent must be between 0 and 100, got {Decimal.display percent}"
  | .zeroInterval job => s!"interval {job.text} must be greater than zero"

namespace ExperimentDefaults

/-- The fields that are read. -/
def shape : Json.Shape := .ofFields ["duration", "traffic_percent"] []

/-- Reads the defaults of experiments. -/
def ofJson? (j : Json) : Option ExperimentDefaults := do
  let fields ← j.fields?
  let duration ← fields.orElse "duration" Span.ofJson? (.ofDays 7)
  let trafficPercent ← fields.orElse "traffic_percent" Json.number? 10.0
  some { duration, trafficPercent }

/-- Writes the defaults of experiments. -/
def toJson (defaults : ExperimentDefaults) : Json :=
  .obj [("duration", defaults.duration.toJson),
    ("traffic_percent", .ofFloat defaults.trafficPercent)]

end ExperimentDefaults

namespace Intervals

/-- The fields that are read. -/
def shape : Json.Shape :=
  .ofFields ["experiment_monitor", "analytics_processing", "rollout_monitor", "data_cleanup"] []

/-- Reads intervals. -/
def ofJson? (j : Json) : Option Intervals := do
  let fields ← j.fields?
  let defaults : Intervals := {}
  let experimentMonitor ←
    fields.orElse "experiment_monitor" Span.ofJson? defaults.experimentMonitor
  let analyticsProcessing ←
    fields.orElse "analytics_processing" Span.ofJson? defaults.analyticsProcessing
  let rolloutMonitor ← fields.orElse "rollout_monitor" Span.ofJson? defaults.rolloutMonitor
  let dataCleanup ← fields.orElse "data_cleanup" Span.ofJson? defaults.dataCleanup
  some { experimentMonitor, analyticsProcessing, rolloutMonitor, dataCleanup }

/-- Writes intervals. -/
def toJson (intervals : Intervals) : Json :=
  .obj [("experiment_monitor", intervals.experimentMonitor.toJson),
    ("analytics_processing", intervals.analyticsProcessing.toJson),
    ("rollout_monitor", intervals.rolloutMonitor.toJson),
    ("data_cleanup", intervals.dataCleanup.toJson)]

end Intervals

namespace Config

/-- The settings of an engine nobody has configured. -/
def standard (now : Instant) : Config := { segments := Segment.defaults now }

/-- The first setting that is out of range. -/
def failure? (config : Config) : Option ConfigFailure :=
  if !(config.significance > 0.0 && config.significance < 1.0) then
    some (.significance config.significance)
  else if !isPercentage config.experimentDefaults.trafficPercent then
    some (.trafficPercent config.experimentDefaults.trafficPercent)
  else
    ([.experimentMonitor, .analyticsProcessing, .rolloutMonitor, .dataCleanup].find?
      fun job => (config.intervals.of job).isZero).map .zeroInterval

/-- The fields that are read. -/
def shape : Json.Shape :=
  .ofFields
    ["experimentation_enabled", "segmentation_enabled", "analytics_enabled",
      "statistical_significance", "min_sample_size", "analytics_retention",
      "default_rollout_strategy"]
    [("experiment_defaults", ExperimentDefaults.shape),
      ("rollout_strategies", .list Strategy.shape),
      ("default_segments", .list Segment.shape),
      ("intervals", Intervals.shape)]

/-- Reads settings; the segments that stand in for missing ones are created at the clock reading. -/
def ofJson? (now : Instant) (j : Json) : Option Config := do
  let fields ← j.fields?
  let defaults := standard now
  let experimentationEnabled ← fields.orElse "experimentation_enabled" Json.bool? true
  let segmentationEnabled ← fields.orElse "segmentation_enabled" Json.bool? true
  let analyticsEnabled ← fields.orElse "analytics_enabled" Json.bool? true
  let significance ←
    fields.orElse "statistical_significance" Json.number? defaults.significance
  let minSampleSize ← fields.orElse "min_sample_size" Json.nat? defaults.minSampleSize
  let analyticsRetention ←
    fields.orElse "analytics_retention" Span.ofJson? defaults.analyticsRetention
  let experimentDefaults ←
    fields.orElse "experiment_defaults" ExperimentDefaults.ofJson? defaults.experimentDefaults
  let defaultStrategy ← fields.nullable "default_rollout_strategy" Json.text?
  let strategies ←
    fields.orElse "rollout_strategies" (Json.list? Strategy.ofJson?) defaults.strategies
  let segments ←
    fields.orElse "default_segments" (Json.list? (Segment.ofJson? now)) defaults.segments
  let intervals ← fields.orElse "intervals" Intervals.ofJson? defaults.intervals
  some { experimentationEnabled, segmentationEnabled, analyticsEnabled, significance,
         minSampleSize, analyticsRetention, experimentDefaults, defaultStrategy, strategies,
         segments, intervals }

/-- Reads settings from the text of a document. -/
def ofText? (now : Instant) (s : String) : Option Config :=
  (Json.parseAs? shape s).bind (ofJson? now)

/-- Writes settings. -/
def toJson (config : Config) : Json :=
  .obj [("experimentation_enabled", .bool config.experimentationEnabled),
    ("segmentation_enabled", .bool config.segmentationEnabled),
    ("analytics_enabled", .bool config.analyticsEnabled),
    ("statistical_significance", .ofFloat config.significance),
    ("min_sample_size", .ofNat config.minSampleSize),
    ("analytics_retention", config.analyticsRetention.toJson),
    ("experiment_defaults", config.experimentDefaults.toJson),
    ("default_rollout_strategy", .ofOption .str config.defaultStrategy),
    ("rollout_strategies", .ofList Strategy.toJson config.strategies),
    ("default_segments", .ofList Segment.toJson config.segments),
    ("intervals", config.intervals.toJson)]

end Config

end FeatureTrials
