import FeatureTrials.Failure
import FeatureTrials.Rollout.Safety
import FeatureTrials.Text.Quoted
import FeatureTrials.Time.Timestamp

/-!
# Notices

What an engine tells its operators about, as the causes that gave rise to it. `Notice.line` is the
line in the log.
-/

namespace FeatureTrials

/-- How much a notice matters. -/
inductive Level where
  | debug
  | info
  | warn
  deriving DecidableEq, Repr

/-- The name of a level. -/
def Level.name : Level → String
  | .debug => "DEBUG"
  | .info => "INFO"
  | .warn => "WARN"

/-- Something operators are told. -/
inductive Notice where
  | segmentSkipped (id : String) (violation : Violation)
  | strategySkipped (id : String) (violation : Violation)
  | experimentCreated (id : String) (variants : Nat) (trafficPercent : Float)
  /-- something was done to an experiment -/
  | experimentMoved (id : String) (attempt : Attempt)
  | significanceReached (id : String)
  /-- a sweep was refused a start -/
  | startFailed (id : String) (failure : Failure)
  /-- a sweep was refused a completion -/
  | completionFailed (id : String) (failure : Failure)
  | experimentsSwept (started completed : Nat)
  | segmentCreated (id : String)
  | segmentDeleted (id : String)
  | strategyRegistered (id : String) (stages : Nat)
  | rolloutAdvanced (id stage : String)
  | rolloutPaused (id : String)
  | rolloutResumed (id : String)
  | rolloutRolledBack (id : String)
  | checkFailed (id : String) (check : FailedCheck)
  | rolloutPausedByCheck (id : String)
  | rolloutRolledBackByCheck (id : String)
  | unknownStrategy (flagKey strategyId : String)
  | analyticsProcessed (exposures conversions evaluations : Nat)
  | analyticsCleaned (removed : Nat) (cutoff : Instant)
  | jobRefused (name : String)
  | jobFailed (name : String)
  | jobStopping (name : String)
  | schedulerStarted (jobs : Nat)
  | schedulerStopped

namespace Notice

/-- How much a notice matters. -/
def level : Notice → Level
  | .segmentSkipped .. | .strategySkipped .. | .checkFailed .. | .unknownStrategy ..
  | .startFailed .. | .completionFailed .. | .jobRefused _ | .jobFailed _ => .warn
  | .experimentsSwept .. | .analyticsProcessed .. | .analyticsCleaned .. | .jobStopping _ => .debug
  | _ => .info

/-- The text of a notice. -/
def message : Notice → String
  | .segmentSkipped id violation =>
    s!"skipping configured segment {Text.quoted id}: {(Failure.invalid violation).message}"
  | .strategySkipped id violation =>
    s!"skipping configured rollout strategy {Text.quoted id}: {(Failure.invalid violation).message}"
  | .experimentCreated id variants trafficPercent =>
    s!"experiment {id} created ({variants} variants, {Decimal.display trafficPercent}% traffic)"
  | .experimentMoved id attempt => s!"experiment {id} {attempt.participle}"
  | .significanceReached id => s!"experiment {id} reached significance, stopping early"
  | .startFailed id failure => s!"could not start scheduled experiment {id}: {failure.message}"
  | .completionFailed id failure => s!"could not complete experiment {id}: {failure.message}"
  | .experimentsSwept started completed =>
    s!"experiment sweep started {started} and completed {completed} experiments"
  | .segmentCreated id => s!"segment {id} created"
  | .segmentDeleted id => s!"segment {id} deleted"
  | .strategyRegistered id stages => s!"rollout strategy {id} registered with {stages} stages"
  | .rolloutAdvanced id stage => s!"rollout {id} advanced to stage {stage}"
  | .rolloutPaused id => s!"rollout {id} paused"
  | .rolloutResumed id => s!"rollout {id} resumed"
  | .rolloutRolledBack id => s!"rollout {id} rolled back"
  | .checkFailed id check =>
    s!"rollout {id} safety check on {check.metric} failed: {Decimal.display check.value} " ++
      s!"against threshold {Decimal.display check.threshold}, action {check.action.name}"
  | .rolloutPausedByCheck id => s!"rollout {id} paused by safety check"
  | .rolloutRolledBackByCheck id => s!"rollout {id} rolled back by safety check"
  | .unknownStrategy flagKey strategyId =>
    s!"flag {flagKey} uses unknown rollout strategy {strategyId}, serving it ungated"
  | .analyticsProcessed exposures conversions evaluations =>
    s!"processed analytics: {exposures} exposures, {conversions} conversions, " ++
      s!"{evaluations} evaluations"
  | .analyticsCleaned removed cutoff =>
    s!"analytics cleanup removed {removed} events older than {cutoff.display}"
  | .jobRefused name =>
    s!"background job {name} has a zero interval and will not be scheduled"
  | .jobFailed name => s!"background job {name} panicked; it will run again next interval"
  | .jobStopping name => s!"background job {name} stopping"
  | .schedulerStarted jobs => s!"scheduler started with {jobs} jobs"
  | .schedulerStopped => "scheduler stopped"

/-- The line in the log. -/
def line (notice : Notice) : String := s!"{notice.level.name} {notice.message}"

end Notice

end FeatureTrials
