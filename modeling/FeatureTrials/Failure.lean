import FeatureTrials.Decimal.Layout
import FeatureTrials.Experiment.Status

/-!
# What can go wrong

Causes of failure of the operations that manage definitions, and their texts. Evaluating a flag
never fails; see `Reason` instead.

* `Violation` — a constraint that a definition violates.
* `Failure` — why an operation was refused. A refused operation changes nothing.
-/

namespace FeatureTrials

/-- A constraint that a definition violates. -/
inductive Violation where
  | missingExperimentId
  | missingExperimentName
  | tooFewVariants (count : Nat)
  | negativeWeight (variant : String)
  | zeroTotalWeight
  | trafficOutOfRange (percent : Float)
  | multipleControls (count : Nat)
  | duplicateVariant (variant : String)
  | initialStatus (status : Status)
  | missingSegmentId
  | missingStrategyId
  | noStages (strategy : String)
  | stageOutOfRange (stage : String) (percent : Float)
  | missingFlagKey
  deriving DecidableEq

/-- The text of a violation. -/
def Violation.message : Violation → String
  | .missingExperimentId => "experiment ID is required"
  | .missingExperimentName => "experiment name is required"
  | .tooFewVariants count => s!"experiment must have at least 2 variants, got {count}"
  | .negativeWeight variant => s!"variant {variant} has a negative weight"
  | .zeroTotalWeight => "total variant weight must be greater than 0"
  | .trafficOutOfRange percent =>
    s!"traffic percent must be between 0 and 100, got {Decimal.display percent}"
  | .multipleControls count => s!"at most one variant can be the control, got {count}"
  | .duplicateVariant variant => s!"variant IDs must be unique, {variant} is repeated"
  | .initialStatus status => s!"new experiments must be draft or scheduled, got {status.name}"
  | .missingSegmentId => "segment ID is required"
  | .missingStrategyId => "rollout strategy ID is required"
  | .noStages strategy => s!"rollout strategy {strategy} has no stages"
  | .stageOutOfRange stage percent =>
    s!"stage {stage} percentage must be between 0 and 100, got {Decimal.display percent}"
  | .missingFlagKey => "flag key is required"

/-- The kinds of things an engine keeps. -/
inductive Entity where
  | experiment
  | variant
  | segment
  | rolloutStrategy
  | flag
  deriving DecidableEq, Repr

/-- The name of a kind. -/
def Entity.name : Entity → String
  | .experiment => "experiment"
  | .variant => "variant"
  | .segment => "segment"
  | .rolloutStrategy => "rollout strategy"
  | .flag => "flag"

/-- What is done to an experiment that its status may forbid. -/
inductive Attempt where
  | schedule
  | start
  | pause
  | resume
  | stop
  | complete
  | archive
  | update
  deriving DecidableEq, Repr

/-- The word for an experiment it has been done to. -/
def Attempt.participle : Attempt → String
  | .schedule => "scheduled"
  | .start => "started"
  | .pause => "paused"
  | .resume => "resumed"
  | .stop => "stopped"
  | .complete => "completed"
  | .archive => "archived"
  | .update => "updated"

/-- The parts of an experiment that decide assignments, and so cannot change while it is live. -/
inductive FrozenField where
  | variants
  | trafficPercent
  | targetingRules
  | segments
  | flagKey
  deriving DecidableEq, Repr

/-- The name of a frozen part. -/
def FrozenField.name : FrozenField → String
  | .variants => "variants"
  | .trafficPercent => "traffic_percent"
  | .targetingRules => "targeting_rules"
  | .segments => "user_segments"
  | .flagKey => "flag_key"

/-- Why an operation was refused. -/
inductive Failure where
  /-- a definition was rejected -/
  | invalid (violation : Violation)
  /-- there is nothing with the id -/
  | notFound (entity : Entity) (id : String)
  /-- there is something with the id already -/
  | alreadyExists (entity : Entity) (id : String)
  /-- the status of the experiment does not allow it -/
  | wrongStatus (id : String) (status : Status) (attempt : Attempt)
  /-- the experiment is live -/
  | frozen (id : String) (field : FrozenField)
  deriving DecidableEq

/-- The text of a failure. -/
def Failure.message : Failure → String
  | .invalid violation => s!"validation failed: {violation.message}"
  | .notFound entity id => s!"{entity.name} not found: {id}"
  | .alreadyExists entity id => s!"{entity.name} already exists: {id}"
  | .wrongStatus id status attempt =>
    s!"experiment {id} cannot be {attempt.participle} from status {status.name}"
  | .frozen id field => s!"experiment {id} is running, {field.name} cannot be changed"

/-- A share in percent. A double that is no number is none. -/
def isPercentage (x : Float) : Bool := 0.0 ≤ x && x ≤ 100.0

/-- Every definition without a violation passes. -/
def check (violation : Option Violation) : Except Failure Unit :=
  match violation with
  | some violation => .error (.invalid violation)
  | none => .ok ()

end FeatureTrials
