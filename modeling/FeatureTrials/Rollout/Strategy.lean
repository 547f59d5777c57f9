import FeatureTrials.Failure
import FeatureTrials.Json.Decode
import FeatureTrials.Json.Shape
import FeatureTrials.Json.Table
import FeatureTrials.Time.Format

/-!
# Rollout strategies

A strategy gives a flag to more and more users, stage by stage, while safety checks watch over the
metrics of the service.
-/

namespace FeatureTrials

/-- How a strategy spreads. -/
inductive RolloutKind where
  | percentage
  | canary
  | blueGreen
  | ring
  | geographic
  | scheduled
  deriving DecidableEq, Repr

namespace RolloutKind

/-- The name of a kind. -/
def name : RolloutKind → String
  | .percentage => "percentage"
  | .canary => "canary"
  | .blueGreen => "blue_green"
  | .ring => "ring"
  | .geographic => "geographic"
  | .scheduled => "scheduled"

/-- The kind of a name. -/
def ofName? : String → Option RolloutKind
  | "percentage" => some .percentage
  | "canary" => some .canary
  | "blue_green" => some .blueGreen
  | "ring" => some .ring
  | "geographic" => some .geographic
  | "scheduled" => some .scheduled
  | _ => none

theorem ofName?_name (kind : RolloutKind) : ofName? kind.name = some kind := by
  cases kind <;> rfl

end RolloutKind

/-- One stage of a strategy. -/
structure Stage where
  id : String
  name : String := ""
  /-- the share of the users, from 0 to 100, that get the flag while the stage is active -/
  percentage : Float
  /-- how long the stage runs before it completes on its own; it never does when this is zero -/
  duration : Span := ⟨0⟩
  successCriteria : List String := []
  failureCriteria : List String := []
  autoAdvance : Bool := false

/-- How a metric is compared with a threshold. -/
inductive Comparison where
  | lessThan
  | lessThanOrEqual
  | greaterThan
  | greaterThanOrEqual
  | equal
  | notEqual
  deriving DecidableEq, Repr

namespace Comparison

/-- A value compares with a threshold as asked. -/
def holds (comparison : Comparison) (value threshold : Float) : Bool :=
  match comparison with
  | .lessThan => value < threshold
  | .lessThanOrEqual => value ≤ threshold
  | .greaterThan => value > threshold
  | .greaterThanOrEqual => value ≥ threshold
  | .equal => value == threshold
  | .notEqual => value != threshold

/-- The sign a comparison is written as. -/
def name : Comparison → String
  | .lessThan => "<"
  | .lessThanOrEqual => "<="
  | .greaterThan => ">"
  | .greaterThanOrEqual => ">="
  | .equal => "=="
  | .notEqual => "!="

/-- The comparison of a sign or a name. -/
def ofName? : String → Option Comparison
  | "<" | "lt" | "less_than" => some .lessThan
  | "<=" | "lte" | "less_than_or_equal" => some .lessThanOrEqual
  | ">" | "gt" | "greater_than" => some .greaterThan
  | ">=" | "gte" | "greater_than_or_equal" => some .greaterThanOrEqual
  | "==" | "eq" | "equals" => some .equal
  | "!=" | "ne" | "not_equals" => some .notEqual
  | _ => none

theorem ofName?_name (comparison : Comparison) : ofName? comparison.name = some comparison := by
  cases comparison <;> rfl

end Comparison

/-- What happens when a safety check fails. -/
inductive SafetyAction where
  | alert
  | pause
  | rollback
  deriving DecidableEq, Repr

namespace SafetyAction

/-- The rank of an action among the others. -/
def severity : SafetyAction → Nat
  | .alert => 0
  | .pause => 1
  | .rollback => 2

/-- The more severe of two actions. -/
def max (a b : SafetyAction) : SafetyAction := if a.severity ≤ b.severity then b else a

/-- The name of an action. -/
def name : SafetyAction → String
  | .alert => "alert"
  | .pause => "pause"
  | .rollback => "rollback"

/-- The action of a name. -/
def ofName? : String → Option SafetyAction
  | "alert" => some .alert
  | "pause" => some .pause
  | "rollback" => some .rollback
  | _ => none

theorem ofName?_name (action : SafetyAction) : ofName? action.name = some action := by
  cases action <;> rfl

end SafetyAction

/-- A condition on a metric that passes as long as the comparison holds. -/
structure SafetyCheck where
  kind : String := ""
  metric : String
  threshold : Float
  operator : Comparison
  /-- the time over which the metric is aggregated -/
  window : Span := ⟨0⟩
  action : SafetyAction

/-- When and how a strategy is rolled back. -/
structure RollbackPolicy where
  kind : String := ""
  automatic : Bool := false
  triggers : List String := []

/-- A staged expansion of the users that get a flag. -/
structure Strategy where
  id : String
  name : String := ""
  kind : RolloutKind
  config : Table Json := .empty
  stages : List Stage
  safetyChecks : List SafetyCheck := []
  rollback : RollbackPolicy := {}

namespace Stage

/-- A stage named by its id. -/
def named (id : String) (percentage : Float) (duration : Span) (autoAdvance : Bool) : Stage :=
  { id, name := id, percentage, duration, autoAdvance }

/-- When the stage, begun at an instant, has completed on its own, if it has by now. -/
def elapsedBy (stage : Stage) (startedAt now : Instant) : Option Instant :=
  if !stage.autoAdvance || stage.duration.isZero then none
  else (startedAt.add? stage.duration).filter (· ≤ now)

/-- The fields that are read. -/
def shape : Json.Shape :=
  .ofFields
    ["id", "name", "percentage", "duration", "success_criteria", "failure_criteria",
      "auto_advance"] []

/-- Reads a stage. -/
def ofJson? (j : Json) : Option Stage := do
  let fields ← j.fields?
  let id ← fields.required "id" Json.text?
  let name ← fields.orElse "name" Json.text? ""
  let percentage ← fields.required "percentage" Json.number?
  let duration ← fields.orElse "duration" Span.ofJson? ⟨0⟩
  let successCriteria ← fields.orElse "success_criteria" Json.texts? []
  let failureCriteria ← fields.orElse "failure_criteria" Json.texts? []
  let autoAdvance ← fields.orElse "auto_advance" Json.bool? false
  some { id, name, percentage, duration, successCriteria, failureCriteria, autoAdvance }

/-- Writes a stage. -/
def toJson (stage : Stage) : Json :=
  .obj [("id", .str stage.id),
    ("name", .str stage.name),
    ("percentage", .ofFloat stage.percentage),
    ("duration", stage.duration.toJson),
    ("success_criteria", .ofTexts stage.successCriteria),
    ("failure_criteria", .ofTexts stage.failureCriteria),
    ("auto_advance", .bool stage.autoAdvance)]

end Stage

namespace SafetyCheck

/-- The fields that are read. -/
def shape : Json.Shape :=
  .ofFields ["type", "metric", "threshold", "operator", "window", "action"] []

/-- Reads a check. -/
def ofJson? (j : Json) : Option SafetyCheck := do
  let fields ← j.fields?
  let kind ← fields.orElse "type" Json.text? ""
  let metric ← fields.required "metric" Json.text?
  let threshold ← fields.required "threshold" Json.number?
  let operator ← fields.required "operator" fun j => j.word?.bind Comparison.ofName?
  let window ← fields.orElse "window" Span.ofJson? ⟨0⟩
  let action ← fields.required "action" fun j => j.word?.bind SafetyAction.ofName?
  some { kind, metric, threshold, operator, window, action }

/-- Writes a check. -/
def toJson (check : SafetyCheck) : Json :=
  .obj [("type", .str check.kind),
    ("metric", .str check.metric),
    ("threshold", .ofFloat check.threshold),
    ("operator", .str check.operator.name),
    ("window", check.window.toJson),
    ("action", .str check.action.name)]

end SafetyCheck

namespace RollbackPolicy

/-- The fields that are read. -/
def shape : Json.Shape := .ofFields ["type", "automatic", "triggers"] []

/-- Reads a policy. -/
def ofJson? (j : Json) : Option RollbackPolicy := do
  let fields ← j.fields?
  let kind ← fields.orElse "type" Json.text? ""
  let automatic ← fields.orElse "automatic" Json.bool? false
  let triggers ← fields.orElse "triggers" Json.texts? []
  some { kind, automatic, triggers }

/-- Writes a policy. -/
def toJson (policy : RollbackPolicy) : Json :=
  .obj [("type", .str policy.kind),
    ("automatic", .bool policy.automatic),
    ("triggers", .ofTexts policy.triggers)]

end RollbackPolicy

namespace Strategy

/-- A strategy named by its id, without safety checks. -/
def named (id : String) (kind : RolloutKind) (stages : List Stage) : Strategy :=
  { id, name := id, kind, stages }

/-- The first constraint the definition violates. -/
def violation? (strategy : Strategy) : Option Violation :=
  if strategy.id = "" then some .missingStrategyId
  else if strategy.stages.isEmpty then some (.noStages strategy.id)
  else (strategy.stages.find? fun stage => !isPercentage stage.percentage).map fun stage =>
    .stageOutOfRange stage.id stage.percentage

/-- The fields that are read. -/
def shape : Json.Shape :=
  .ofFields ["id", "name", "type", "config"]
    [("stages", .list Stage.shape),
      ("safety_checks", .list SafetyCheck.shape),
      ("rollback_strategy", RollbackPolicy.shape)]

/-- Reads a strategy. -/
def ofJson? (j : Json) : Option Strategy := do
  let fields ← j.fields?
  let id ← fields.required "id" Json.text?
  let name ← fields.orElse "name" Json.text? ""
  let kind ← fields.required "type" fun j => j.word?.bind RolloutKind.ofName?
  let config ← fields.orElse "config" (Json.table? fun j => some j.canonical) .empty
  let stages ← fields.required "stages" (Json.list? Stage.ofJson?)
  let safetyChecks ← fields.orElse "safety_checks" (Json.list? SafetyCheck.ofJson?) []
  let rollback ← fields.orElse "rollback_strategy" RollbackPolicy.ofJson? {}
  some { id, name, kind, config, stages, safetyChecks, rollback }

/-- Writes a strategy. -/
def toJson (strategy : Strategy) : Json :=
  .obj [("id", .str strategy.id),
    ("name", .str strategy.name),
    ("type", .str strategy.kind.name),
    ("config", .ofTable (fun j => j) strategy.config),
    ("stages", .ofList Stage.toJson strategy.stages),
    ("safety_checks", .ofList SafetyCheck.toJson strategy.safetyChecks),
    ("rollback_strategy", strategy.rollback.toJson)]

end Strategy

end FeatureTrials
