import FeatureTrials.Rollout.Strategy

/-!
# Safety checks

A strategy's checks are held against observed metrics. A metric that is not known fails no check. A
failing check asks for its action, where a rollback that is not automatic is only a pause.
-/

namespace FeatureTrials

/-- The observed value of a metric of a strategy over a window, if it is known. -/
abbrev Metrics := (strategyId metric : String) → (window : Span) → Option Float

/-- A check that does not hold, and what has to be done about it. -/
structure FailedCheck where
  metric : String
  value : Float
  threshold : Float
  action : SafetyAction

namespace Strategy

/-- The action a failing check asks for. -/
def actionOf (strategy : Strategy) (check : SafetyCheck) : SafetyAction :=
  if check.action = .rollback ∧ !strategy.rollback.automatic then .pause else check.action

/-- What a check says about a metric. -/
def failure? (strategy : Strategy) (metrics : Metrics) (check : SafetyCheck) :
    Option FailedCheck :=
  match metrics strategy.id check.metric check.window with
  | none => none
  | some value =>
    if check.operator.holds value check.threshold then none
    else some ⟨check.metric, value, check.threshold, strategy.actionOf check⟩

/-- The checks that fail, in the order of the strategy. -/
def failedChecks (strategy : Strategy) (metrics : Metrics) : List FailedCheck :=
  strategy.safetyChecks.filterMap (strategy.failure? metrics)

/-- The metrics that are looked up for a strategy, in order. -/
def queries (strategy : Strategy) : List (String × String × Span) :=
  strategy.safetyChecks.map fun check => (strategy.id, check.metric, check.window)

end Strategy

/-- The most severe action that failed checks ask for. -/
def FailedCheck.worst? (failed : List FailedCheck) : Option SafetyAction :=
  failed.foldl
    (fun worst check => match worst with
      | some action => some (action.max check.action)
      | none => some check.action)
    none

end FeatureTrials
