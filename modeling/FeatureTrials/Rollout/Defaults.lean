import FeatureTrials.Rollout.Strategy

/-!
# Ready-made strategies

The strategies an engine starts with unless it is configured otherwise.
-/

namespace FeatureTrials.Strategy

/-- A stage with a name for people. -/
def titled (id title : String) (percentage : Float) (hours : Nat) (autoAdvance : Bool) : Stage :=
  { Stage.named id percentage (.ofHours hours) autoAdvance with name := title }

/-- Four growing shares of the users, watched by two checks. -/
def gradual : Strategy :=
  { id := "percentage_gradual"
    name := "Gradual Percentage Rollout"
    kind := .percentage
    stages :=
      [titled "stage1" "Initial" 5.0 24 true,
        titled "stage2" "Expand" 25.0 48 true,
        titled "stage3" "Majority" 75.0 72 true,
        titled "stage4" "Full" 100.0 0 false]
    safetyChecks :=
      [{ kind := "error_rate"
         metric := "error_rate"
         threshold := 5.0
         operator := .lessThan
         window := .ofHours 1
         action := .pause },
       { kind := "latency"
         metric := "p95_latency"
         threshold := 2000.0
         operator := .lessThan
         window := .ofMinutes 30
         action := .pause }]
    rollback :=
      { kind := "immediate"
        automatic := true
        triggers := ["safety_check_failure", "manual"] } }

/-- One user in a hundred until somebody says go. -/
def canary : Strategy :=
  { id := "canary_deployment"
    name := "Canary Deployment"
    kind := .canary
    stages :=
      [titled "canary" "Canary" 1.0 2 false,
        titled "production" "Production" 100.0 0 false] }

/-- Rings of users one after the other. -/
def rings : Strategy :=
  { id := "ring_deployment"
    name := "Ring-based Deployment"
    kind := .ring
    stages :=
      [titled "ring1" "Internal Users" 100.0 12 true,
        titled "ring2" "Beta Users" 100.0 24 true,
        titled "ring3" "All Users" 100.0 0 false] }

/-- The strategies an engine starts with. -/
def defaults : List Strategy := [gradual, canary, rings]

end FeatureTrials.Strategy
