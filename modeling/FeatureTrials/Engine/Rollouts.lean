import FeatureTrials.Engine.State

/-!
# Managing rollouts

Registering strategies, and moving their rollouts by hand.
-/

namespace FeatureTrials.Engine

/-- Registers a strategy, in place of one with its id. Its rollout begins at the first stage. -/
def registerStrategy (engine : Engine) (strategy : Strategy) (now : Instant) :
    Except Failure (Outcome Unit) := do
  check strategy.violation?
  let rollout : Rollout := ⟨strategy, .start now⟩
  return { engine := { engine with rollouts := engine.rollouts.insert strategy.id rollout }
           answer := ()
           notices := [.strategyRegistered strategy.id strategy.stages.length] }

/-- The rollout with an id. -/
def rollout (engine : Engine) (id : String) : Except Failure Rollout :=
  find engine.rollouts .rolloutStrategy id

/-- The active stage of a rollout. Registered strategies have stages, so there is one. -/
def activeStage (engine : Engine) (id : String) (now : Instant) : Except Failure Stage := do
  let rollout ← engine.rollout id
  match rollout.progress.activeStage? rollout.strategy now with
  | some stage => return stage
  | none => throw (.invalid (.noStages id))

/-- The active stage of a rollout reaches a user. -/
def reaches (engine : Engine) (id : String) (user : User) (now : Instant) :
    Except Failure Bool := do
  let rollout ← engine.rollout id
  return rollout.progress.reaches rollout.strategy user now

/-- The engine with another progress of a rollout. -/
def withProgress (engine : Engine) (id : String) (rollout : Rollout) (progress : Progress) :
    Engine :=
  { engine with rollouts := engine.rollouts.insert id { rollout with progress } }

/-- Completes the active stage by hand; the answer is the stage that is active afterwards. -/
def advanceRollout (engine : Engine) (id : String) (now : Instant) :
    Except Failure (Outcome Stage) := do
  let rollout ← engine.rollout id
  let progress := rollout.progress.advance rollout.strategy now
  match rollout.strategy.stages[progress.stageIndex]? with
  | some stage =>
    return { engine := engine.withProgress id rollout progress
             answer := stage
             notices :=
               if rollout.progress.advances rollout.strategy now then
                 [.rolloutAdvanced id stage.id]
               else [] }
  | none => throw (.invalid (.noStages id))

/-- Freezes the active stage of a rollout. -/
def pauseRollout (engine : Engine) (id : String) (now : Instant) :
    Except Failure (Outcome Unit) := do
  let rollout ← engine.rollout id
  return { engine := engine.withProgress id rollout (rollout.progress.pause rollout.strategy now)
           answer := ()
           notices := [.rolloutPaused id] }

/-- Lifts the pause of a rollout. -/
def resumeRollout (engine : Engine) (id : String) (now : Instant) :
    Except Failure (Outcome Unit) := do
  let rollout ← engine.rollout id
  return { engine := engine.withProgress id rollout (rollout.progress.resume now)
           answer := ()
           notices := [.rolloutResumed id] }

/-- Takes the flags of a rollout away from everybody. -/
def rollBack (engine : Engine) (id : String) (now : Instant) :
    Except Failure (Outcome Unit) := do
  let rollout ← engine.rollout id
  return { engine :=
             engine.withProgress id rollout (rollout.progress.rollback rollout.strategy now)
           answer := ()
           notices := [.rolloutRolledBack id] }

end FeatureTrials.Engine
