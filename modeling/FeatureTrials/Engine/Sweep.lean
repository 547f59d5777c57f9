import FeatureTrials.Engine.Definitions
import FeatureTrials.Engine.Rollouts

/-!
# Sweeps

What an engine does on its own from time to time, given the reading of the clock.

* `Engine.monitorExperiments` — starts scheduled experiments that are due, completes those whose end
  has come, refreshes the results of the others, and stops those whose results are clear.
* `Engine.monitorRollouts` — commits elapsed stages and acts on failed safety checks.
* `Engine.processAnalytics`, `Engine.cleanupAnalytics` — take totals and drop old events.
-/

namespace FeatureTrials

/-! ## Experiments -/

/-- The experiments a sweep started and completed, by id. -/
structure ExperimentSweep where
  started : List String := []
  completed : List String := []
  deriving DecidableEq, Repr

namespace Experiment

/-- The end has come. -/
def isExpired (experiment : Experiment) (now : Instant) : Bool :=
  match experiment.endTime with
  | some stop => stop ≤ now
  | none => false

/-- The time to start has come. -/
def isDue (experiment : Experiment) (now : Instant) : Bool :=
  match experiment.startTime with
  | some start => start ≤ now
  | none => true

end Experiment

namespace Engine

/-- Interim results are clear enough to stop. -/
def isConclusive (engine : Engine) (results : Results) : Bool :=
  results.significant && results.confidence ≥ engine.config.significance

/-- The ids of the scheduled experiments whose time to start has come. -/
def dueIds (engine : Engine) (now : Instant) : List String :=
  (engine.experiments.values.filter fun e => e.status = .scheduled && e.isDue now).map (·.id)

/-- The live experiments as they stand. -/
def liveExperiments (engine : Engine) : List Experiment :=
  engine.experiments.values.filter (·.isLive)

/-- Keeps interim results for an experiment that is still running. -/
def keepResults (engine : Engine) (id : String) (results : Results) : Engine :=
  match (engine.experiments.get? id).filter (·.isRunning) with
  | some current =>
    { engine with
      experiments := engine.experiments.insert id { current with results := some results } }
  | none => engine

end Engine

namespace ExperimentSweep

/-- Starts an experiment that is due. -/
def startDue (now : Instant) (soFar : Outcome ExperimentSweep) (id : String) :
    Outcome ExperimentSweep :=
  match soFar.engine.moveExperiment id .start now with
  | .ok moved =>
    { engine := moved.engine
      answer := { soFar.answer with started := soFar.answer.started ++ [id] }
      notices := soFar.notices ++ moved.notices }
  | .error failure => { soFar with notices := soFar.notices ++ [.startFailed id failure] }

/-- Completes a live experiment by a move. -/
def complete (now : Instant) (soFar : Outcome ExperimentSweep) (id : String) (move : Move) :
    Outcome ExperimentSweep :=
  match soFar.engine.moveExperiment id move now with
  | .ok moved =>
    { engine := moved.engine
      answer := { soFar.answer with completed := soFar.answer.completed ++ [id] }
      notices := soFar.notices ++ moved.notices }
  | .error failure => { soFar with notices := soFar.notices ++ [.completionFailed id failure] }

/-- Looks after an experiment that was live when the sweep began: it is completed when its end has
come; else, if it is running, its interim results are kept, and when they are clear it is
stopped. -/
def review (now : Instant) (soFar : Outcome ExperimentSweep) (experiment : Experiment) :
    Outcome ExperimentSweep :=
  if experiment.isExpired now then complete now soFar experiment.id .expire
  else if experiment.isRunning then
    let results := soFar.engine.compare experiment now
    let kept := { soFar with engine := soFar.engine.keepResults experiment.id results }
    if soFar.engine.isConclusive results then
      complete now { kept with notices := kept.notices ++ [.significanceReached experiment.id] }
        experiment.id .stop
    else kept
  else soFar

end ExperimentSweep

namespace Engine

/-- Moves all experiments along that have to be, as long as experimentation is on. Which ones are
due and which ones are live is read off before the first of them is moved. -/
def monitorExperiments (engine : Engine) (now : Instant) : Outcome ExperimentSweep :=
  if engine.config.experimentationEnabled then
    let started :=
      (engine.dueIds now).foldl (ExperimentSweep.startDue now) { engine, answer := {} }
    let swept := engine.liveExperiments.foldl (ExperimentSweep.review now) started
    { swept with
      notices :=
        swept.notices ++
          [.experimentsSwept swept.answer.started.length swept.answer.completed.length] }
  else { engine, answer := {} }

end Engine

/-! ## Rollouts -/

/-- What a sweep does with a rollout. -/
structure RolloutStep where
  progress : Progress
  /-- the stage that has become active on its own -/
  advancedTo : Option String
  /-- the safety checks that failed -/
  failed : List FailedCheck
  /-- the action taken because of them -/
  action : Option SafetyAction

/-- The rollouts a sweep moved on, each with its new stage, and those it paused and rolled back. -/
structure RolloutSweep where
  advanced : List (String × String) := []
  paused : List String := []
  rolledBack : List String := []
  deriving DecidableEq, Repr

namespace Rollout

/-- Neither paused nor rolled back. -/
def isActive (rollout : Rollout) : Bool :=
  !rollout.progress.paused && !rollout.progress.rolledBack

/-- What a sweep does with a rollout: only the checks of an active one are looked at. -/
def step (rollout : Rollout) (metrics : Metrics) (now : Instant) : RolloutStep :=
  let ticked := rollout.progress.tick rollout.strategy now
  let failed := if rollout.isActive then rollout.strategy.failedChecks metrics else []
  let action := FailedCheck.worst? failed
  { progress := match action with
      | some action => ticked.apply action rollout.strategy now
      | none => ticked
    advancedTo :=
      if rollout.progress.moves rollout.strategy now then
        rollout.strategy.stages[ticked.stageIndex]?.map (·.id)
      else none
    failed
    action }

end Rollout

namespace RolloutStep

/-- What operators are told. -/
def notices (step : RolloutStep) (id : String) : List Notice :=
  step.failed.map (.checkFailed id)
    ++ (match step.advancedTo with
      | some stage => [.rolloutAdvanced id stage]
      | none => [])
    ++ match step.action with
      | some .pause => [.rolloutPausedByCheck id]
      | some .rollback => [.rolloutRolledBackByCheck id]
      | _ => []

end RolloutStep

namespace Engine

/-- Commits the elapsed stages of all rollouts and acts on their safety checks. -/
def monitorRollouts (engine : Engine) (metrics : Metrics) (now : Instant) :
    Outcome RolloutSweep :=
  let steps := engine.rollouts.map fun _ rollout => (rollout, rollout.step metrics now)
  let idsWith (action : SafetyAction) :=
    (steps.entries.filter fun (_, _, step) => step.action = some action).map (·.1)
  { engine :=
      { engine with
        rollouts := steps.map fun _ (rollout, step) => { rollout with progress := step.progress } }
    answer :=
      { advanced := steps.entries.filterMap fun (id, _, step) => step.advancedTo.map (id, ·)
        paused := idsWith .pause
        rolledBack := idsWith .rollback }
    notices := steps.entries.flatMap fun (id, _, step) => step.notices id }

/-! ## Analytics -/

/-- Takes the totals of the recorded events. -/
def processAnalytics (engine : Engine) (now : Instant) : Outcome Totals :=
  let analytics := engine.analytics.process now
  { engine := { engine with analytics }
    answer := analytics.totals
    notices := engine.analytics.processNotices now }

/-- Drops the events that have outlived the retention; the answer is their number. -/
def cleanupAnalytics (engine : Engine) (now : Instant) : Outcome Nat :=
  { engine := { engine with analytics := engine.analytics.cleanup now }
    answer := engine.analytics.expired now
    notices := engine.analytics.cleanupNotices now }

end Engine

end FeatureTrials
