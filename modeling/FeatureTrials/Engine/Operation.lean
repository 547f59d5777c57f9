import FeatureTrials.Engine.Evaluation
import FeatureTrials.Engine.Sweep

/-!
# Operations

All operations that can change an engine as values, so that whole runs can be spoken about. An
operation that is refused leaves the engine as it was.

* `Engine.perform` — what an operation does, or why it is refused.
* `Engine.step`, `Engine.run` — the engine after one operation and after several.
* `Outcome.andThen`, `Outcome.andThenAll` — the same with everything that operators and the metrics
  are told on the way.
-/

namespace FeatureTrials

/-- An operation that can change an engine. -/
inductive Operation where
  | upsertFlag (flag : Flag)
  | deleteFlag (key : String)
  | createSegment (segment : Segment)
  | deleteSegment (id : String)
  | createExperiment (experiment : Experiment)
  | updateExperiment (update : Experiment)
  | scheduleExperiment (id : String) (startTime : Instant)
  | startExperiment (id : String)
  | pauseExperiment (id : String)
  | resumeExperiment (id : String)
  | stopExperiment (id : String)
  | archiveExperiment (id : String)
  | registerStrategy (strategy : Strategy)
  | advanceRollout (id : String)
  | pauseRollout (id : String)
  | resumeRollout (id : String)
  | rollBack (id : String)
  | evaluate (flagKey : String) (user : User) (default : FlagValue)
  | recordConversion (experimentId variantId user kind : String) (value : Float)
  | monitorExperiments
  | monitorRollouts (metrics : Metrics)
  | processAnalytics
  | cleanupAnalytics

/-- The answer to an operation. -/
inductive Answer where
  | done
  | flag (flag : Flag)
  | segment (segment : Segment)
  | stage (stage : Stage)
  | detail (detail : Detail FlagValue)
  | experimentSweep (sweep : ExperimentSweep)
  | rolloutSweep (sweep : RolloutSweep)
  | totals (totals : Totals)
  | removed (count : Nat)

namespace Outcome

/-- The outcome with another form of its answer. -/
def map {α β : Type} (f : α → β) (outcome : Outcome α) : Outcome β :=
  { engine := outcome.engine
    answer := f outcome.answer
    notices := outcome.notices
    signals := outcome.signals }

/-- An engine to which nothing has happened yet. -/
def start (engine : Engine) : Outcome Unit := { engine, answer := () }

/-- The outcome followed by another one, what operators and the metrics are told added up. -/
def followedBy {α β : Type} (first : Outcome α) (second : Outcome β) : Outcome α :=
  { engine := second.engine
    answer := first.answer
    notices := first.notices ++ second.notices
    signals := first.signals ++ second.signals }

end Outcome

namespace Engine

/-- Performs an operation at a reading of the clock. -/
def perform (engine : Engine) (now : Instant) : Operation → Except Failure (Outcome Answer)
  | .upsertFlag flag => (engine.upsertFlag flag).map (·.map fun _ => .done)
  | .deleteFlag key => (engine.deleteFlag key).map (·.map .flag)
  | .createSegment segment => (engine.createSegment segment).map (·.map fun _ => .done)
  | .deleteSegment id => (engine.deleteSegment id).map (·.map .segment)
  | .createExperiment e => (engine.createExperiment e).map (·.map fun _ => .done)
  | .updateExperiment e => (engine.updateExperiment e).map (·.map fun _ => .done)
  | .scheduleExperiment id startTime =>
    (engine.moveExperiment id (.schedule startTime) now).map (·.map fun _ => .done)
  | .startExperiment id => (engine.moveExperiment id .start now).map (·.map fun _ => .done)
  | .pauseExperiment id => (engine.moveExperiment id .pause now).map (·.map fun _ => .done)
  | .resumeExperiment id => (engine.moveExperiment id .resume now).map (·.map fun _ => .done)
  | .stopExperiment id => (engine.moveExperiment id .stop now).map (·.map fun _ => .done)
  | .archiveExperiment id => (engine.moveExperiment id .archive now).map (·.map fun _ => .done)
  | .registerStrategy s => (engine.registerStrategy s now).map (·.map fun _ => .done)
  | .advanceRollout id => (engine.advanceRollout id now).map (·.map .stage)
  | .pauseRollout id => (engine.pauseRollout id now).map (·.map fun _ => .done)
  | .resumeRollout id => (engine.resumeRollout id now).map (·.map fun _ => .done)
  | .rollBack id => (engine.rollBack id now).map (·.map fun _ => .done)
  | .evaluate flagKey user default =>
    .ok ((engine.evaluate flagKey user default now).map .detail)
  | .recordConversion experimentId variantId user kind value =>
    (engine.recordConversion experimentId variantId user kind value now).map
      (·.map fun _ => .done)
  | .monitorExperiments => .ok ((engine.monitorExperiments now).map .experimentSweep)
  | .monitorRollouts metrics => .ok ((engine.monitorRollouts metrics now).map .rolloutSweep)
  | .processAnalytics => .ok ((engine.processAnalytics now).map .totals)
  | .cleanupAnalytics => .ok ((engine.cleanupAnalytics now).map .removed)

/-- The engine after an operation, whether it was refused or not. -/
def step (engine : Engine) (now : Instant) (operation : Operation) : Engine :=
  match engine.perform now operation with
  | .ok outcome => outcome.engine
  | .error _ => engine

/-- The engine after a run of operations, each at its reading of the clock. -/
def run (engine : Engine) (operations : List (Instant × Operation)) : Engine :=
  operations.foldl (fun engine (now, operation) => engine.step now operation) engine

end Engine

namespace Outcome

/-- Performs one more operation. A refused one adds nothing. -/
def andThen (soFar : Outcome Unit) (now : Instant) (operation : Operation) : Outcome Unit :=
  match soFar.engine.perform now operation with
  | .ok outcome => soFar.followedBy outcome
  | .error _ => soFar

/-- Performs a run of operations, each at its reading of the clock. -/
def andThenAll (soFar : Outcome Unit) (operations : List (Instant × Operation)) : Outcome Unit :=
  operations.foldl (fun soFar (now, operation) => soFar.andThen now operation) soFar

theorem engine_andThen (soFar : Outcome Unit) (now : Instant) (operation : Operation) :
    (soFar.andThen now operation).engine = soFar.engine.step now operation := by
  unfold andThen Engine.step
  split <;> rfl

/-- The outcome of a run has the engine of the run. -/
theorem engine_andThenAll (operations : List (Instant × Operation)) :
    ∀ soFar : Outcome Unit,
      (soFar.andThenAll operations).engine = soFar.engine.run operations := by
  induction operations with
  | nil => exact fun _ => rfl
  | cons operation rest ih =>
    intro soFar
    rw [andThenAll, List.foldl_cons, ← andThenAll, ih, engine_andThen]
    rfl

end Outcome

namespace Engine

theorem run_nil (engine : Engine) : engine.run [] = engine := rfl

theorem run_cons (engine : Engine) (now : Instant) (operation : Operation)
    (rest : List (Instant × Operation)) :
    engine.run ((now, operation) :: rest) = (engine.step now operation).run rest := rfl

theorem run_append (engine : Engine) (first second : List (Instant × Operation)) :
    engine.run (first ++ second) = (engine.run first).run second :=
  List.foldl_append

end Engine

end FeatureTrials
