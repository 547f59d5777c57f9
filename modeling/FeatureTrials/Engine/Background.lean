import FeatureTrials.Engine.Operation
import FeatureTrials.Scheduler

/-!
# Background work

An engine's sweeps as jobs of a scheduler, and what becomes of the engine while the jobs run for a
time. Of jobs that are due at the same instant the one registered first runs first.
-/

namespace FeatureTrials

/-- The operation that a background job performs. -/
def JobName.operation (metrics : Metrics) : JobName → Operation
  | .experimentMonitor => .monitorExperiments
  | .analyticsProcessing => .processAnalytics
  | .rolloutMonitor => .monitorRollouts metrics
  | .dataCleanup => .cleanupAnalytics

namespace Engine

/-- The background jobs of an engine in the order of their registration. -/
def jobNames (engine : Engine) : List JobName :=
  (if engine.config.experimentationEnabled then [.experimentMonitor] else [])
    ++ (if engine.config.analyticsEnabled then [.analyticsProcessing, .dataCleanup] else [])
    ++ [.rolloutMonitor]

/-- A scheduler with the background jobs. -/
def scheduler (engine : Engine) : Scheduler :=
  engine.jobNames.foldl
    (fun s job => s.register job.text (engine.config.intervals.of job) false) .new

/-- The runs of the background jobs within a time, in the order of time, in nanoseconds since the
beginning. -/
def backgroundRuns (engine : Engine) (time : Span) : List (Nat × JobName) :=
  let runs := engine.scheduler.start.runs time
  let timed := (runs.zip engine.jobNames).flatMap fun (times, job) => times.map (·, job)
  timed.mergeSort fun a b => a.1 ≤ b.1

/-- What the background jobs do within a time, each at its reading of the clock. -/
def backgroundOperations (engine : Engine) (metrics : Metrics) (time : Span) (now : Instant) :
    List (Instant × Operation) :=
  (engine.backgroundRuns time).map fun (nanos, job) =>
    (now.later ⟨nanos⟩, job.operation metrics)

/-- Starts the background jobs, lets a time pass, and shuts them down. -/
def background (engine : Engine) (metrics : Metrics) (time : Span) (now : Instant) :
    Outcome Unit :=
  let idle := engine.scheduler
  let started := { Outcome.start engine with notices := idle.startNotices }
  let swept := started.andThenAll (engine.backgroundOperations metrics time now)
  { swept with notices := swept.notices ++ (idle.start.advance time).shutdownNotices }

end Engine

end FeatureTrials
