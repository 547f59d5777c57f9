import FeatureTrials.Engine.State

/-!
# Managing definitions

Flags, segments and experiments: registering, changing, moving and removing them.
-/

namespace FeatureTrials.Engine

/-! ## Flags -/

/-- Registers a flag, in place of one with its key. -/
def upsertFlag (engine : Engine) (flag : Flag) : Except Failure (Outcome Unit) := do
  check flag.violation?
  return { engine := { engine with flags := engine.flags.insert flag.key flag }, answer := () }

/-- The flag with a key. -/
def flag? (engine : Engine) (key : String) : Option Flag := engine.flags.get? key

/-- Removes a flag. -/
def deleteFlag (engine : Engine) (key : String) : Except Failure (Outcome Flag) := do
  let flag ← find engine.flags .flag key
  return { engine := { engine with flags := engine.flags.erase key }, answer := flag }

/-! ## Segments -/

/-- Registers a segment under a free id. -/
def createSegment (engine : Engine) (segment : Segment) : Except Failure (Outcome Unit) := do
  check segment.violation?
  requireFree engine.segments .segment segment.id
  return { engine := { engine with segments := engine.segments.insert segment.id segment }
           answer := ()
           notices := [.segmentCreated segment.id] }

/-- The segment with an id. -/
def segment (engine : Engine) (id : String) : Except Failure Segment :=
  find engine.segments .segment id

/-- Removes a segment. Experiments that list it no longer let anybody in by it. -/
def deleteSegment (engine : Engine) (id : String) : Except Failure (Outcome Segment) := do
  let segment ← engine.segment id
  return { engine := { engine with segments := engine.segments.erase id }
           answer := segment
           notices := [.segmentDeleted id] }

/-- A user is in a segment. -/
def isMember (engine : Engine) (id : String) (user : User) : Except Failure Bool := do
  let segment ← engine.segment id
  return segment.contains user

/-! ## Experiments -/

/-- A draft with the configured defaults. -/
def draft (engine : Engine) (id name : String) (variants : List Variant) : Experiment :=
  let defaults := engine.config.experimentDefaults
  { id, name, variants
    duration := some defaults.duration
    trafficPercent := defaults.trafficPercent }

/-- New experiments are drafts or scheduled. -/
def initialStatusViolation? (status : Status) : Option Violation :=
  if status = .draft ∨ status = .scheduled then none else some (.initialStatus status)

/-- Registers an experiment under a free id. -/
def createExperiment (engine : Engine) (experiment : Experiment) :
    Except Failure (Outcome Unit) := do
  check experiment.violation?
  check (initialStatusViolation? experiment.status)
  requireFree engine.experiments .experiment experiment.id
  let fresh := { experiment with results := some .initial }
  return { engine := { engine with experiments := engine.experiments.insert fresh.id fresh }
           answer := ()
           notices := [.experimentCreated fresh.id fresh.variants.length fresh.trafficPercent] }

/-- The experiment with an id. -/
def experiment (engine : Engine) (id : String) : Except Failure Experiment :=
  find engine.experiments .experiment id

/-- Changes the definition of an experiment. -/
def updateExperiment (engine : Engine) (update : Experiment) :
    Except Failure (Outcome Unit) := do
  let current ← engine.experiment update.id
  let changed ← current.updated update
  return { engine := { engine with experiments := engine.experiments.insert update.id changed }
           answer := ()
           notices := [.experimentMoved update.id .update] }

/-- The results of an experiment from the events that are recorded now. -/
def compare (engine : Engine) (experiment : Experiment) (now : Instant) : Results :=
  experiment.compare (engine.analytics.log.samples experiment.id) engine.config.significance
    engine.config.minSampleSize now

/-- The results of the experiment with an id, without keeping them. -/
def experimentResults (engine : Engine) (id : String) (now : Instant) :
    Except Failure Results := do
  let experiment ← engine.experiment id
  return engine.compare experiment now

/-- Moves an experiment along its lifecycle. -/
def moveExperiment (engine : Engine) (id : String) (move : Move) (now : Instant) :
    Except Failure (Outcome Unit) := do
  let experiment ← engine.experiment id
  if move.allowedFrom experiment.status then
    let moved := experiment.moved move (engine.compare · now) now
    return { engine := { engine with experiments := engine.experiments.insert id moved }
             answer := ()
             notices := [.experimentMoved id move.attempt] }
  else
    throw (.wrongStatus id experiment.status move.attempt)

end FeatureTrials.Engine
