import FeatureTrials.Proofs.Engine.Registries

/-!
# Operations in place

An operation that can be refused is a function from an engine to an outcome, so a refused one has no
engine to leave behind. A service does the same work on an engine it shares with others: it looks
something up, checks it, writes, checks more, and what it has written by the time it is refused
stays written. Here the operations are spelled out that way, write by write. On an engine in order
they come to the same (`Request.work_eq`): whatever is refused is refused before the first write
that tells.

* `Work` — work on an engine in place, whose writes outlast a refusal.
* `Request`, `Engine.respond` — everything that can be refused, and the answer to it.
* `Request.work` — the same in place.
-/

namespace FeatureTrials

/-! ## Work in place -/

/-- An engine that is being worked on, with what operators and the metrics have been told. -/
structure Service where
  engine : Engine
  notices : List Notice := []
  signals : List Signal := []

namespace Service

variable {α : Type}

/-- The service after an outcome. -/
def after (service : Service) (outcome : Outcome α) : Service :=
  { engine := outcome.engine
    notices := service.notices ++ outcome.notices
    signals := service.signals ++ outcome.signals }

/-- What becomes of a service when an answer is taken over as a whole: a refusal changes nothing. -/
def settle (service : Service) : Except Failure (Outcome α) → Except Failure α × Service
  | .ok outcome => (.ok outcome.answer, service.after outcome)
  | .error failure => (.error failure, service)

/-- The service with another experiment under an id. -/
def withExperiment (service : Service) (id : String) (e : Experiment) : Service :=
  { service with
    engine := service.engine.withExperiments (service.engine.experiments.insert id e) }

end Service

/-- Work on an engine in place. Also when it is refused it leaves a service behind, with all that
has been written until then. -/
def Work (α : Type) : Type := Service → Except Failure α × Service

namespace Work

variable {α β : Type}

/-- Leave everything as it is. -/
protected def pure (a : α) : Work α := fun service => (.ok a, service)

/-- Go on with what the first work has left, unless it was refused. -/
protected def bind (first : Work α) (next : α → Work β) : Work β := fun service =>
  match first service with
  | (.ok a, left) => next a left
  | (.error failure, left) => (.error failure, left)

instance : Monad Work where
  pure := Work.pure
  bind := Work.bind

/-- Give up. -/
def refuse (failure : Failure) : Work α := fun service => (.error failure, service)

/-- Give up unless a check passes. -/
def demand (checked : Except Failure α) : Work α := fun service => (checked, service)

/-- The engine as it is now. -/
def look : Work Engine := fun service => (.ok service.engine, service)

/-- Change the engine. -/
def write (change : Engine → Engine) : Work Unit := fun service =>
  (.ok (), { service with engine := change service.engine })

/-- Tell operators something. -/
def notify (notice : Notice) : Work Unit := fun service =>
  (.ok (), { service with notices := service.notices ++ [notice] })

/-- Report to the metrics. -/
def report (signal : Signal) : Work Unit := fun service =>
  (.ok (), { service with signals := service.signals ++ [signal] })

/-- Take over an outcome. -/
def accept (outcome : Engine → Outcome α) : Work α := fun service =>
  service.settle (.ok (outcome service.engine))

/-- Change a part of an experiment that is registered. -/
def edit (id : String) (change : Experiment → Experiment) : Work Unit := fun service =>
  match service.engine.experiments.get? id with
  | some e => (.ok (), service.withExperiment id (change e))
  | none => (.ok (), service)

@[simp] theorem pure_apply (a : α) (service : Service) :
    (pure a : Work α) service = (.ok a, service) := rfl

@[simp] theorem bind_apply (first : Work α) (next : α → Work β) (service : Service) :
    (first >>= next) service =
      match first service with
      | (.ok a, left) => next a left
      | (.error failure, left) => (.error failure, left) := rfl

@[simp] theorem refuse_apply (failure : Failure) (service : Service) :
    (refuse failure : Work α) service = (.error failure, service) := rfl

@[simp] theorem demand_apply (checked : Except Failure α) (service : Service) :
    demand checked service = (checked, service) := rfl

@[simp] theorem look_apply (service : Service) :
    look service = (.ok service.engine, service) := rfl

@[simp] theorem write_apply (change : Engine → Engine) (service : Service) :
    write change service = (.ok (), { service with engine := change service.engine }) := rfl

@[simp] theorem notify_apply (notice : Notice) (service : Service) :
    notify notice service =
      (.ok (), { service with notices := service.notices ++ [notice] }) := rfl

@[simp] theorem report_apply (signal : Signal) (service : Service) :
    report signal service =
      (.ok (), { service with signals := service.signals ++ [signal] }) := rfl

/-! ## Flags and segments -/

/-- Registers a flag. -/
def upsertFlag (flag : Flag) : Work Unit := do
  demand (check flag.violation?)
  write fun engine => { engine with flags := engine.flags.insert flag.key flag }

/-- Takes a flag out before it is known whether there was one. -/
def deleteFlag (key : String) : Work Flag := do
  let removed := (← look).flags.get? key
  write fun engine => { engine with flags := engine.flags.erase key }
  match removed with
  | some flag => return flag
  | none => refuse (.notFound .flag key)

/-- Registers a segment. -/
def createSegment (segment : Segment) : Work Unit := do
  demand (check segment.violation?)
  demand (Engine.requireFree (← look).segments .segment segment.id)
  write fun engine => { engine with segments := engine.segments.insert segment.id segment }
  notify (.segmentCreated segment.id)

/-- Takes a segment out before it is known whether there was one. -/
def deleteSegment (id : String) : Work Segment := do
  let removed := (← look).segments.get? id
  write fun engine => { engine with segments := engine.segments.erase id }
  match removed with
  | some segment =>
    notify (.segmentDeleted id)
    return segment
  | none => refuse (.notFound .segment id)

/-- Tells whether a user is in a segment. -/
def isMember (id : String) (user : User) : Work Bool := do
  let segment ← demand ((← look).segment id)
  return segment.contains user

/-! ## Experiments -/

/-- Registers an experiment. -/
def createExperiment (experiment : Experiment) : Work Unit := do
  demand (check experiment.violation?)
  demand (check (Engine.initialStatusViolation? experiment.status))
  let fresh := { experiment with results := some .initial }
  demand (Engine.requireFree (← look).experiments .experiment fresh.id)
  write fun engine => engine.withExperiments (engine.experiments.insert fresh.id fresh)
  notify (.experimentCreated fresh.id fresh.variants.length fresh.trafficPercent)

/-- Gives an experiment that has not started another definition. -/
def redefine (update : Experiment) : Work Unit := do
  demand (check update.violation?)
  edit update.id fun e => { update with status := e.status, results := some .initial }

/-- Changes the definition of a live experiment part by part, after one comparison for each frozen
part. -/
def amend (current update : Experiment) : Work Unit := do
  if current.variants != update.variants then refuse (.frozen update.id .variants)
  if current.trafficPercent != update.trafficPercent then
    refuse (.frozen update.id .trafficPercent)
  if current.targetingRules != update.targetingRules then
    refuse (.frozen update.id .targetingRules)
  if current.segments != update.segments then refuse (.frozen update.id .segments)
  if current.flagKey != update.flagKey then refuse (.frozen update.id .flagKey)
  edit update.id fun e => { e with description := update.description }
  edit update.id fun e => { e with endTime := update.endTime }

/-- Writes a change of a definition as far as the status of the experiment allows. -/
def writeUpdate (current update : Experiment) : Work Unit :=
  match current.status with
  | .draft | .scheduled => redefine update
  | .running | .paused => amend current update
  | status => refuse (.wrongStatus update.id status .update)

/-- Changes the definition of an experiment. -/
def updateExperiment (update : Experiment) : Work Unit := do
  let current ← demand ((← look).experiment update.id)
  writeUpdate current update
  notify (.experimentMoved update.id .update)

/-- The samples of an experiment, when a move needs them. They are taken before anything else. -/
def samplesFor (move : Move) (id : String) (engine : Engine) : Table Sample :=
  match move with
  | .stop | .expire => engine.analytics.log.samples id
  | _ => .empty

/-- Writes a move: the status first, and then one by one what comes with it. -/
def writeMove (id : String) (move : Move) (compare : Experiment → Results) (now : Instant) :
    Work Unit := do
  edit id fun e => { e with status := move.target }
  match move with
  | .schedule startTime => edit id fun e => { e with startTime := some startTime }
  | .start =>
    edit id fun e => { e with startTime := some now }
    edit id fun e => { e with endTime := e.endTimeFrom? now <|> e.endTime }
    edit id fun e => { e with results := some { startTime := some now } }
  | .stop =>
    edit id fun e => { e with endTime := some now }
    edit id fun e => { e with results := some (compare e) }
  | .expire =>
    edit id fun e => { e with endTime := e.endTime <|> some now }
    edit id fun e => { e with results := some (compare e) }
  | .pause | .resume | .archive => pure ()

/-- Moves an experiment, if its status allows it. -/
def moveExperiment (id : String) (move : Move) (now : Instant) : Work Unit := do
  let engine ← look
  let samples := samplesFor move id engine
  let experiment ← demand (engine.experiment id)
  if !move.allowedFrom experiment.status then
    refuse (.wrongStatus id experiment.status move.attempt)
  writeMove id move
    (·.compare samples engine.config.significance engine.config.minSampleSize now) now
  notify (.experimentMoved id move.attempt)

/-- Compares the variants of an experiment. -/
def experimentResults (id : String) (now : Instant) : Work Results := do
  let engine ← look
  let experiment ← demand (engine.experiment id)
  return experiment.compare (engine.analytics.log.samples id) engine.config.significance
    engine.config.minSampleSize now

/-! ## Rollouts -/

/-- Registers a strategy. -/
def registerStrategy (strategy : Strategy) (now : Instant) : Work Unit := do
  demand (check strategy.violation?)
  write fun engine =>
    { engine with rollouts := engine.rollouts.insert strategy.id ⟨strategy, .start now⟩ }
  notify (.strategyRegistered strategy.id strategy.stages.length)

/-- Steps a rollout; the answer is the rollout as it was. -/
def stepRollout (id : String) (step : Progress.Step) (now : Instant) : Work Rollout := do
  let rollout ← demand ((← look).rollout id)
  write (·.withProgress id rollout (rollout.progress.after rollout.strategy now step))
  return rollout

/-- Moves a rollout on, and looks the stage up only afterwards. -/
def advanceRollout (id : String) (now : Instant) : Work Stage := do
  let rollout ← stepRollout id .advance now
  let progress := rollout.progress.advance rollout.strategy now
  match rollout.strategy.stages[progress.stageIndex]? with
  | some stage =>
    if rollout.progress.advances rollout.strategy now then notify (.rolloutAdvanced id stage.id)
    return stage
  | none => refuse (.invalid (.noStages id))

/-- Steps a rollout and tells operators. -/
def controlRollout (id : String) (step : Progress.Step) (notice : Notice) (now : Instant) :
    Work Unit := do
  let _ ← stepRollout id step now
  notify notice

/-! ## Conversions -/

/-- Records a conversion, and counts it. -/
def recordConversion (experimentId variantId user kind : String) (value : Float) (now : Instant) :
    Work Unit := do
  let experiment ← demand ((← look).experiment experimentId)
  if (experiment.variant? variantId).isNone then refuse (.notFound .variant variantId)
  write (·.addConversion ⟨user, experimentId, variantId, kind, value, now⟩)
  report (.conversion experimentId variantId kind)
  if value > 0.0 then report (.conversionValue experimentId variantId kind value)

end Work

/-- An operation in place. Evaluations and sweeps are never refused. -/
def Operation.work (now : Instant) : Operation → Work Answer
  | .upsertFlag flag => do Work.upsertFlag flag; return .done
  | .deleteFlag key => return .flag (← Work.deleteFlag key)
  | .createSegment segment => do Work.createSegment segment; return .done
  | .deleteSegment id => return .segment (← Work.deleteSegment id)
  | .createExperiment e => do Work.createExperiment e; return .done
  | .updateExperiment e => do Work.updateExperiment e; return .done
  | .scheduleExperiment id startTime => do
    Work.moveExperiment id (.schedule startTime) now
    return .done
  | .startExperiment id => do Work.moveExperiment id .start now; return .done
  | .pauseExperiment id => do Work.moveExperiment id .pause now; return .done
  | .resumeExperiment id => do Work.moveExperiment id .resume now; return .done
  | .stopExperiment id => do Work.moveExperiment id .stop now; return .done
  | .archiveExperiment id => do Work.moveExperiment id .archive now; return .done
  | .registerStrategy s => do Work.registerStrategy s now; return .done
  | .advanceRollout id => return .stage (← Work.advanceRollout id now)
  | .pauseRollout id => do Work.controlRollout id .pause (.rolloutPaused id) now; return .done
  | .resumeRollout id => do Work.controlRollout id .resume (.rolloutResumed id) now; return .done
  | .rollBack id => do Work.controlRollout id .rollback (.rolloutRolledBack id) now; return .done
  | .recordConversion experimentId variantId user kind value => do
    Work.recordConversion experimentId variantId user kind value now
    return .done
  | .evaluate flagKey user default =>
    Work.accept fun engine => (engine.evaluate flagKey user default now).map .detail
  | .monitorExperiments =>
    Work.accept fun engine => (engine.monitorExperiments now).map .experimentSweep
  | .monitorRollouts metrics =>
    Work.accept fun engine => (engine.monitorRollouts metrics now).map .rolloutSweep
  | .processAnalytics => Work.accept fun engine => (engine.processAnalytics now).map .totals
  | .cleanupAnalytics => Work.accept fun engine => (engine.cleanupAnalytics now).map .removed

/-! ## Requests -/

/-- Something that is asked of an engine: an operation, or a question that can be refused. -/
inductive Request where
  | perform (operation : Operation)
  /-- how the variants of an experiment compare -/
  | results (id : String)
  /-- whether a user is in a segment -/
  | membership (segmentId : String) (user : User)

/-- The answer to a request. -/
inductive Reply where
  | answer (answer : Answer)
  | results (results : Results)
  | membership (isMember : Bool)

/-- What a request is answered, and what it leaves behind. -/
def Engine.respond (engine : Engine) (now : Instant) : Request → Except Failure (Outcome Reply)
  | .perform operation => (engine.perform now operation).map (·.map .answer)
  | .results id =>
    (engine.experimentResults id now).map fun results => { engine, answer := .results results }
  | .membership id user =>
    (engine.isMember id user).map fun isMember => { engine, answer := .membership isMember }

/-- A request in place. -/
def Request.work (now : Instant) : Request → Work Reply
  | .perform operation => return .answer (← operation.work now)
  | .results id => return .results (← Work.experimentResults id now)
  | .membership id user => return .membership (← Work.isMember id user)

end FeatureTrials
