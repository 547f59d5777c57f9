import FeatureTrials.Experiment.Validity

/-!
# The lifecycle of experiments

* `Move` — what can happen to an experiment, from which statuses, and where it leads.
* `Experiment.moved` — the experiment after a move.
* `Experiment.updated` — the experiment after a change of its definition, which a live experiment
  takes only in part.
-/

namespace FeatureTrials

/-- What can happen to an experiment. -/
inductive Move where
  /-- wait for an instant to start -/
  | schedule (startTime : Instant)
  | start
  | pause
  | resume
  /-- complete by hand, or because the result is clear -/
  | stop
  /-- complete because the end has come -/
  | expire
  | archive
  deriving DecidableEq, Repr

namespace Move

/-- The move is allowed from a status. -/
def allowedFrom : Move → Status → Bool
  | .schedule _, .draft => true
  | .start, .draft => true
  | .start, .scheduled => true
  | .pause, .running => true
  | .resume, .paused => true
  | .stop, .running => true
  | .expire, .running => true
  | .expire, .paused => true
  | .archive, .completed => true
  | _, _ => false

/-- The status the move leads to. -/
def target : Move → Status
  | .schedule _ => .scheduled
  | .start => .running
  | .pause => .paused
  | .resume => .running
  | .stop => .completed
  | .expire => .completed
  | .archive => .archived

/-- What the move is called. -/
def attempt : Move → Attempt
  | .schedule _ => .schedule
  | .start => .start
  | .pause => .pause
  | .resume => .resume
  | .stop => .stop
  | .expire => .complete
  | .archive => .archive

end Move

namespace Experiment

/-- The experiment at the end of its run: it ended now, unless it was to end earlier. -/
def completedAt (experiment : Experiment) (endTime : Option Instant)
    (compare : Experiment → Results) : Experiment :=
  let completed := { experiment with status := .completed, endTime }
  { completed with results := some (compare completed) }

/-- The experiment after a move; `compare` gives the results at the end of a run. -/
def moved (experiment : Experiment) (move : Move) (compare : Experiment → Results)
    (now : Instant) : Experiment :=
  match move with
  | .schedule startTime =>
    { experiment with status := .scheduled, startTime := some startTime }
  | .start =>
    { experiment with
      status := .running
      startTime := some now
      endTime := experiment.endTimeFrom? now <|> experiment.endTime
      results := some { startTime := some now } }
  | .stop => experiment.completedAt (some now) compare
  | .expire => experiment.completedAt (experiment.endTime <|> some now) compare
  | .pause => { experiment with status := .paused }
  | .resume => { experiment with status := .running }
  | .archive => { experiment with status := .archived }

theorem status_moved (experiment : Experiment) (move : Move) (compare : Experiment → Results)
    (now : Instant) : (experiment.moved move compare now).status = move.target := by
  cases move <;> rfl

/-- The first frozen part in which a new definition differs. -/
def frozenDifference? (current update : Experiment) : Option FrozenField :=
  if current.variants != update.variants then some .variants
  else if current.trafficPercent != update.trafficPercent then some .trafficPercent
  else if current.targetingRules != update.targetingRules then some .targetingRules
  else if current.segments != update.segments then some .segments
  else if current.flagKey != update.flagKey then some .flagKey
  else none

/-- The experiment after a change of its definition. Before it starts it takes the whole new
definition; while it is live only the description and the end, and nothing that decides assignments
may differ; afterwards nothing. -/
def updated (current update : Experiment) : Except Failure Experiment :=
  match current.status with
  | .draft | .scheduled => do
    check update.violation?
    return { update with status := current.status, results := some .initial }
  | .running | .paused =>
    match current.frozenDifference? update with
    | some field => .error (.frozen update.id field)
    | none => .ok { current with description := update.description, endTime := update.endTime }
  | status => .error (.wrongStatus update.id status .update)

end Experiment

end FeatureTrials
