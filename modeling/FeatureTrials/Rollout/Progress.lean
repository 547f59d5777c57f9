import FeatureTrials.Bucket
import FeatureTrials.Rollout.Strategy
import FeatureTrials.User

/-!
# The progress of a rollout

Only the committed stage of a rollout is stored. The stages that have completed on their own since
then are computed from the clock, so that the active stage is right at every moment, however seldom
somebody looks, and `tick` merely commits what has been computed.

* `Position.settle` — walks over the stages that have elapsed.
* `Progress.activeStage?` — the stage that decides at an instant.
* `Progress.tick`, `advance`, `pause`, `resume`, `rollback`, `apply` — the steps of a rollout.
-/

namespace FeatureTrials

/-- A place in a sequence of stages: which stage, and since when. -/
structure Position where
  index : Nat
  startedAt : Instant
  deriving DecidableEq, Repr

/-- The position after the stages that have elapsed; the given stages are the ones from the position
on. The last stage never completes. -/
def Position.settle (now : Instant) : Position → List Stage → Position
  | position, stage :: next :: rest =>
    match stage.elapsedBy position.startedAt now with
    | some stop => settle now ⟨position.index + 1, stop⟩ (next :: rest)
    | none => position
  | position, _ => position

/-- How far a rollout has come. -/
structure Progress where
  startedAt : Instant
  stageIndex : Nat
  stageStartedAt : Instant
  paused : Bool
  rolledBack : Bool
  deriving DecidableEq, Repr

namespace Progress

/-- A rollout that begins at its first stage. -/
def start (now : Instant) : Progress :=
  { startedAt := now, stageIndex := 0, stageStartedAt := now, paused := false, rolledBack := false }

/-- The stage that is active at an instant, and since when. While the rollout is paused or rolled
back, that is the committed one. -/
def resolve (progress : Progress) (strategy : Strategy) (now : Instant) : Position :=
  let index := min progress.stageIndex (strategy.stages.length - 1)
  let committed : Position := ⟨index, progress.stageStartedAt⟩
  if progress.paused || progress.rolledBack then committed
  else committed.settle now (strategy.stages.drop index)

/-- The stage that is active at an instant. -/
def activeStage? (progress : Progress) (strategy : Strategy) (now : Instant) : Option Stage :=
  strategy.stages[(progress.resolve strategy now).index]?

/-- Commits the stages that have completed by now. -/
def tick (progress : Progress) (strategy : Strategy) (now : Instant) : Progress :=
  let position := progress.resolve strategy now
  { progress with stageIndex := position.index, stageStartedAt := position.startedAt }

/-- Committing at an instant would change the stage. -/
def moves (progress : Progress) (strategy : Strategy) (now : Instant) : Bool :=
  (progress.resolve strategy now).index != progress.stageIndex

/-- The rollout can be moved on by hand: it is neither on its last stage nor rolled back. -/
def canAdvance (progress : Progress) (strategy : Strategy) : Bool :=
  !progress.rolledBack && progress.stageIndex + 1 < strategy.stages.length

/-- Completes the active stage by hand, where that is possible. -/
def advance (progress : Progress) (strategy : Strategy) (now : Instant) : Progress :=
  let ticked := progress.tick strategy now
  if ticked.canAdvance strategy then
    { ticked with stageIndex := ticked.stageIndex + 1, stageStartedAt := now }
  else ticked

/-- Completing the active stage by hand would be possible. -/
def advances (progress : Progress) (strategy : Strategy) (now : Instant) : Bool :=
  (progress.tick strategy now).canAdvance strategy

/-- Freezes the active stage until the rollout is resumed. -/
def pause (progress : Progress) (strategy : Strategy) (now : Instant) : Progress :=
  { progress.tick strategy now with paused := true }

/-- Lifts a pause; the stage runs its full duration again. -/
def resume (progress : Progress) (now : Instant) : Progress :=
  if progress.paused then { progress with paused := false, stageStartedAt := now } else progress

/-- Takes the flag away from everybody. Only registering the strategy again ends this. -/
def rollback (progress : Progress) (strategy : Strategy) (now : Instant) : Progress :=
  { progress.tick strategy now with rolledBack := true, paused := true }

/-- Does what a failed safety check asks for. -/
def apply (progress : Progress) (action : SafetyAction) (strategy : Strategy) (now : Instant) :
    Progress :=
  match action with
  | .alert => progress
  | .pause => progress.pause strategy now
  | .rollback => progress.rollback strategy now

/-- The user is among those the active stage reaches. -/
def reaches (progress : Progress) (strategy : Strategy) (user : User) (now : Instant) : Bool :=
  !progress.rolledBack &&
    match progress.activeStage? strategy now with
    | some stage => Decimal.ofNat (Bucket.coarse strategy.id user.id) < stage.percentage
    | none => false

/-- Writes a progress. -/
def toJson (progress : Progress) : Json :=
  .obj [("started_at", progress.startedAt.toJson),
    ("stage_index", .ofNat progress.stageIndex),
    ("stage_started_at", progress.stageStartedAt.toJson),
    ("paused", .bool progress.paused),
    ("rolled_back", .bool progress.rolledBack)]

end Progress

end FeatureTrials
