import FeatureTrials.Analytics.Basic
import FeatureTrials.Config
import FeatureTrials.Experiment.Lifecycle
import FeatureTrials.Flag.Basic
import FeatureTrials.Notice
import FeatureTrials.Rollout.Progress
import FeatureTrials.Signal

/-!
# The engine

An engine keeps experiments, segments, rollouts and flags by their ids, and the analytics of what
happened. Its operations are functions from an engine and the reading of the clock; what they leave
behind is an `Outcome`: the engine afterwards, the answer, and what operators and the metrics of the
service are told. An operation that can be refused gives its outcome in `Except Failure`, so a
refusal leaves nothing behind.
-/

namespace FeatureTrials

/-- A registered strategy and how far it has come. -/
structure Rollout where
  strategy : Strategy
  progress : Progress

/-- The state of an engine. -/
structure Engine where
  config : Config
  experiments : Table Experiment := .empty
  segments : Table Segment := .empty
  rollouts : Table Rollout := .empty
  flags : Table Flag := .empty
  analytics : Analytics

/-- What an operation leaves behind. -/
structure Outcome (α : Type) where
  engine : Engine
  answer : α
  notices : List Notice := []
  signals : List Signal := []

/-- The first constraint a segment violates. -/
def Segment.violation? (segment : Segment) : Option Violation :=
  if segment.id = "" then some .missingSegmentId else none

/-- The first constraint a flag violates. -/
def Flag.violation? (flag : Flag) : Option Violation :=
  if flag.key = "" then some .missingFlagKey else none

namespace Engine

/-- The segments of a configuration that are valid; of several with one id the last one counts. -/
def validSegments (segments : List Segment) : Table Segment :=
  .ofList ((segments.filter (·.violation?.isNone)).map fun s => (s.id, s))

/-- The strategies of a configuration that are valid, each at its first stage. -/
def validRollouts (strategies : List Strategy) (now : Instant) : Table Rollout :=
  .ofList ((strategies.filter (·.violation?.isNone)).map fun s => (s.id, ⟨s, .start now⟩))

/-- What operators are told about the seeds that are left out. -/
def seedNotices (config : Config) : List Notice :=
  (config.segments.filterMap fun s => s.violation?.map (.segmentSkipped s.id)) ++
    config.strategies.filterMap fun s => s.violation?.map (.strategySkipped s.id)

/-- An engine with the segments and strategies of its configuration. -/
def seeded (config : Config) (now : Instant) : Outcome Unit :=
  { engine :=
      { config
        segments := validSegments config.segments
        rollouts := validRollouts config.strategies now
        analytics := { retention := config.analyticsRetention } }
    answer := ()
    notices := seedNotices config }

/-- An engine nobody has configured. -/
def standard (now : Instant) : Outcome Unit := seeded (.standard now) now

/-- An engine with a valid configuration. -/
def new (config : Config) (now : Instant) : Except ConfigFailure (Outcome Unit) :=
  match config.failure? with
  | some failure => .error failure
  | none => .ok (seeded config now)

/-- The value of a name, or the failure that there is none. -/
def find {α : Type} (table : Table α) (entity : Entity) (id : String) : Except Failure α :=
  match table.get? id with
  | some value => .ok value
  | none => .error (.notFound entity id)

/-- Refuses an id that is taken. -/
def requireFree {α : Type} (table : Table α) (entity : Entity) (id : String) :
    Except Failure Unit :=
  if table.contains id then .error (.alreadyExists entity id) else .ok ()

end Engine

end FeatureTrials
