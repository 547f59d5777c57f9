import FeatureTrials.Engine.State

/-!
# Evaluating flags

A flag is evaluated in layers. A running experiment bound to the flag decides if it assigns the user
a variant that declares a value. Otherwise the rollout of the flag decides whether the user gets the
flag at all, and the flag decides the value. Evaluation never fails.

* `Engine.detail` — the answer.
* `Engine.evaluate` — the answer, with the exposure and the evaluation on record.
* `Engine.recordConversion` — a conversion on record.
-/

namespace FeatureTrials

/-- A variant of an experiment that a user is assigned. -/
structure Assignment where
  experimentId : String
  variantId : String
  value : Option FlagValue

/-- Whether the rollout of a flag lets a user through. -/
inductive Gate where
  /-- the flag has no rollout -/
  | ungated
  /-- the active stage reaches the user -/
  | admitted (strategyId : String)
  /-- the active stage does not reach the user -/
  | excluded (strategyId : String)
  /-- no strategy has the id, and the flag is served ungated -/
  | unknown (strategyId : String)
  deriving DecidableEq, Repr

namespace Engine

/-- The running experiment bound to a flag; of several the one with the least id. -/
def experimentFor? (engine : Engine) (flagKey : String) : Option Experiment :=
  engine.experiments.values.find? fun e => e.isRunning && e.affectsFlag flagKey

/-- The variant of the running experiment that a user is assigned. -/
def assignment? (engine : Engine) (flagKey : String) (user : User) : Option Assignment :=
  if engine.config.experimentationEnabled then
    (engine.experimentFor? flagKey).bind fun e =>
      (e.assign engine.segments engine.config.segmentationEnabled user).map fun v =>
        ⟨e.id, v.id, v.value?⟩
  else none

/-- Whether the rollout of a flag, or else the default one, lets a user through. -/
def gate (engine : Engine) (flag : Flag) (user : User) (now : Instant) : Gate :=
  match flag.rolloutStrategy <|> engine.config.defaultStrategy with
  | none => .ungated
  | some id =>
    match engine.rollouts.get? id with
    | none => .unknown id
    | some rollout =>
      if rollout.progress.reaches rollout.strategy user now then .admitted id else .excluded id

/-- The answer without experiments. -/
def baseDetail (engine : Engine) (flagKey : String) (user : User) (default : FlagValue)
    (now : Instant) : Detail FlagValue :=
  match engine.flags.get? flagKey with
  | none => .failed .flagNotFound default
  | some flag =>
    match engine.gate flag user now with
    | .excluded strategyId => .because (.rolloutExcluded strategyId) default
    | _ => flag.evaluate default

/-- The answer for a user who has been assigned a variant, or not. -/
def detailOf (engine : Engine) (assignment : Option Assignment) (flagKey : String) (user : User)
    (default : FlagValue) (now : Instant) : Detail FlagValue :=
  match assignment with
  | some ⟨experimentId, variantId, some value⟩ =>
    { value, variantId := some variantId, reason := .experiment experimentId variantId }
  | _ => engine.baseDetail flagKey user default now

/-- The value of a flag for a user, and why. -/
def detail (engine : Engine) (flagKey : String) (user : User) (default : FlagValue)
    (now : Instant) : Detail FlagValue :=
  engine.detailOf (engine.assignment? flagKey user) flagKey user default now

/-- What operators are told when an answer without experiments meets an unknown strategy. -/
def gateNotices (engine : Engine) (flagKey : String) (user : User) (now : Instant) :
    List Notice :=
  match engine.flags.get? flagKey with
  | none => []
  | some flag =>
    match engine.gate flag user now with
    | .unknown strategyId => [.unknownStrategy flagKey strategyId]
    | _ => []

/-- Puts an exposure on record, if analytics are on. -/
def recordExposure (engine : Engine) (assignment : Assignment) (user : User) (now : Instant) :
    Engine :=
  if engine.config.analyticsEnabled then
    { engine with
      analytics := engine.analytics.expose
        ⟨user.id, assignment.experimentId, assignment.variantId, now⟩ }
  else engine

/-- Puts an evaluation on record, if analytics are on. -/
def recordEvaluation (engine : Engine) (flagKey : String) (user : User)
    (detail : Detail FlagValue) (default : FlagValue) (now : Instant) : Engine :=
  if engine.config.analyticsEnabled then
    { engine with
      analytics := engine.analytics.evaluated
        ⟨user.id, flagKey, detail.value, default, detail.reason.label, now⟩ }
  else engine

/-- Evaluates a flag for a user. An assigned variant counts as an exposure also when it declares no
value. An evaluation takes no time. -/
def evaluate (engine : Engine) (flagKey : String) (user : User) (default : FlagValue)
    (now : Instant) : Outcome (Detail FlagValue) :=
  let assignment := engine.assignment? flagKey user
  let detail := engine.detailOf assignment flagKey user default now
  let exposed := match assignment with
    | some assignment => engine.recordExposure assignment user now
    | none => engine
  { engine := exposed.recordEvaluation flagKey user detail default now
    answer := detail
    notices :=
      if detail.reason.isInExperiment then [] else engine.gateNotices flagKey user now
    signals :=
      (match assignment with
        | some assignment => [.exposure assignment.experimentId assignment.variantId]
        | none => [])
      ++ [.evaluation flagKey detail.reason.label, .evaluationTime flagKey 0.0] }

/-- Puts a conversion on record, if analytics are on. -/
def addConversion (engine : Engine) (conversion : Conversion) : Engine :=
  if engine.config.analyticsEnabled then
    { engine with analytics := engine.analytics.convert conversion }
  else engine

/-- Records that a user of a variant has converted. -/
def recordConversion (engine : Engine) (experimentId variantId user kind : String)
    (value : Float) (now : Instant) : Except Failure (Outcome Unit) := do
  let experiment ← find engine.experiments .experiment experimentId
  if (experiment.variant? variantId).isNone then
    throw (.notFound .variant variantId)
  return { engine :=
             engine.addConversion ⟨user, experimentId, variantId, kind, value, now⟩
           answer := ()
           signals :=
             .conversion experimentId variantId kind ::
               if value > 0.0 then [.conversionValue experimentId variantId kind value] else [] }

end Engine

end FeatureTrials
