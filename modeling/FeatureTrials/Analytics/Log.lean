import FeatureTrials.Flag.Value
import FeatureTrials.Time.Instant

/-!
# The event log

What happened to users, in the order in which it was recorded: exposures to variants, conversions,
and evaluations of flags. Events are only ever added, until a cleanup drops those that are older
than the retention.
-/

namespace FeatureTrials

/-- A user was served a variant. -/
structure Exposure where
  user : String
  experiment : String
  variant : String
  time : Instant

/-- A user of a variant did what the experiment is after. -/
structure Conversion where
  user : String
  experiment : String
  variant : String
  kind : String
  value : Float
  time : Instant

/-- A flag was evaluated for a user. -/
structure Evaluation where
  user : String
  flag : String
  value : FlagValue
  /-- what the caller would have been content with -/
  default : FlagValue
  /-- the label of the reason -/
  reason : String
  time : Instant

/-- The recorded events. -/
structure EventLog where
  exposures : Array Exposure := #[]
  conversions : Array Conversion := #[]
  evaluations : Array Evaluation := #[]

namespace EventLog

/-- The log without events. -/
def empty : EventLog := {}

instance : Inhabited EventLog := ⟨empty⟩

/-- Records an exposure. -/
def addExposure (log : EventLog) (e : Exposure) : EventLog :=
  { log with exposures := log.exposures.push e }

/-- Records a conversion. -/
def addConversion (log : EventLog) (c : Conversion) : EventLog :=
  { log with conversions := log.conversions.push c }

/-- Records an evaluation. -/
def addEvaluation (log : EventLog) (e : Evaluation) : EventLog :=
  { log with evaluations := log.evaluations.push e }

/-- The number of events. -/
def size (log : EventLog) : Nat :=
  log.exposures.size + log.conversions.size + log.evaluations.size

/-- The events after an instant. -/
def after (log : EventLog) (cutoff : Instant) : EventLog :=
  { exposures := log.exposures.filter (cutoff < ·.time)
    conversions := log.conversions.filter (cutoff < ·.time)
    evaluations := log.evaluations.filter (cutoff < ·.time) }

/-- The exposures of an experiment. -/
def exposuresOf (log : EventLog) (experiment : String) : List Exposure :=
  log.exposures.toList.filter (·.experiment == experiment)

/-- The conversions of an experiment. -/
def conversionsOf (log : EventLog) (experiment : String) : List Conversion :=
  log.conversions.toList.filter (·.experiment == experiment)

/-- The evaluations of a flag. -/
def evaluationsOf (log : EventLog) (flag : String) : List Evaluation :=
  log.evaluations.toList.filter (·.flag == flag)

@[simp] theorem exposures_addExposure (log : EventLog) (e : Exposure) :
    (log.addExposure e).exposures.toList = log.exposures.toList ++ [e] :=
  Array.toList_push

@[simp] theorem conversions_addConversion (log : EventLog) (c : Conversion) :
    (log.addConversion c).conversions.toList = log.conversions.toList ++ [c] :=
  Array.toList_push

@[simp] theorem evaluations_addEvaluation (log : EventLog) (e : Evaluation) :
    (log.addEvaluation e).evaluations.toList = log.evaluations.toList ++ [e] :=
  Array.toList_push

end EventLog

end FeatureTrials
