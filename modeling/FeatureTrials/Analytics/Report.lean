import FeatureTrials.Analytics.Log
import FeatureTrials.Experiment.Significance
import Std.Data.HashSet

/-!
# Reports

Every report is computed from the events that are in the log now, so no count includes what a
cleanup has dropped.

* `EventLog.experimentReport` — exposures and conversions of an experiment by variant and by hour.
* `EventLog.flagReport` — evaluations of a flag by the value served.
* `EventLog.samples` — users per variant, the input of a comparison.
* `EventLog.totals` — counts over all experiments and flags.
-/

namespace FeatureTrials

/-- The number of different names in a list. -/
def distinctCount (names : List String) : Nat := (Std.HashSet.ofList names).size

/-- How often each name occurs among the names of a list's elements. -/
def countBy {α : Type} (name : α → String) (l : List α) : Table Nat :=
  .tabulate (l.map name) fun n => l.countP fun a => name a == n

/-! ## Experiments -/

/-- What happened with one variant. -/
structure VariantReport where
  variantId : String
  exposures : Nat
  conversions : Nat
  conversionRate : Float
  /-- the mean value of the conversions, zero without any -/
  averageValue : Float
  uniqueUsers : Nat

/-- What happened within one hour. -/
structure TimelinePoint where
  hour : Instant
  exposures : Nat
  conversions : Nat
  conversionRate : Float

/-- What happened with an experiment. -/
structure ExperimentReport where
  experimentId : String
  totalExposures : Nat
  totalConversions : Nat
  overallConversionRate : Float
  variants : Table VariantReport
  timeline : List TimelinePoint

/-- The report on one variant, from all exposures and conversions of its experiment. -/
def VariantReport.ofEvents (exposures : List Exposure) (conversions : List Conversion)
    (variant : String) : VariantReport :=
  let exposed := exposures.filter (·.variant == variant)
  let converted := conversions.filter (·.variant == variant)
  let sum := converted.foldl (fun sum c => sum + c.value) 0.0
  { variantId := variant
    exposures := exposed.length
    conversions := converted.length
    conversionRate := ratio converted.length exposed.length
    averageValue :=
      if converted.isEmpty then 0.0 else sum / Decimal.ofNat converted.length
    uniqueUsers := distinctCount (exposed.map (·.user)) }

/-- Puts an instant into an increasing list that does not have it. -/
def insertHour (hour : Instant) : List Instant → List Instant
  | [] => [hour]
  | h :: rest =>
    if hour < h then hour :: h :: rest
    else if hour = h then h :: rest
    else h :: insertHour hour rest

/-- The different hours of a list of instants in increasing order. -/
def hoursOf (times : List Instant) : List Instant :=
  times.foldl (fun hours t => insertHour t.hour hours) []

/-- The counts of each hour in which something happened. -/
def timeline (exposures : List Exposure) (conversions : List Conversion) : List TimelinePoint :=
  (hoursOf (exposures.map (·.time) ++ conversions.map (·.time))).map fun hour =>
    let exposed := exposures.countP (·.time.hour = hour)
    let converted := conversions.countP (·.time.hour = hour)
    { hour, exposures := exposed, conversions := converted
      conversionRate := ratio converted exposed }

namespace EventLog

/-- The report on an experiment. -/
def experimentReport (log : EventLog) (experiment : String) : ExperimentReport :=
  let exposures := log.exposuresOf experiment
  let conversions := log.conversionsOf experiment
  { experimentId := experiment
    totalExposures := exposures.length
    totalConversions := conversions.length
    overallConversionRate := ratio conversions.length exposures.length
    variants :=
      .tabulate (exposures.map (·.variant) ++ conversions.map (·.variant))
        (VariantReport.ofEvents exposures conversions)
    timeline := timeline exposures conversions }

/-- The users exposed to a variant, and those among them that converted, each counted once. -/
def sampleOf (exposures : List Exposure) (conversions : List Conversion) (variant : String) :
    Sample :=
  let exposed := Std.HashSet.ofList ((exposures.filter (·.variant == variant)).map (·.user))
  let converted :=
    ((conversions.filter (·.variant == variant)).map (·.user)).filter exposed.contains
  { samples := exposed.size, conversions := distinctCount converted }

/-- The sample of every variant of an experiment that somebody was exposed to. -/
def samples (log : EventLog) (experiment : String) : Table Sample :=
  let exposures := log.exposuresOf experiment
  let conversions := log.conversionsOf experiment
  .tabulate (exposures.map (·.variant)) (sampleOf exposures conversions)

end EventLog

/-! ## Flags -/

/-- What was served for a flag. -/
structure FlagReport where
  flagKey : String
  totalEvaluations : Nat
  uniqueUsers : Nat
  /-- evaluations that served the caller's default -/
  defaultEvaluations : Nat
  /-- how often each value was served, by its label -/
  distribution : Table Nat

/-- The report on a flag. -/
def EventLog.flagReport (log : EventLog) (flag : String) : FlagReport :=
  let evaluations := log.evaluationsOf flag
  { flagKey := flag
    totalEvaluations := evaluations.length
    uniqueUsers := distinctCount (evaluations.map (·.user))
    defaultEvaluations := evaluations.countP fun e => e.value == e.default
    distribution := countBy (·.value.label) evaluations }

/-! ## Totals -/

/-- Counts over all experiments and flags. -/
structure Totals where
  exposures : Nat := 0
  conversions : Nat := 0
  evaluations : Nat := 0
  exposuresByVariant : Table (Table Nat) := .empty
  conversionsByVariant : Table (Table Nat) := .empty
  evaluationsByFlag : Table Nat := .empty
  conversionRates : Table (Table Float) := .empty
  lastUpdated : Option Instant := none

/-- The counts before they have been taken for the first time. -/
def Totals.initial : Totals := {}

/-- The count of a variant of an experiment, zero if it is not there. -/
def countOf (counts : Table (Table Nat)) (experiment variant : String) : Nat :=
  ((counts.get? experiment).bind (·.get? variant)).getD 0

namespace EventLog

/-- The exposures of each experiment by variant. -/
def exposuresByVariant (log : EventLog) : Table (Table Nat) :=
  .tabulate (log.exposures.toList.map (·.experiment)) fun experiment =>
    countBy (·.variant) (log.exposuresOf experiment)

/-- The conversions of each experiment by variant. -/
def conversionsByVariant (log : EventLog) : Table (Table Nat) :=
  .tabulate (log.conversions.toList.map (·.experiment)) fun experiment =>
    countBy (·.variant) (log.conversionsOf experiment)

/-- The counts over the whole log. -/
def totals (log : EventLog) (now : Instant) : Totals :=
  let exposed := log.exposuresByVariant
  let converted := log.conversionsByVariant
  { exposures := log.exposures.size
    conversions := log.conversions.size
    evaluations := log.evaluations.size
    exposuresByVariant := exposed
    conversionsByVariant := converted
    evaluationsByFlag := countBy (·.flag) log.evaluations.toList
    conversionRates :=
      exposed.map fun experiment counts =>
        counts.map fun variant count => ratio (countOf converted experiment variant) count
    lastUpdated := some now }

end EventLog

end FeatureTrials
