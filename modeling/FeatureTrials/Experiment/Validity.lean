import FeatureTrials.Experiment.Assignment
import FeatureTrials.Failure

/-!
# Valid experiments

The constraints on the definition of an experiment, in the order in which they are checked.
-/

namespace FeatureTrials

namespace Experiment

/-- The first variant, among those after the ones with the ids seen, that repeats an id or has a bad
weight. -/
def variantViolation? : (seen : List String) → List Variant → Option Violation
  | _, [] => none
  | seen, v :: rest =>
    if seen.contains v.id then some (.duplicateVariant v.id)
    else if v.weight < 0.0 || v.weight.isNaN then some (.negativeWeight v.id)
    else variantViolation? (v.id :: seen) rest

/-- The number of variants marked as control. -/
def controlCount (experiment : Experiment) : Nat := experiment.variants.countP (·.isControl)

/-- The first constraint the definition violates. -/
def violation? (experiment : Experiment) : Option Violation :=
  if experiment.id = "" then some .missingExperimentId
  else if experiment.name = "" then some .missingExperimentName
  else if experiment.variants.length < 2 then
    some (.tooFewVariants experiment.variants.length)
  else if !isPercentage experiment.trafficPercent then
    some (.trafficOutOfRange experiment.trafficPercent)
  else
    match variantViolation? [] experiment.variants with
    | some violation => some violation
    | none =>
      if experiment.totalWeight ≤ 0.0 then some .zeroTotalWeight
      else if experiment.controlCount > 1 then some (.multipleControls experiment.controlCount)
      else none

end Experiment

end FeatureTrials
