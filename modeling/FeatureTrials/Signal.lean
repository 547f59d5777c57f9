/-!
# Signals

What an engine reports to the metrics of the service it is part of: counters that go up by one and
histograms that take a value, each with its labels.
-/

namespace FeatureTrials

/-- One report to the metrics of the service. -/
inductive Signal where
  /-- a flag was evaluated -/
  | evaluation (flagKey reason : String)
  /-- how long an evaluation took -/
  | evaluationTime (flagKey : String) (milliseconds : Float)
  /-- a user was exposed to a variant -/
  | exposure (experimentId variantId : String)
  /-- a user converted -/
  | conversion (experimentId variantId kind : String)
  /-- the value of a conversion -/
  | conversionValue (experimentId variantId kind : String) (value : Float)
  deriving DecidableEq

namespace Signal

/-- The name of the metric. -/
def name : Signal → String
  | .evaluation .. => "flag_evaluations_total"
  | .evaluationTime .. => "flag_evaluation_duration_ms"
  | .exposure .. => "experiment_exposures_total"
  | .conversion .. => "experiment_conversions_total"
  | .conversionValue .. => "experiment_conversion_value"

/-- The labels of the metric, in order. -/
def labels : Signal → List (String × String)
  | .evaluation flagKey reason => [("flag_key", flagKey), ("reason", reason)]
  | .evaluationTime flagKey _ => [("flag_key", flagKey)]
  | .exposure experimentId variantId =>
    [("experiment_id", experimentId), ("variant_id", variantId)]
  | .conversion experimentId variantId kind =>
    [("experiment_id", experimentId), ("variant_id", variantId), ("event_type", kind)]
  | .conversionValue experimentId variantId kind _ =>
    [("experiment_id", experimentId), ("variant_id", variantId), ("event_type", kind)]

/-- The value of a histogram; none for a counter. -/
def value? : Signal → Option Float
  | .evaluationTime _ milliseconds => some milliseconds
  | .conversionValue _ _ _ value => some value
  | _ => none

end Signal

end FeatureTrials
