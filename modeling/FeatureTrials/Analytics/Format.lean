import FeatureTrials.Analytics.Basic

/-!
# Reports as JSON
-/

namespace FeatureTrials

/-- Writes the report on a variant. -/
def VariantReport.toJson (r : VariantReport) : Json :=
  .obj [("variant_id", .str r.variantId),
    ("exposures", .ofNat r.exposures),
    ("conversions", .ofNat r.conversions),
    ("conversion_rate", .ofFloat r.conversionRate),
    ("average_value", .ofFloat r.averageValue),
    ("unique_users", .ofNat r.uniqueUsers)]

/-- Writes the counts of an hour. -/
def TimelinePoint.toJson (p : TimelinePoint) : Json :=
  .obj [("timestamp", p.hour.toJson),
    ("exposures", .ofNat p.exposures),
    ("conversions", .ofNat p.conversions),
    ("conversion_rate", .ofFloat p.conversionRate)]

/-- Writes the report on an experiment. -/
def ExperimentReport.toJson (r : ExperimentReport) : Json :=
  .obj [("experiment_id", .str r.experimentId),
    ("total_exposures", .ofNat r.totalExposures),
    ("total_conversions", .ofNat r.totalConversions),
    ("overall_conversion_rate", .ofFloat r.overallConversionRate),
    ("variants", .ofTable VariantReport.toJson r.variants),
    ("timeline", .ofList TimelinePoint.toJson r.timeline)]

/-- Writes the report on a flag. -/
def FlagReport.toJson (r : FlagReport) : Json :=
  .obj [("flag_key", .str r.flagKey),
    ("total_evaluations", .ofNat r.totalEvaluations),
    ("unique_users", .ofNat r.uniqueUsers),
    ("default_evaluations", .ofNat r.defaultEvaluations),
    ("value_distribution", .ofTable .ofNat r.distribution)]

/-- Writes totals. -/
def Totals.toJson (t : Totals) : Json :=
  .obj [("total_exposures", .ofNat t.exposures),
    ("total_conversions", .ofNat t.conversions),
    ("total_evaluations", .ofNat t.evaluations),
    ("exposures_by_variant", .ofTable (.ofTable .ofNat) t.exposuresByVariant),
    ("conversions_by_variant", .ofTable (.ofTable .ofNat) t.conversionsByVariant),
    ("flag_evaluations", .ofTable .ofNat t.evaluationsByFlag),
    ("conversion_rates", .ofTable (.ofTable .ofFloat) t.conversionRates),
    ("last_updated", .ofOption Instant.toJson t.lastUpdated)]

end FeatureTrials
