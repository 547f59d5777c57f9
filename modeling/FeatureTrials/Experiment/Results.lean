import FeatureTrials.Json.Decode
import FeatureTrials.Json.Table
import FeatureTrials.Time.Format

/-!
# Results of an experiment

What a comparison of the variants says, per variant and as a verdict.
-/

namespace FeatureTrials

/-- The verdict of a comparison. -/
inductive Verdict where
  /-- fewer samples than the configured minimum -/
  | inProgress
  | significant
  | insignificant
  /-- enough samples, but the test cannot be computed -/
  | inconclusive
  deriving DecidableEq, Repr, Inhabited

namespace Verdict

/-- The name of a verdict. -/
def name : Verdict → String
  | .inProgress => "in_progress"
  | .significant => "significant"
  | .insignificant => "insignificant"
  | .inconclusive => "inconclusive"

/-- The verdict of a name. -/
def ofName? : String → Option Verdict
  | "in_progress" => some .inProgress
  | "significant" => some .significant
  | "insignificant" => some .insignificant
  | "inconclusive" => some .inconclusive
  | _ => none

theorem ofName?_name (verdict : Verdict) : ofName? verdict.name = some verdict := by
  cases verdict <;> rfl

end Verdict

/-- An interval that a rate lies in with a level of confidence. -/
structure Interval where
  lower : Float
  upper : Float
  level : Float

namespace Interval

/-- Reads an interval. -/
def ofJson? (j : Json) : Option Interval := do
  let fields ← j.fields?
  let lower ← fields.required "lower" Json.number?
  let upper ← fields.required "upper" Json.number?
  let level ← fields.required "level" Json.number?
  some { lower, upper, level }

/-- Writes an interval. -/
def toJson (interval : Interval) : Json :=
  .obj [("lower", .ofFloat interval.lower),
    ("upper", .ofFloat interval.upper),
    ("level", .ofFloat interval.level)]

end Interval

/-- What was observed of one variant. -/
structure VariantResult where
  variantId : String
  samples : Nat
  conversions : Nat
  conversionRate : Float
  confidence : Interval

namespace VariantResult

/-- Reads the result of a variant. -/
def ofJson? (j : Json) : Option VariantResult := do
  let fields ← j.fields?
  let variantId ← fields.required "variant_id" Json.text?
  let samples ← fields.required "samples" Json.nat?
  let conversions ← fields.required "conversions" Json.nat?
  let conversionRate ← fields.required "conversion_rate" Json.number?
  let confidence ← fields.required "confidence" Interval.ofJson?
  some { variantId, samples, conversions, conversionRate, confidence }

/-- Writes the result of a variant. -/
def toJson (result : VariantResult) : Json :=
  .obj [("variant_id", .str result.variantId),
    ("samples", .ofNat result.samples),
    ("conversions", .ofNat result.conversions),
    ("conversion_rate", .ofFloat result.conversionRate),
    ("confidence", result.confidence.toJson)]

end VariantResult

/-- The results of an experiment. -/
structure Results where
  verdict : Verdict := .inProgress
  /-- one minus the p-value, or zero when no test could be run -/
  confidence : Float := 0.0
  significant : Bool := false
  winner : Option String := none
  variants : Table VariantResult := .empty
  startTime : Option Instant := none
  endTime : Option Instant := none
  duration : Option Span := none
  totalSamples : Nat := 0
  pValue : Option Float := none
  /-- the distance between the conversion rates of the compared arms -/
  effectSize : Float := 0.0

namespace Results

/-- The results of an experiment that has not begun. -/
def initial : Results := {}

instance : Inhabited Results := ⟨initial⟩

/-- Reads results. -/
def ofJson? (j : Json) : Option Results := do
  let fields ← j.fields?
  let verdict ← fields.required "status" fun j => j.word?.bind Verdict.ofName?
  let confidence ← fields.required "confidence" Json.number?
  let significant ← fields.required "significant_result" Json.bool?
  let winner ← fields.nullable "winning_variant" Json.text?
  let variants ← fields.orElse "variant_results" (Json.table? VariantResult.ofJson?) .empty
  let startTime ← fields.nullable "start_time" Instant.ofJson?
  let endTime ← fields.nullable "end_time" Instant.ofJson?
  let duration ← fields.nullable "duration" Span.ofJson?
  let totalSamples ← fields.required "total_samples" Json.nat?
  let pValue ← fields.nullable "p_value" Json.number?
  let effectSize ← fields.required "effect_size" Json.number?
  some { verdict, confidence, significant, winner, variants, startTime, endTime, duration,
         totalSamples, pValue, effectSize }

/-- Writes results. -/
def toJson (results : Results) : Json :=
  .obj <|
    [("status", .str results.verdict.name),
      ("confidence", .ofFloat results.confidence),
      ("significant_result", .bool results.significant)]
    ++ Json.optionalField "winning_variant" .str results.winner
    ++ [("variant_results", .ofTable VariantResult.toJson results.variants),
      ("start_time", .ofOption Instant.toJson results.startTime),
      ("end_time", .ofOption Instant.toJson results.endTime),
      ("duration", .ofOption Span.toJson results.duration),
      ("total_samples", .ofNat results.totalSamples),
      ("p_value", .ofOption .ofFloat results.pValue),
      ("effect_size", .ofFloat results.effectSize)]

end Results

end FeatureTrials
