import FeatureTrials.Experiment.Results
import FeatureTrials.Experiment.Status
import FeatureTrials.Experiment.Variant
import FeatureTrials.Rule.Format

/-!
# Experiments

A controlled comparison of variants behind a flag: who may take part, how many of them do, and what
the arms serve.
-/

namespace FeatureTrials

/-- An experiment. -/
structure Experiment where
  id : String
  name : String
  description : String := ""
  status : Status := .draft
  kind : ExperimentKind := .ab
  /-- the flag the experiment serves values for -/
  flagKey : Option String := none
  startTime : Option Instant := none
  endTime : Option Instant := none
  duration : Option Span := none
  /-- the share of the eligible users, from 0 to 100, that takes part at all -/
  trafficPercent : Float := 100.0
  variants : List Variant
  targetingRules : List Rule := []
  /-- ids of registered segments; a user has to be in one of them -/
  segments : List String := []
  primaryMetric : String := ""
  secondaryMetrics : List String := []
  guardrailMetrics : List String := []
  tags : List String := []
  owner : String := ""
  results : Option Results := none

namespace Experiment

/-- The experiment is running. -/
def isRunning (experiment : Experiment) : Bool := experiment.status = .running

/-- The experiment is running or paused. -/
def isLive (experiment : Experiment) : Bool :=
  experiment.status = .running || experiment.status = .paused

theorem isLive_iff {experiment : Experiment} :
    experiment.isLive = true ↔ experiment.status = .running ∨ experiment.status = .paused := by
  rw [isLive, Bool.or_eq_true, decide_eq_true_iff, decide_eq_true_iff]

/-- The experiment serves values for a flag. -/
def affectsFlag (experiment : Experiment) (flagKey : String) : Bool :=
  experiment.flagKey = some flagKey

/-- The variant marked as control, or the first one. -/
def control? (experiment : Experiment) : Option Variant :=
  experiment.variants.find? (·.isControl) <|> experiment.variants.head?

/-- The variant with an id. -/
def variant? (experiment : Experiment) (id : String) : Option Variant :=
  experiment.variants.find? (·.id == id)

/-- When the experiment ends if it starts at an instant, as far as its duration tells. -/
def endTimeFrom? (experiment : Experiment) (start : Instant) : Option Instant :=
  experiment.duration.bind start.add?

/-- Reads an experiment. -/
def ofJson? (j : Json) : Option Experiment := do
  let fields ← j.fields?
  let id ← fields.required "id" Json.text?
  let name ← fields.required "name" Json.text?
  let description ← fields.orElse "description" Json.text? ""
  let status ← fields.orElse "status" (fun j => j.word?.bind Status.ofName?) .draft
  let kind ← fields.orElse "type" (fun j => j.word?.bind ExperimentKind.ofName?) .ab
  let flagKey ← fields.nullable "flag_key" Json.text?
  let startTime ← fields.nullable "start_time" Instant.ofJson?
  let endTime ← fields.nullable "end_time" Instant.ofJson?
  let duration ← fields.nullable "duration" Span.ofJson?
  let trafficPercent ← fields.required "traffic_percent" Json.number?
  let variants ← fields.required "variants" (Json.list? Variant.ofJson?)
  let targetingRules ← fields.orElse "targeting_rules" (Json.list? Rule.ofJson?) []
  let segments ← fields.orElse "user_segments" Json.texts? []
  let primaryMetric ← fields.orElse "primary_metric" Json.text? ""
  let secondaryMetrics ← fields.orElse "secondary_metrics" Json.texts? []
  let guardrailMetrics ← fields.orElse "guardrail_metrics" Json.texts? []
  let tags ← fields.orElse "tags" Json.texts? []
  let owner ← fields.orElse "owner" Json.text? ""
  let results ← fields.nullable "results" Results.ofJson?
  some { id, name, description, status, kind, flagKey, startTime, endTime, duration,
         trafficPercent, variants, targetingRules, segments, primaryMetric, secondaryMetrics,
         guardrailMetrics, tags, owner, results }

/-- Writes an experiment. -/
def toJson (experiment : Experiment) : Json :=
  .obj <|
    [("id", .str experiment.id),
      ("name", .str experiment.name),
      ("description", .str experiment.description),
      ("status", .str experiment.status.name),
      ("type", .str experiment.kind.name)]
    ++ Json.optionalField "flag_key" .str experiment.flagKey
    ++ [("start_time", .ofOption Instant.toJson experiment.startTime),
      ("end_time", .ofOption Instant.toJson experiment.endTime),
      ("duration", .ofOption Span.toJson experiment.duration),
      ("traffic_percent", .ofFloat experiment.trafficPercent),
      ("variants", .ofList Variant.toJson experiment.variants),
      ("targeting_rules", .ofList Rule.toJson experiment.targetingRules),
      ("user_segments", .ofTexts experiment.segments),
      ("primary_metric", .str experiment.primaryMetric),
      ("secondary_metrics", .ofTexts experiment.secondaryMetrics),
      ("guardrail_metrics", .ofTexts experiment.guardrailMetrics),
      ("tags", .ofTexts experiment.tags),
      ("owner", .str experiment.owner)]
    ++ Json.optionalField "results" Results.toJson experiment.results

end Experiment

end FeatureTrials
