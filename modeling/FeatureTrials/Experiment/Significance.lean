import FeatureTrials.Decimal.Exponential
import FeatureTrials.Experiment.Basic

/-!
# Comparing variants

The control is compared with the best of the other variants by a pooled two-proportion z-test.

Counts fit 64 bits, but sums of them need not. What an engine has counted itself is added up as it
is, since no engine holds so many events. Counts from elsewhere are added up in 64 bits, and what
does not fit is lost.

* `Sample` — the users of a variant and how many of them converted.
* `twoProportionTest` — the p-value of the difference of two rates, if it can be computed.
* `waldInterval` — the confidence interval of one rate.
* `Experiment.compareBy` — the results: rates and intervals of all variants, and a verdict.
* `Experiment.compare`, `Experiment.calculate` — the results with both ways of adding counts.
-/

namespace FeatureTrials

/-- A ratio of two counts, zero when there is nothing to divide by. -/
def ratio (numerator denominator : Nat) : Float :=
  if denominator = 0 then 0.0 else Decimal.ofNat numerator / Decimal.ofNat denominator

/-- The users of a variant and how many of them converted. -/
structure Sample where
  samples : Nat := 0
  conversions : Nat := 0
  deriving DecidableEq, Repr, Inhabited

/-- The share of the users that converted. -/
def Sample.rate (sample : Sample) : Float := ratio sample.conversions sample.samples

namespace Significance

/-- A number moved into the unit interval. -/
def clamp (x : Float) : Float := if x < 0.0 then 0.0 else if x > 1.0 then 1.0 else x

/-- The distribution function of the normal distribution for numbers that are not negative, by a
polynomial of degree five. -/
def normalCdf (z : Float) : Float :=
  let t := 1.0 / (1.0 + 0.2316419 * z)
  let d := 0.3989423 * Decimal.exp (-0.5 * z * z)
  let prob := d * t *
    (0.3193815 + t * (-0.3565638 + t * (1.781478 + t * (-1.821256 + t * 1.330274))))
  1.0 - prob

/-- Halves an interval a number of times toward the point where the distribution function reaches a
target. -/
def bisect (target : Float) : Nat → Float → Float → Float
  | 0, low, high => (low + high) / 2.0
  | steps + 1, low, high =>
    let middle := (low + high) / 2.0
    if normalCdf middle < target then bisect target steps middle high
    else bisect target steps low middle

/-- The two-sided critical value of a confidence level. -/
def criticalValue (level : Float) : Float :=
  bisect (1.0 - (1.0 - clamp level) / 2.0) 64 0.0 10.0

/-- Adds two counts as words of 64 bits. -/
def addWords (a b : Nat) : Nat := (UInt64.ofNat a + UInt64.ofNat b).toNat

/-- The p-value of the difference of two rates; none when an arm has no samples or there is no
variance. -/
def twoProportionTest (add : Nat → Nat → Nat) (a b : Sample) : Option Float :=
  if a.samples = 0 ∨ b.samples = 0 then none
  else
    let n₁ := Decimal.ofNat a.samples
    let n₂ := Decimal.ofNat b.samples
    let pooled := Decimal.ofNat (add a.conversions b.conversions) / (n₁ + n₂)
    let error := Float.sqrt (pooled * (1.0 - pooled) * (1.0 / n₁ + 1.0 / n₂))
    if error == 0.0 || !error.isFinite then none
    else
      let z := (a.rate - b.rate) / error
      some (clamp (2.0 * (1.0 - normalCdf z.abs)))

/-- The confidence interval of a rate, cut to the unit interval. -/
def waldInterval (sample : Sample) (level z : Float) : Interval :=
  if sample.samples = 0 then { lower := 0.0, upper := 0.0, level }
  else
    let p := sample.rate
    let margin := z * Float.sqrt (p * (1.0 - p) / Decimal.ofNat sample.samples)
    let lower := p - margin
    let upper := p + margin
    { lower := if lower > 0.0 then lower else 0.0
      upper := if upper < 1.0 then upper else 1.0
      level }

/-- The better of two variants by rate; the earlier one unless the later one is strictly better. -/
def better (rate : Variant → Float) (best : Option Variant) (v : Variant) : Option Variant :=
  match best with
  | some b => if rate b ≥ rate v then some b else some v
  | none => some v

/-- The first of the variants with the highest rate. -/
def best? (rate : Variant → Float) (variants : List Variant) : Option Variant :=
  variants.foldl (better rate) none

end Significance

namespace Experiment

open Significance

/-- The sample of a variant; one that is not listed has no users. -/
def sampleOf (samples : Table Sample) (v : Variant) : Sample := (samples.get? v.id).getD {}

/-- The observed rate and interval of a variant. -/
def variantResult (samples : Table Sample) (level z : Float) (v : Variant) : VariantResult :=
  let sample := sampleOf samples v
  { variantId := v.id
    samples := sample.samples
    conversions := sample.conversions
    conversionRate := sample.rate
    confidence := waldInterval sample level z }

/-- The observed rates of all variants; of several with one id the last one counts. -/
def variantResults (experiment : Experiment) (samples : Table Sample) (level : Float) :
    Table VariantResult :=
  let z := criticalValue level
  Table.ofList (experiment.variants.map fun v => (v.id, variantResult samples level z v))

/-- The results before a verdict: the times of the experiment and what was observed. -/
def observe (experiment : Experiment) (add : Nat → Nat → Nat) (samples : Table Sample)
    (level : Float) (now : Instant) : Results :=
  let variants := experiment.variantResults samples level
  let endTime :=
    if experiment.status = .completed ∨ experiment.status = .archived then experiment.endTime
    else none
  { variants
    startTime := experiment.startTime
    endTime
    duration := experiment.startTime.bind fun start => start.until? (endTime.getD now)
    totalSamples := variants.values.foldl (fun total v => add total v.samples) 0 }

/-- The variant the control is compared with, the best of those with another id. -/
def challenger? (experiment : Experiment) (samples : Table Sample) (control : Variant) :
    Option Variant :=
  best? (fun v => (sampleOf samples v).rate)
    (experiment.variants.filter fun v => v.id != control.id)

/-- The verdict on two arms, given the p-value of their difference. -/
def judge (results : Results) (control challenger : Variant) (controlRate challengerRate : Float)
    (level : Float) (minSampleSize : Nat) : Results :=
  if results.totalSamples < minSampleSize then results
  else
    match results.pValue with
    | none => { results with verdict := .inconclusive }
    | some p =>
      if p < 1.0 - level then
        let winner := if challengerRate > controlRate then challenger else control
        { results with verdict := .significant, significant := true, winner := some winner.id }
      else { results with verdict := .insignificant }

/-- Compares the variants: `level` is the confidence a significant result needs, and also the level
of the intervals; below `minSampleSize` users in all, the verdict stays open. Counts are added up as
`add` says. -/
def compareBy (experiment : Experiment) (add : Nat → Nat → Nat) (samples : Table Sample)
    (level : Float) (minSampleSize : Nat) (now : Instant) : Results :=
  let results := experiment.observe add samples level now
  match experiment.control? with
  | none => results
  | some control =>
    match experiment.challenger? samples control with
    | none => results
    | some challenger =>
      let a := sampleOf samples control
      let b := sampleOf samples challenger
      let pValue := twoProportionTest add a b
      let measured :=
        { results with
          effectSize := (b.rate - a.rate).abs
          pValue
          confidence := match pValue with
            | some p => clamp (1.0 - p)
            | none => 0.0 }
      judge measured control challenger a.rate b.rate level minSampleSize

/-- Compares the variants by what an engine has on record of them. -/
def compare (experiment : Experiment) (samples : Table Sample) (level : Float)
    (minSampleSize : Nat) (now : Instant) : Results :=
  experiment.compareBy (· + ·) samples level minSampleSize now

/-- Compares the variants by any counts that fit 64 bits. -/
def calculate (experiment : Experiment) (samples : Table Sample) (level : Float)
    (minSampleSize : Nat) (now : Instant) : Results :=
  experiment.compareBy addWords samples level minSampleSize now

end Experiment

end FeatureTrials
