import FeatureTrials.Bucket
import FeatureTrials.Experiment.Basic
import FeatureTrials.Segment

/-!
# Assigning variants

A user takes part in an experiment when the targeting rules hold, when one of the listed segments
has them as a member, and when their bucket is below the traffic share. The variant is then picked
by a second, independent bucket that is walked along the cumulated weights.

The decision is sticky: it depends on the definition of the experiment and on the user alone, and
nothing is recorded here.

The walk itself is written over any kind of number, so that its arithmetic can be studied exactly.
-/

namespace FeatureTrials

namespace Share

variable {α β : Type} [Add α] [Mul α] [Div α] [OfNat α 0] [OfNat α 100]

/-- The sum of weights, first to last. -/
def total : List α → α
  | [] => 0
  | weight :: weights => weights.foldl (· + ·) weight

variable [LT α] [LE α] [DecidableLT α] [DecidableLE α]

/-- Walks along the shares of the arms in percent of the total, from a percentage on, and stops at
the first arm with a positive weight that reaches up to the bucket. -/
def walk (total bucket : α) : α → List (β × α) → Option β
  | _, [] => none
  | reached, (arm, weight) :: arms =>
    let reached := reached + weight / total * 100
    if 0 < weight ∧ bucket ≤ reached then some arm else walk total bucket reached arms

/-- The arm whose share of the percentages holds the bucket, if the weights have a positive sum. -/
def pick (bucket : α) (arms : List (β × α)) : Option β :=
  let sum := total (arms.map (·.2))
  if 0 < sum then walk sum bucket 0 arms else none

end Share

namespace Experiment

/-- The sum of the weights. -/
def totalWeight (experiment : Experiment) : Float :=
  Share.total (experiment.variants.map (·.weight))

/-- The scope of the buckets that pick variants. -/
def variantScope (experiment : Experiment) : String := experiment.id ++ "_variant"

/-- The variant of a fine bucket. Rounding can leave the walk a hair short of the last bucket, which
then belongs to the control. -/
def pickVariant (experiment : Experiment) (bucket : Float) : Option Variant :=
  Share.pick bucket (experiment.variants.map fun v => (v, v.weight)) <|> experiment.control?

/-- The segments let a user in: none is listed, segments are switched off, or a listed one that is
registered has them as a member. -/
def segmentsAdmit (experiment : Experiment) (registered : Table Segment) (enabled : Bool)
    (user : User) : Bool :=
  !enabled || experiment.segments.isEmpty ||
    (experiment.segments.filterMap registered.get?).any (·.contains user)

/-- The traffic share lets a user in. -/
def trafficAdmits (experiment : Experiment) (user : User) : Bool :=
  !(Bucket.fine experiment.id user.id ≥ experiment.trafficPercent)

/-- The user takes part. -/
def admits (experiment : Experiment) (registered : Table Segment) (enabled : Bool)
    (user : User) : Bool :=
  Rule.allMatch experiment.targetingRules user &&
    experiment.segmentsAdmit registered enabled user && experiment.trafficAdmits user

/-- The variant a user is served, if they take part. -/
def assign (experiment : Experiment) (registered : Table Segment) (enabled : Bool)
    (user : User) : Option Variant :=
  if experiment.admits registered enabled user then
    experiment.pickVariant (Bucket.fine experiment.variantScope user.id)
  else none

end Experiment

end FeatureTrials
