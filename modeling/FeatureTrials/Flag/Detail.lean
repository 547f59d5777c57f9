import FeatureTrials.Flag.Value

/-!
# Explained answers

The answer to an evaluation is the value that is served together with the reason for it.
-/

namespace FeatureTrials

/-- Why a flag could not be evaluated. -/
inductive EvaluationError where
  /-- no experiment serves the flag, and no flag has the key -/
  | flagNotFound
  deriving DecidableEq, Repr

/-- What decided the value of a flag. -/
inductive Reason where
  /-- the user was assigned a variant of a running experiment, which declares a value -/
  | experiment (experimentId variantId : String)
  /-- the flag is behind a rollout whose active stage leaves the user out -/
  | rolloutExcluded (strategyId : String)
  /-- the flag is off -/
  | off
  /-- the flag is on -/
  | fallthrough
  /-- the flag could not be evaluated -/
  | error (error : EvaluationError)
  deriving DecidableEq, Repr

namespace Reason

/-- A short label for reports. -/
def label : Reason → String
  | .experiment .. => "experiment"
  | .rolloutExcluded _ => "rollout_excluded"
  | .off => "off"
  | .fallthrough => "fallthrough"
  | .error _ => "error"

/-- An experiment decided. -/
def isInExperiment : Reason → Bool
  | .experiment .. => true
  | _ => false

/-- Writes a reason. -/
def toJson : Reason → Json
  | .experiment experimentId variantId =>
    .obj [("kind", .str "EXPERIMENT"), ("experimentId", .str experimentId),
      ("variantId", .str variantId)]
  | .rolloutExcluded strategyId =>
    .obj [("kind", .str "ROLLOUT_EXCLUDED"), ("strategyId", .str strategyId)]
  | .off => .obj [("kind", .str "OFF")]
  | .fallthrough => .obj [("kind", .str "FALLTHROUGH")]
  | .error .flagNotFound => .obj [("kind", .str "ERROR"), ("errorKind", .str "FLAG_NOT_FOUND")]

end Reason

/-- A served value and the reason for it. -/
structure Detail (α : Type) where
  value : α
  /-- the variant the value comes from, if an experiment decided -/
  variantId : Option String := none
  reason : Reason

namespace Detail

variable {α β : Type}

/-- A value served for a reason without a variant. -/
def because (reason : Reason) (value : α) : Detail α := { value, reason }

/-- The default, served because evaluation could not proceed. -/
def failed (error : EvaluationError) (default : α) : Detail α := because (.error error) default

/-- Applies a function to the value. -/
def map (f : α → β) (detail : Detail α) : Detail β :=
  { value := f detail.value, variantId := detail.variantId, reason := detail.reason }

/-- Writes an answer. -/
def toJson (write : α → Json) (detail : Detail α) : Json :=
  .obj <|
    [("value", write detail.value)]
    ++ (match detail.variantId with
      | some id => [("variant_id", .str id)]
      | none => [])
    ++ [("reason", detail.reason.toJson)]

end Detail

end FeatureTrials
