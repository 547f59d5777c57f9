/-!
# The life of an experiment

The stations of an experiment, and its kinds.
-/

namespace FeatureTrials

/-- Where an experiment stands. -/
inductive Status where
  | draft
  | scheduled
  | running
  | paused
  | completed
  | archived
  deriving DecidableEq, Repr, Inhabited

namespace Status

/-- The name of a status. -/
def name : Status → String
  | .draft => "draft"
  | .scheduled => "scheduled"
  | .running => "running"
  | .paused => "paused"
  | .completed => "completed"
  | .archived => "archived"

/-- The status of a name. -/
def ofName? : String → Option Status
  | "draft" => some .draft
  | "scheduled" => some .scheduled
  | "running" => some .running
  | "paused" => some .paused
  | "completed" => some .completed
  | "archived" => some .archived
  | _ => none

theorem ofName?_name (status : Status) : ofName? status.name = some status := by
  cases status <;> rfl

end Status

/-- What kind of comparison an experiment is. -/
inductive ExperimentKind where
  | ab
  | multivariate
  | bandit
  deriving DecidableEq, Repr, Inhabited

namespace ExperimentKind

/-- The name of a kind. -/
def name : ExperimentKind → String
  | .ab => "ab"
  | .multivariate => "multivariate"
  | .bandit => "bandit"

/-- The kind of a name. -/
def ofName? : String → Option ExperimentKind
  | "ab" => some .ab
  | "multivariate" => some .multivariate
  | "bandit" => some .bandit
  | _ => none

theorem ofName?_name (kind : ExperimentKind) : ofName? kind.name = some kind := by
  cases kind <;> rfl

end ExperimentKind

end FeatureTrials
