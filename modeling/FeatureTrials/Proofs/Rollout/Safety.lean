import FeatureTrials.Rollout.Safety
import Mathlib.Data.List.Basic

/-!
# What failing checks demand

A check fails when its metric is known and does not compare as it has to. Every failing check
demands an action, and of all that are demanded the most severe one is taken
(`Strategy.worst?_eq_some_iff`). Nothing is done exactly when nothing is demanded.

* `SafetyCheck.Fails` — a check fails.
* `Strategy.Demands` — some failing check demands an action.
* `Strategy.Worst` — no demanded action is more severe.
-/

namespace FeatureTrials

/-- The metric of the check is known for a strategy, and does not compare with the threshold as it
has to. -/
def SafetyCheck.Fails (check : SafetyCheck) (strategyId : String) (metrics : Metrics) : Prop :=
  ∃ value, metrics strategyId check.metric check.window = some value ∧
    check.operator.holds value check.threshold = false

namespace Strategy

/-- A failing check of the strategy demands an action. -/
inductive Demands (strategy : Strategy) (metrics : Metrics) : SafetyAction → Prop
  | asked {check : SafetyCheck} :
      check ∈ strategy.safetyChecks → check.Fails strategy.id metrics →
      (check.action = .rollback → strategy.rollback.automatic = true) →
      Demands strategy metrics check.action
  /-- without automatic rollback somebody has to decide about it, and the rollout waits -/
  | withheld {check : SafetyCheck} :
      check ∈ strategy.safetyChecks → check.Fails strategy.id metrics →
      check.action = .rollback → strategy.rollback.automatic = false →
      Demands strategy metrics .pause

/-- The most severe of the actions that are demanded. -/
structure Worst (strategy : Strategy) (metrics : Metrics) (action : SafetyAction) : Prop where
  demanded : strategy.Demands metrics action
  most_severe : ∀ other, strategy.Demands metrics other → other.severity ≤ action.severity

end Strategy

/-! ## The most severe action -/

namespace SafetyAction

theorem severity_injective {a b : SafetyAction} (h : a.severity = b.severity) : a = b := by
  cases a <;> cases b <;> first | rfl | cases h

theorem max_eq_or (a b : SafetyAction) : a.max b = a ∨ a.max b = b := by
  rw [max]
  split
  · exact .inr rfl
  · exact .inl rfl

theorem severity_max (a b : SafetyAction) :
    a.severity ≤ (a.max b).severity ∧ b.severity ≤ (a.max b).severity := by
  rw [max]
  split
  · next hle => exact ⟨hle, Nat.le_refl _⟩
  · next hlt => exact ⟨Nat.le_refl _, Nat.le_of_not_le hlt⟩

end SafetyAction

namespace FailedCheck

theorem worst?_nil : worst? [] = none := rfl

/-- The most severe action is found by going over the failed checks behind the first one. -/
theorem worst?_cons (check : FailedCheck) (rest : List FailedCheck) :
    worst? (check :: rest) =
      some (rest.foldl (fun worst other => worst.max other.action) check.action) := by
  rw [worst?, List.foldl_cons]
  dsimp only
  generalize check.action = soFar
  induction rest generalizing soFar with
  | nil => rfl
  | cons other rest ih => exact ih (soFar.max other.action)

theorem mem_foldl_max (rest : List FailedCheck) (soFar : SafetyAction) :
    rest.foldl (fun worst other => worst.max other.action) soFar = soFar ∨
      ∃ check ∈ rest,
        check.action = rest.foldl (fun worst other => worst.max other.action) soFar := by
  induction rest generalizing soFar with
  | nil => exact .inl rfl
  | cons other rest ih =>
    rw [List.foldl_cons]
    rcases ih (soFar.max other.action) with heq | ⟨check, hmem, heq⟩
    · rw [heq]
      rcases SafetyAction.max_eq_or soFar other.action with hmax | hmax
      · exact .inl hmax
      · exact .inr ⟨other, List.mem_cons_self, hmax.symm⟩
    · exact .inr ⟨check, List.mem_cons_of_mem _ hmem, heq⟩

theorem severity_le_foldl_max (rest : List FailedCheck) (soFar : SafetyAction) :
    soFar.severity ≤
        (rest.foldl (fun worst other => worst.max other.action) soFar).severity ∧
      ∀ check ∈ rest, check.action.severity ≤
        (rest.foldl (fun worst other => worst.max other.action) soFar).severity := by
  induction rest generalizing soFar with
  | nil => exact ⟨Nat.le_refl _, nofun⟩
  | cons other rest ih =>
    obtain ⟨hsoFar, hrest⟩ := ih (soFar.max other.action)
    obtain ⟨hleft, hright⟩ := SafetyAction.severity_max soFar other.action
    refine ⟨Nat.le_trans hleft hsoFar, fun check hmem => ?_⟩
    rcases List.mem_cons.mp hmem with rfl | hmem
    · exact Nat.le_trans hright hsoFar
    · exact hrest check hmem

/-- The action that is taken is that of a failed check, and none asks for a more severe one. -/
theorem worst?_spec {failed : List FailedCheck} {action : SafetyAction}
    (h : worst? failed = some action) :
    (∃ check ∈ failed, check.action = action) ∧
      ∀ check ∈ failed, check.action.severity ≤ action.severity := by
  cases failed with
  | nil => cases h
  | cons first rest =>
    rw [worst?_cons] at h
    cases h
    obtain ⟨hfirst, hrest⟩ := severity_le_foldl_max rest first.action
    refine ⟨?_, ?_⟩
    · rcases mem_foldl_max rest first.action with heq | ⟨check, hmem, heq⟩
      · exact ⟨first, List.mem_cons_self, heq.symm⟩
      · exact ⟨check, List.mem_cons_of_mem _ hmem, heq⟩
    · intro check hmem
      rcases List.mem_cons.mp hmem with rfl | hmem
      · exact hfirst
      · exact hrest check hmem

end FailedCheck

/-! ## The checks of a strategy -/

namespace Strategy

variable {strategy : Strategy} {metrics : Metrics} {action : SafetyAction}

theorem failure?_eq_some_iff {check : SafetyCheck} {failed : FailedCheck} :
    strategy.failure? metrics check = some failed ↔
      ∃ value, metrics strategy.id check.metric check.window = some value ∧
        check.operator.holds value check.threshold = false ∧
        failed = ⟨check.metric, value, check.threshold, strategy.actionOf check⟩ := by
  rw [failure?]
  cases hmetric : metrics strategy.id check.metric check.window with
  | none => simp
  | some value =>
    dsimp only
    cases hholds : check.operator.holds value check.threshold with
    | true => simp [hholds]
    | false =>
      rw [if_neg Bool.false_ne_true, Option.some_inj]
      constructor
      · rintro rfl
        exact ⟨value, rfl, hholds, rfl⟩
      · rintro ⟨_, hsome, -, rfl⟩
        cases hsome
        rfl

/-- A check asks for an action exactly when it fails. -/
theorem exists_failedCheck_iff :
    (∃ failed ∈ strategy.failedChecks metrics, failed.action = action) ↔
      ∃ check ∈ strategy.safetyChecks, check.Fails strategy.id metrics ∧
        strategy.actionOf check = action := by
  simp only [failedChecks, List.mem_filterMap, failure?_eq_some_iff]
  constructor
  · rintro ⟨_, ⟨check, hmem, value, hmetric, hholds, rfl⟩, haction⟩
    exact ⟨check, hmem, ⟨value, hmetric, hholds⟩, haction⟩
  · rintro ⟨check, hmem, ⟨value, hmetric, hholds⟩, haction⟩
    exact ⟨_, ⟨check, hmem, value, hmetric, hholds, rfl⟩, haction⟩

theorem demands_iff :
    strategy.Demands metrics action ↔
      ∃ failed ∈ strategy.failedChecks metrics, failed.action = action := by
  rw [exists_failedCheck_iff]
  constructor
  · rintro (⟨hmem, fails, automatic⟩ | @⟨check, hmem, fails, hrollback, byHand⟩)
    · refine ⟨_, hmem, fails, ?_⟩
      rw [actionOf, if_neg]
      rintro ⟨hrollback, byHand⟩
      simp [automatic hrollback] at byHand
    · refine ⟨check, hmem, fails, ?_⟩
      rw [actionOf, if_pos ⟨hrollback, by simp [byHand]⟩]
  · rintro ⟨check, hmem, fails, rfl⟩
    rw [actionOf]
    split
    · next h => exact .withheld hmem fails h.1 (by simpa using h.2)
    · next h =>
      refine .asked hmem fails fun hrollback => ?_
      simpa [hrollback] using h

/-- No action is taken exactly when none is demanded. -/
theorem worst?_eq_none_iff :
    FailedCheck.worst? (strategy.failedChecks metrics) = none ↔
      ∀ action, ¬ strategy.Demands metrics action := by
  simp only [demands_iff]
  cases hfailed : strategy.failedChecks metrics with
  | nil => simp [FailedCheck.worst?_nil]
  | cons first rest =>
    simp only [FailedCheck.worst?_cons, reduceCtorEq, false_iff]
    exact fun h => h first.action ⟨first, List.mem_cons_self, rfl⟩

/-- The action that is taken is the most severe one that is demanded. -/
theorem worst?_eq_some_iff :
    FailedCheck.worst? (strategy.failedChecks metrics) = some action ↔
      strategy.Worst metrics action := by
  constructor
  · intro h
    obtain ⟨hmem, hbound⟩ := FailedCheck.worst?_spec h
    refine ⟨demands_iff.mpr hmem, fun other demanded => ?_⟩
    obtain ⟨check, hcheck, rfl⟩ := demands_iff.mp demanded
    exact hbound check hcheck
  · intro worst
    cases hworst : FailedCheck.worst? (strategy.failedChecks metrics) with
    | none => exact absurd worst.demanded (worst?_eq_none_iff.mp hworst action)
    | some taken =>
      obtain ⟨hmem, hbound⟩ := FailedCheck.worst?_spec hworst
      obtain ⟨check, hcheck, rfl⟩ := demands_iff.mp worst.demanded
      have hle := worst.most_severe taken (demands_iff.mpr hmem)
      rw [SafetyAction.severity_injective (Nat.le_antisymm (hbound check hcheck) hle)]

/-- Only the metrics of its own checks matter to a strategy. -/
theorem failedChecks_congr {other : Metrics}
    (agree : ∀ check ∈ strategy.safetyChecks,
      other strategy.id check.metric check.window =
        metrics strategy.id check.metric check.window) :
    strategy.failedChecks other = strategy.failedChecks metrics := by
  refine List.filterMap_congr fun check hmem => ?_
  rw [failure?, failure?, agree check hmem]

end Strategy

end FeatureTrials
