import FeatureTrials.Proofs.Engine.Evaluation
import FeatureTrials.Proofs.Engine.RolloutChange
import FeatureTrials.Proofs.Engine.RolloutSweep

/-!
# A rollback lasts

Once a rollout has been rolled back, nobody gets its flags any more, whatever is done and whatever
the clock reads, until its strategy is registered again. A pause that is lifted does not bring it
back, so all of this rests on the rollback alone.

* `Rollout.Withdrawn` — the rollout of a strategy has been rolled back on a stage. Every change but
  a registration keeps this (`RolloutChange.withdrawn`).
* `Withdraws` — what follows for reads, sweeps and evaluations.
-/

namespace FeatureTrials

variable {strategy : Strategy} {progress : Progress} {stageIndex : Nat}

/-! ## One rollout -/

/-- No step takes a rollback back, or leaves the stage it has happened on. -/
theorem Progress.after_of_rolledBack (inRange : progress.stageIndex < strategy.stages.length)
    (rolledBack : progress.rolledBack = true) (now : Instant) (step : Progress.Step) :
    (progress.after strategy now step).rolledBack = true ∧
      (progress.after strategy now step).stageIndex = progress.stageIndex := by
  have frozen : (progress.paused || progress.rolledBack) = true := by rw [rolledBack, Bool.or_true]
  have hticked := tick_of_frozen inRange frozen now
  cases step with
  | tick =>
    rw [after, hticked]
    exact ⟨rolledBack, rfl⟩
  | advance =>
    rw [after, advance, hticked]
    simp only [canAdvance, rolledBack, Bool.not_true, Bool.false_and]
    exact ⟨rolledBack, rfl⟩
  | pause =>
    rw [after, pause, hticked]
    exact ⟨rolledBack, rfl⟩
  | resume =>
    rw [after, resume]
    split
    · exact ⟨rolledBack, rfl⟩
    · exact ⟨rolledBack, rfl⟩
  | rollback =>
    rw [after, rollback, hticked]
    exact ⟨rfl, rfl⟩
  | apply action =>
    cases action with
    | alert => exact ⟨rolledBack, rfl⟩
    | pause =>
      rw [after, apply, pause, hticked]
      exact ⟨rolledBack, rfl⟩
    | rollback =>
      rw [after, apply, rollback, hticked]
      exact ⟨rfl, rfl⟩

/-- Who is behind a rollback is not reached. -/
theorem Progress.reaches_of_rolledBack (rolledBack : progress.rolledBack = true)
    (strategy : Strategy) (user : User) (now : Instant) :
    progress.reaches strategy user now = false := by
  rw [reaches, rolledBack, Bool.not_true, Bool.false_and]

/-- The rollout of a strategy has been rolled back on one of its stages. -/
structure Rollout.Withdrawn (strategy : Strategy) (stageIndex : Nat) (rollout : Rollout) :
    Prop where
  strategy_eq : rollout.strategy = strategy
  rolledBack : rollout.progress.rolledBack = true
  stageIndex_eq : rollout.progress.stageIndex = stageIndex
  inRange : rollout.InRange

namespace Rollout.Withdrawn

variable {rollout : Rollout}

theorem isActive (withdrawn : rollout.Withdrawn strategy stageIndex) :
    rollout.isActive = false := by
  rw [isActive_eq_false_iff, withdrawn.rolledBack, Bool.or_true]

/-- A step by hand leaves a rollback in place. -/
theorem after (withdrawn : rollout.Withdrawn strategy stageIndex) (now : Instant)
    (step : Progress.Step) :
    Withdrawn strategy stageIndex
      { rollout with progress := rollout.progress.after rollout.strategy now step } := by
  obtain ⟨rolledBack, hindex⟩ :=
    Progress.after_of_rolledBack withdrawn.inRange withdrawn.rolledBack now step
  exact
    { strategy_eq := withdrawn.strategy_eq
      rolledBack := rolledBack
      stageIndex_eq := hindex.trans withdrawn.stageIndex_eq
      inRange := Progress.stageIndex_after_lt withdrawn.inRange now step }

/-- A sweep leaves a rollback in place. -/
theorem swept (withdrawn : rollout.Withdrawn strategy stageIndex) (metrics : Metrics)
    (now : Instant) : (rollout.swept metrics now).Withdrawn strategy stageIndex := by
  rw [Rollout.swept, progress_step_of_frozen withdrawn.inRange withdrawn.isActive]
  exact withdrawn

end Rollout.Withdrawn

namespace Engine

variable {engine : Engine} {now : Instant} {operation : Operation} {id : String}

/-- Every change but a registration keeps a rollback. -/
theorem RolloutChange.withdrawn {rollout : Rollout} {after : Option Rollout}
    (change : RolloutChange now id operation (some rollout) after)
    (kept : ¬ operation.Registers id) (withdrawn : rollout.Withdrawn strategy stageIndex) :
    ∃ changed, after = some changed ∧ changed.Withdrawn strategy stageIndex := by
  cases change with
  | kept => exact ⟨rollout, rfl, withdrawn⟩
  | registered _ hid valid => exact absurd ⟨hid, valid⟩ kept
  | stepped _ asked => exact ⟨_, rfl, withdrawn.after now _⟩
  | monitored metrics => exact ⟨_, rfl, withdrawn.swept metrics now⟩

/-! ## The engine -/

/-- An engine keeps the flags of a rollout from everybody. -/
structure Withdraws (engine : Engine) (id : String) (strategy : Strategy) (stageIndex : Nat) :
    Prop where
  stored : ∃ rollout, engine.rollouts.get? id = some rollout ∧ rollout.strategy = strategy ∧
    rollout.progress.rolledBack = true ∧ rollout.progress.stageIndex = stageIndex
  unreached : ∀ user now, engine.reaches id user now = .ok false
  /-- no sweep has anything to tell about the rollout -/
  not_mem_advanced : ∀ metrics now stageId,
    (id, stageId) ∉ (engine.monitorRollouts metrics now).answer.advanced
  not_mem_paused : ∀ metrics now, id ∉ (engine.monitorRollouts metrics now).answer.paused
  not_mem_rolledBack : ∀ metrics now, id ∉ (engine.monitorRollouts metrics now).answer.rolledBack
  /-- a flag that names the strategy, or has it by default, is answered by the default of whoever
  asks, unless an experiment decides -/
  excluded : ∀ flagKey flag user default now, engine.flags.get? flagKey = some flag →
    flag.rolloutStrategy = some id ∨
      flag.rolloutStrategy = none ∧ engine.config.defaultStrategy = some id →
    (engine.evaluate flagKey user default now).answer.reason.isInExperiment = false →
    (engine.evaluate flagKey user default now).answer =
      { value := default, variantId := none, reason := .rolloutExcluded id }

/-- What no experiment has decided is answered without experiments. -/
theorem answer_evaluate_of_not_inExperiment {flagKey : String} {user : User} {default : FlagValue}
    (undecided : (engine.evaluate flagKey user default now).answer.reason.isInExperiment = false) :
    (engine.evaluate flagKey user default now).answer =
      engine.baseDetail flagKey user default now := by
  have hanswer : (engine.evaluate flagKey user default now).answer =
      engine.detailOf (engine.assignment? flagKey user) flagKey user default now := rfl
  rw [hanswer] at undecided ⊢
  unfold detailOf at undecided ⊢
  split
  · next hassignment =>
    rw [hassignment] at undecided
    cases undecided
  · rfl

/-- Behind a rollback nobody gets anything. -/
theorem withdraws_of_get? {rollout : Rollout} (stored : engine.rollouts.get? id = some rollout)
    (withdrawn : rollout.Withdrawn strategy stageIndex) :
    engine.Withdraws id strategy stageIndex := by
  have unreached : ∀ user now, engine.reaches id user now = .ok false := fun user now =>
    reaches_eq_ok_iff.mpr ⟨rollout, stored, Progress.reaches_of_rolledBack withdrawn.rolledBack ..⟩
  have idle : ∀ metrics now action other, engine.rollouts.get? id = some other →
      (other.step metrics now).action ≠ some action := by
    intro metrics now action other hother taken
    rw [stored] at hother
    cases hother
    rw [Rollout.action_step_of_frozen withdrawn.isActive] at taken
    cases taken
  exact
    { stored := ⟨rollout, stored, withdrawn.strategy_eq, withdrawn.rolledBack,
        withdrawn.stageIndex_eq⟩
      unreached := unreached
      not_mem_advanced := by
        intro metrics now stageId hmem
        obtain ⟨other, hother, hadvanced⟩ := mem_advanced_iff.mp hmem
        rw [stored] at hother
        cases hother
        rw [Rollout.advancedTo_step_of_frozen withdrawn.inRange withdrawn.isActive] at hadvanced
        cases hadvanced
      not_mem_paused := by
        intro metrics now hmem
        obtain ⟨other, hother, taken⟩ := mem_paused_iff.mp hmem
        exact idle metrics now .pause other hother taken
      not_mem_rolledBack := by
        intro metrics now hmem
        obtain ⟨other, hother, taken⟩ := mem_rolledBack_iff.mp hmem
        exact idle metrics now .rollback other hother taken
      excluded := by
        intro flagKey flag user default now hflag named undecided
        rw [answer_evaluate_of_not_inExperiment undecided]
        exact baseDetail_of_excludes hflag ⟨named, unreached user now⟩ }

/-- **A rollback lasts.** Until the strategy is registered again, whatever is done to the engine and
at whatever readings of the clock, the rollout stays on its stage and keeps its flags from
everybody, and no sweep names it. -/
theorem rollback_lasts (reachable : Reachable engine) {rollout : Rollout}
    (stored : engine.rollouts.get? id = some rollout)
    (rolledBack : rollout.progress.rolledBack = true) (operations : List (Instant × Operation))
    (unregistered : ∀ o ∈ operations, ¬ o.2.Registers id) :
    (engine.run operations).Withdraws id rollout.strategy rollout.progress.stageIndex := by
  have withdrawn : rollout.Withdrawn rollout.strategy rollout.progress.stageIndex :=
    ⟨rfl, rolledBack, rfl, reachable.wellFormed.inRange stored⟩
  obtain ⟨later, hlater, hwithdrawn⟩ := reachable.keyed.run_keeps_rollout
    RolloutChange.withdrawn stored withdrawn unregistered
  exact withdraws_of_get? hlater hwithdrawn

/-! ### Attempts to bring a rollout back

A flag has its rollout by default, and the rollout is rolled back. The pause is lifted, the rollout
is advanced and swept, at readings of the clock that go back, and another strategy is registered. -/

/-- Settings under which flags are behind a canary unless they say otherwise. -/
def gatedSeeds : Config :=
  { Config.standard (.ofNanos 0) with defaultStrategy := some "canary_deployment" }

/-- An engine whose canary is rolled back. -/
def recalledEngine : Engine :=
  (seeded gatedSeeds (Progress.atHour 0)).engine.run
    [(Progress.atHour 1, .upsertFlag { key := "banner", value := .ofAny (.str "new") }),
      (Progress.atHour 2, .advanceRollout "canary_deployment"),
      (Progress.atHour 3, .rollBack "canary_deployment")]

/-- The canary, on its last stage. -/
def recalledCanary : Rollout :=
  { strategy := .canary
    progress :=
      { startedAt := Progress.atHour 0, stageIndex := 1, stageStartedAt := Progress.atHour 2
        paused := true, rolledBack := true } }

/-- What is tried. -/
def revivals : List (Instant × Operation) :=
  [(Progress.atHour 4, .resumeRollout "canary_deployment"),
    (Progress.atHour 2, .advanceRollout "canary_deployment"),
    (Progress.atHour 9, .monitorRollouts manyErrors),
    (Progress.atHour 1, .registerStrategy guarded)]

/-- The answer for a user after that. -/
def recalledAnswer : Detail FlagValue :=
  ((recalledEngine.run revivals).evaluate "banner" { id := "ann" } (.ofAny (.str "old"))
    (Progress.atHour 5)).answer

theorem rollback_lasts_canary :
    Reachable recalledEngine ∧
      recalledEngine.rollouts.get? "canary_deployment" = some recalledCanary ∧
      recalledCanary.progress.rolledBack = true ∧
      (∀ o ∈ revivals, ¬ o.2.Registers "canary_deployment") ∧
      (recalledEngine.run revivals).Withdraws "canary_deployment" .canary 1 ∧
      recalledAnswer =
        { value := .ofAny (.str "old"), variantId := none
          reason := .rolloutExcluded "canary_deployment" } := by
  have hnew : Engine.new gatedSeeds (Progress.atHour 0) =
      .ok (seeded gatedSeeds (Progress.atHour 0)) := rfl
  have reachable : Reachable recalledEngine := (Reachable.constructed (.new hnew)).run _
  have stored : recalledEngine.rollouts.get? "canary_deployment" = some recalledCanary := rfl
  have unregistered : ∀ o ∈ revivals, ¬ o.2.Registers "canary_deployment" := by
    simp [revivals, Operation.Registers, guarded]
  have withdraws := rollback_lasts reachable stored rfl revivals unregistered
  refine ⟨reachable, stored, rfl, unregistered, withdraws, ?_⟩
  exact withdraws.excluded "banner" { key := "banner", value := .ofAny (.str "new") } _ _ _ rfl
    (.inr ⟨rfl, rfl⟩) rfl

end Engine

end FeatureTrials
