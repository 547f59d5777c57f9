import FeatureTrials.Proofs.Rollout.Transparency

/-!
# Paused time does not count

A pause commits what has elapsed and then stops the clock of a rollout: until it is resumed, only
advancing it by hand or rolling it back has an effect. Lifting the pause begins the stage anew.

* `Progress.afterAll_of_paused` — what a pause makes of the steps behind it.
* `Progress.resolve_pause`, `Progress.resolve_resume` — where a rollout stands while it is paused,
  and after it has been resumed.
* `Progress.activeStage?_advance` — a rollout that has been advanced stands at its committed stage.
-/

namespace FeatureTrials.Progress

variable {strategy : Strategy} {progress : Progress}

/-- A step that neither moves a rollout on by hand, nor resumes it, nor rolls it back. -/
def Step.isPassive : Step → Bool
  | .tick => true
  | .pause => true
  | .apply .alert => true
  | .apply .pause => true
  | _ => false

/-- Pausing a paused rollout changes nothing. -/
theorem pause_of_paused (inRange : progress.stageIndex < strategy.stages.length)
    (paused : progress.paused = true) (now : Instant) : progress.pause strategy now = progress := by
  have frozen : (progress.paused || progress.rolledBack) = true := by rw [paused, Bool.true_or]
  rw [pause, tick_of_frozen inRange frozen, ← paused]

/-- A paused rollout takes no notice of passive steps. -/
theorem after_of_paused (inRange : progress.stageIndex < strategy.stages.length)
    (paused : progress.paused = true) {step : Step} (passive : step.isPassive = true)
    (now : Instant) : progress.after strategy now step = progress := by
  cases step with
  | tick => exact tick_of_frozen inRange (by rw [paused, Bool.true_or]) now
  | pause => exact pause_of_paused inRange paused now
  | apply action =>
    cases action with
    | alert => rfl
    | pause => exact pause_of_paused inRange paused now
    | rollback => cases passive
  | advance => cases passive
  | resume => cases passive
  | rollback => cases passive

theorem afterAll_of_paused (inRange : progress.stageIndex < strategy.stages.length)
    (paused : progress.paused = true) {steps : List (Instant × Step)}
    (passive : ∀ s ∈ steps, s.2.isPassive = true) :
    afterAll strategy progress steps = progress := by
  induction steps with
  | nil => rfl
  | cons head rest ih =>
    obtain ⟨hhead, hrest⟩ := List.forall_mem_cons.mp passive
    rw [afterAll, after_of_paused inRange paused hhead]
    exact ih hrest

/-- Whenever one looks at a paused rollout, it stands where it stood when it was paused. -/
theorem resolve_pause (strategy : Strategy) (progress : Progress) (now later : Instant) :
    (progress.pause strategy now).resolve strategy later = progress.resolve strategy now := by
  rw [resolve_of_frozen strategy rfl]
  exact committed_tick strategy progress now

/-- A rollout that begins at one of the stages. -/
def startAt (index : Nat) (now : Instant) : Progress := { start now with stageIndex := index }

/-- A resumed rollout stands where one stands that begins at its stage. -/
theorem resolve_resume (paused : progress.paused = true) (kept : progress.rolledBack = false)
    (now later : Instant) :
    (progress.resume now).resolve strategy later =
      (startAt progress.stageIndex now).resolve strategy later := by
  rw [resume, if_pos paused, resolve, resolve, kept]
  rfl

/-- After a pause, the stage begins anew that was active when the rollout was paused. -/
theorem activeStage?_resume_pause (strategy : Strategy) (kept : progress.rolledBack = false)
    (pausedAt resumedAt now : Instant) :
    ((progress.pause strategy pausedAt).resume resumedAt).activeStage? strategy now =
      (startAt (progress.resolve strategy pausedAt).index resumedAt).activeStage? strategy now := by
  have paused : (progress.pause strategy pausedAt).paused = true := rfl
  have kept' : (progress.pause strategy pausedAt).rolledBack = false := kept
  rw [activeStage?, resolve_resume paused kept', activeStage?]
  rfl

/-- A rollout that is not paused cannot be resumed. -/
theorem resume_of_unpaused (unpaused : progress.paused = false) (now : Instant) :
    progress.resume now = progress := by
  rw [resume, unpaused]
  rfl

/-- A strategy with stages has the one to which a rollout is advanced. -/
theorem stageIndex_advance_lt (stages : strategy.stages ≠ []) (progress : Progress)
    (now : Instant) : (progress.advance strategy now).stageIndex < strategy.stages.length := by
  rw [advance]
  split
  · next hadvance =>
    rw [canAdvance, Bool.and_eq_true, decide_eq_true_iff] at hadvance
    exact hadvance.2
  · exact resolve_index_lt stages progress now

/-- The stage to which a rollout is advanced is active at that moment, also if it has stayed. -/
theorem activeStage?_advance (strategy : Strategy) (progress : Progress) (now : Instant) :
    (progress.advance strategy now).activeStage? strategy now =
      strategy.stages[(progress.advance strategy now).stageIndex]? := by
  rw [activeStage?, advance]
  split
  · next hadvance =>
    rw [canAdvance, Bool.and_eq_true, decide_eq_true_iff] at hadvance
    refine congrArg (fun index => strategy.stages[index]?) ?_
    exact resolve_index_of_begun hadvance.2
  · rw [resolve_tick strategy (Instant.le_refl now)]
    rfl

end FeatureTrials.Progress
