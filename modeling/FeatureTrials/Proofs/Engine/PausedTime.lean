import FeatureTrials.Proofs.Engine.RampUp
import FeatureTrials.Proofs.Rollout.Pause

/-!
# What pauses and operators do to the clock of a rollout

While a rollout is paused it stands still, and after a pause its stage begins anew. Who advances a
rollout is told the stage that is active from then on.

* `Engine.answer_advanceRollout` — the answer to advancing a rollout is its active stage.
* `Engine.paused_time_never_counts` — both.
-/

namespace FeatureTrials.Engine

variable {engine : Engine} {id : String} {rollout : Rollout}

/-! ## Advancing a rollout -/

theorem activeStage_of_missing (missing : engine.rollouts.get? id = none) (now : Instant) :
    engine.activeStage id now = .error (.notFound .rolloutStrategy id) := by
  rw [activeStage, Engine.rollout, find_of_missing missing]
  rfl

theorem activeStage_of_stored (stored : engine.rollouts.get? id = some rollout) (now : Instant) :
    engine.activeStage id now =
      match rollout.progress.activeStage? rollout.strategy now with
      | some stage => .ok stage
      | none => .error (.invalid (.noStages id)) := by
  rw [activeStage, Engine.rollout, find_of_get? stored]
  rfl

theorem advanceRollout_of_missing (missing : engine.rollouts.get? id = none) (now : Instant) :
    engine.advanceRollout id now = .error (.notFound .rolloutStrategy id) := by
  rw [advanceRollout, Engine.rollout, find_of_missing missing]
  rfl

/-- A rollout of a strategy with stages is advanced, and the answer is the stage it is on then. -/
theorem advanceRollout_of_stored (stored : engine.rollouts.get? id = some rollout)
    (stages : rollout.strategy.stages ≠ []) (now : Instant) :
    ∃ outcome, engine.advanceRollout id now = .ok outcome ∧
      outcome.engine =
        engine.withProgress id rollout (rollout.progress.advance rollout.strategy now) ∧
      rollout.strategy.stages[(rollout.progress.advance rollout.strategy now).stageIndex]? =
        some outcome.answer := by
  have hstage := List.getElem?_eq_getElem
    (Progress.stageIndex_advance_lt stages rollout.progress now)
  rw [advanceRollout, Engine.rollout, find_of_get? stored, ok_bind]
  simp only [hstage, pure_eq_ok]
  exact ⟨_, rfl, rfl, rfl⟩

/-- Where there are no stages, none can be active. -/
theorem advanceRollout_of_no_stages (stored : engine.rollouts.get? id = some rollout)
    (empty : rollout.strategy.stages = []) (now : Instant) :
    engine.advanceRollout id now = .error (.invalid (.noStages id)) := by
  rw [advanceRollout, Engine.rollout, find_of_get? stored, ok_bind]
  simp only [empty, List.getElem?_nil, throw_eq_error]

/-- Whoever advances a rollout is told the stage that is active right afterwards, or is refused for
the reason for which there is no active stage. -/
theorem answer_advanceRollout (engine : Engine) (id : String) (now : Instant) :
    (engine.advanceRollout id now).map (·.answer) =
      (engine.step now (.advanceRollout id)).activeStage id now := by
  have refused : ∀ failure, engine.advanceRollout id now = .error failure →
      engine.step now (.advanceRollout id) = engine := by
    intro failure hrefused
    have hperform : engine.perform now (.advanceRollout id) = .error failure := by
      rw [perform, hrefused]
      rfl
    exact step_of_error hperform
  cases stored : engine.rollouts.get? id with
  | none =>
    have hrefused := advanceRollout_of_missing stored now
    rw [refused _ hrefused, hrefused, activeStage_of_missing stored]
    rfl
  | some rollout =>
    by_cases stages : rollout.strategy.stages = []
    · have hrefused := advanceRollout_of_no_stages stored stages now
      rw [refused _ hrefused, hrefused, activeStage_of_stored stored, Progress.activeStage?, stages]
      rfl
    · obtain ⟨outcome, hadvanced, hengine, hanswer⟩ := advanceRollout_of_stored stored stages now
      have hperform : engine.perform now (.advanceRollout id) = .ok (outcome.map .stage) := by
        rw [perform, hadvanced]
        rfl
      have hstep : engine.step now (.advanceRollout id) = outcome.engine := step_of_ok hperform
      have hafter : outcome.engine.rollouts.get? id = some
          { rollout with progress := rollout.progress.advance rollout.strategy now } := by
        rw [hengine]
        exact Table.get?_insert_self _ _ _
      rw [hstep, hadvanced, activeStage_of_stored hafter, Progress.activeStage?_advance, hanswer]
      rfl

/-- A registered rollout is always told where it is advanced to. -/
theorem Reachable.exists_answer_advanceRollout (reachable : Reachable engine)
    (stored : engine.rollouts.get? id = some rollout) (now : Instant) :
    ∃ stage, (engine.advanceRollout id now).map (·.answer) = .ok stage := by
  obtain ⟨outcome, hadvanced, -⟩ := (reachable.wellFormed.findsStages stored now).answered
  exact ⟨outcome.answer, by rw [hadvanced]; rfl⟩

/-! ## Paused time -/

/-- **Paused time never counts.** From a pause on, until the rollout is resumed, advanced or rolled
back, nothing about it changes, and its active stage is the one that was active when it was paused.
Once it is resumed, the active stage is that of a rollout which begins then at this stage; without a
pause, resuming has no effect. And whoever advances a rollout of an engine is told the stage that is
active right afterwards. -/
theorem paused_time_never_counts {strategy : Strategy} {progress : Progress}
    (inRange : progress.stageIndex < strategy.stages.length) (kept : progress.rolledBack = false)
    (pausedAt : Instant) {steps : List (Instant × Progress.Step)}
    (passive : ∀ s ∈ steps, s.2.isPassive = true) :
    let paused := progress.pause strategy pausedAt
    let later := Progress.afterAll strategy paused steps
    (later = paused ∧
      ∀ t, later.activeStage? strategy t = progress.activeStage? strategy pausedAt) ∧
    (∀ resumedAt t, (later.resume resumedAt).activeStage? strategy t =
      (Progress.startAt (progress.resolve strategy pausedAt).index resumedAt).activeStage?
        strategy t) ∧
    (∀ other : Progress, other.paused = false → ∀ now, other.resume now = other) ∧
    ∀ engine id now,
      (engine.advanceRollout id now).map (·.answer) =
        (engine.step now (.advanceRollout id)).activeStage id now ∧
      ∀ rollout, Reachable engine → engine.rollouts.get? id = some rollout →
        ∃ stage, (engine.advanceRollout id now).map (·.answer) = .ok stage := by
  intro paused later
  have hlater : later = paused :=
    Progress.afterAll_of_paused (Progress.stageIndex_after_lt inRange pausedAt .pause) rfl passive
  rw [hlater]
  refine ⟨⟨rfl, fun t => ?_⟩, fun resumedAt t => ?_, fun other unpaused now => ?_,
    fun engine id now => ⟨answer_advanceRollout engine id now, fun rollout reachable stored => ?_⟩⟩
  · rw [Progress.activeStage?, Progress.resolve_pause]
    rfl
  · exact Progress.activeStage?_resume_pause strategy kept pausedAt resumedAt t
  · exact Progress.resume_of_unpaused unpaused now
  · exact reachable.exists_answer_advanceRollout stored now

/-! ### A weekend in the second stage

The rollout is paused in its second stage, after 30 hours. Until it is resumed after 500 hours, the
monitor looks at it, at times that go back once, and a safety check pauses it again. Then it runs
for the full 48 hours of the stage. -/

/-- What happens while the rollout is paused. -/
def weekend : List (Instant × Progress.Step) :=
  [(Progress.atHour 90, .tick), (Progress.atHour 60, .apply .alert),
    (Progress.atHour 300, .apply .pause), (Progress.atHour 200, .pause)]

theorem paused_time_never_counts_weekend :
    let progress := Progress.start (Progress.atHour 0)
    let paused := progress.pause .gradual (Progress.atHour 30)
    let resumed := (Progress.afterAll .gradual paused weekend).resume (Progress.atHour 500)
    progress.stageIndex < Strategy.gradual.stages.length ∧ progress.rolledBack = false ∧
      (∀ s ∈ weekend, s.2.isPassive = true) ∧ paused.stageIndex = 1 ∧
      paused.stageStartedAt = Progress.atHour 24 ∧
      Progress.afterAll .gradual paused weekend = paused ∧
      (∀ t, resumed.activeStage? .gradual t =
        (Progress.startAt 1 (Progress.atHour 500)).activeStage? .gradual t) ∧
      Reachable freshEngine ∧
      ∃ stage, (freshEngine.advanceRollout "percentage_gradual" (Progress.atHour 30)).map
        (·.answer) = .ok stage := by
  intro progress paused resumed
  have inRange : progress.stageIndex < Strategy.gradual.stages.length := by decide
  have passive : ∀ s ∈ weekend, s.2.isPassive = true := by decide
  have reachable : Reachable freshEngine := .constructed (.standard _)
  have stored : freshEngine.rollouts.get? "percentage_gradual" =
      some ⟨.gradual, .start (Progress.atHour 0)⟩ := rfl
  have hindex : (progress.resolve .gradual (Progress.atHour 30)).index = 1 := by decide
  obtain ⟨⟨hlater, -⟩, hresumed, -, hadvanced⟩ :=
    paused_time_never_counts inRange rfl (Progress.atHour 30) passive
  rw [hindex] at hresumed
  exact ⟨inRange, rfl, passive, by decide, by decide, hlater, hresumed (Progress.atHour 500),
    reachable, (hadvanced _ _ _).2 _ reachable stored⟩

end FeatureTrials.Engine
