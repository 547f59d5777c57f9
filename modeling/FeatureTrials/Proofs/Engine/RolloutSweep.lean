import FeatureTrials.Proofs.Engine.Registries
import FeatureTrials.Proofs.Rollout.Safety
import FeatureTrials.Proofs.Text.Bytes

/-!
# What a sweep of the rollouts does

A sweep goes over the rollouts one by one. It leaves those alone that are paused or rolled back,
commits the elapsed stages of the others, and does the most severe of the things their failing
checks demand. `RolloutsSweptAs` says so rollout by rollout, and names the entries of the answer by
what has changed.

A sweep is carried out in two passes: first the checks are held against the metrics, then the
rollouts are moved on. Each pass walks through the registry in an order of its own, which plays no
part (`rolloutSweepListed_eq`).

* `RolloutsSweptAs` — what a sweep leaves behind.
* `rolloutSweepListed` — the two passes.
-/

namespace FeatureTrials

variable {engine : Engine} {metrics : Metrics} {now : Instant} {id : String} {rollout : Rollout}

/-! ## One rollout -/

namespace Rollout

/-- The rollout is on one of the stages of its strategy. -/
def InRange (rollout : Rollout) : Prop :=
  rollout.progress.stageIndex < rollout.strategy.stages.length

theorem isActive_iff :
    rollout.isActive = true ↔
      rollout.progress.paused = false ∧ rollout.progress.rolledBack = false := by
  rw [isActive, Bool.and_eq_true, Bool.not_eq_true', Bool.not_eq_true']

theorem isActive_eq_false_iff :
    rollout.isActive = false ↔ (rollout.progress.paused || rollout.progress.rolledBack) = true := by
  rw [isActive, Bool.and_eq_false_iff, Bool.not_eq_false', Bool.not_eq_false', Bool.or_eq_true]

/-- A sweep takes the most severe action that is demanded of an active rollout. -/
theorem action_step (rollout : Rollout) (metrics : Metrics) (now : Instant) :
    (rollout.step metrics now).action =
      if rollout.isActive then FailedCheck.worst? (rollout.strategy.failedChecks metrics)
      else none := by
  rw [step]
  dsimp only
  split <;> rfl

theorem action_step_of_frozen (frozen : rollout.isActive = false) (metrics : Metrics)
    (now : Instant) : (rollout.step metrics now).action = none := by
  rw [action_step, frozen, if_neg Bool.false_ne_true]

/-- A sweep commits what has elapsed, and then does what it has been led to do. -/
theorem progress_step_eq (rollout : Rollout) (metrics : Metrics) (now : Instant) :
    (rollout.step metrics now).progress =
      match (rollout.step metrics now).action with
      | some action =>
        (rollout.progress.tick rollout.strategy now).apply action rollout.strategy now
      | none => rollout.progress.tick rollout.strategy now :=
  rfl

/-- A sweep leaves what is paused or rolled back as it is. -/
theorem progress_step_of_frozen (inRange : rollout.InRange) (frozen : rollout.isActive = false)
    (metrics : Metrics) (now : Instant) :
    (rollout.step metrics now).progress = rollout.progress := by
  rw [progress_step_eq, action_step_of_frozen frozen]
  exact Progress.tick_of_frozen inRange (isActive_eq_false_iff.mp frozen) now

/-- The stage a sweep leaves a rollout on is the one that is active. -/
theorem stageIndex_step (rollout : Rollout) (metrics : Metrics) (now : Instant) :
    (rollout.step metrics now).progress.stageIndex =
      (rollout.progress.tick rollout.strategy now).stageIndex := by
  have hagain := congrArg Progress.stageIndex
    (Progress.tick_tick rollout.strategy rollout.progress now)
  rw [progress_step_eq]
  cases (rollout.step metrics now).action with
  | none => rfl
  | some action =>
    cases action with
    | alert => rfl
    | pause => exact hagain
    | rollback => exact hagain

/-- A sweep names the new stage of a rollout exactly when the stage has changed. -/
theorem advancedTo_step_iff {stageId : String} :
    (rollout.step metrics now).advancedTo = some stageId ↔
      (rollout.step metrics now).progress.stageIndex ≠ rollout.progress.stageIndex ∧
        ∃ stage,
          rollout.strategy.stages[(rollout.step metrics now).progress.stageIndex]? = some stage ∧
          stage.id = stageId := by
  have hmoves : rollout.progress.moves rollout.strategy now = true ↔
      (rollout.progress.tick rollout.strategy now).stageIndex ≠ rollout.progress.stageIndex :=
    bne_iff_ne
  rw [stageIndex_step, ← hmoves, ← Option.map_eq_some_iff, step]
  dsimp only
  split
  · next moves => simp [moves]
  · next stays => simp [stays]

theorem advancedTo_step_of_frozen (inRange : rollout.InRange) (frozen : rollout.isActive = false)
    (metrics : Metrics) (now : Instant) : (rollout.step metrics now).advancedTo = none := by
  cases hadvanced : (rollout.step metrics now).advancedTo with
  | none => rfl
  | some stageId =>
    have hmoved := (advancedTo_step_iff.mp hadvanced).1
    rw [progress_step_of_frozen inRange frozen] at hmoved
    exact absurd rfl hmoved

/-- An action is only taken on a rollout that is active. -/
theorem isActive_of_action {action : SafetyAction}
    (taken : (rollout.step metrics now).action = some action) : rollout.isActive = true := by
  cases active : rollout.isActive with
  | true => rfl
  | false =>
    rw [action_step_of_frozen active] at taken
    cases taken

/-- A sweep of an active rollout sets the pause for a pause or a rollback, and the rollback for a
rollback. -/
theorem flags_step (active : rollout.isActive = true) (metrics : Metrics) (now : Instant) :
    ((rollout.step metrics now).progress.paused = true ↔
      (rollout.step metrics now).action = some .pause ∨
        (rollout.step metrics now).action = some .rollback) ∧
    ((rollout.step metrics now).progress.rolledBack = true ↔
      (rollout.step metrics now).action = some .rollback) := by
  obtain ⟨unpaused, kept⟩ := isActive_iff.mp active
  rw [progress_step_eq]
  cases (rollout.step metrics now).action with
  | none => simp [Progress.tick, unpaused, kept]
  | some action =>
    cases action <;>
      simp [Progress.apply, Progress.pause, Progress.rollback, Progress.tick, unpaused, kept]

/-- A sweep is led to pause a rollout exactly when the pause is set by it, and no rollback. -/
theorem action_step_eq_pause_iff (inRange : rollout.InRange) :
    (rollout.step metrics now).action = some .pause ↔
      rollout.progress.paused = false ∧ (rollout.step metrics now).progress.paused = true ∧
        (rollout.step metrics now).progress.rolledBack = false := by
  cases active : rollout.isActive with
  | false =>
    rw [action_step_of_frozen active, progress_step_of_frozen inRange active]
    simp_all
  | true =>
    obtain ⟨hpaused, hrolledBack⟩ := flags_step active metrics now
    rw [and_iff_right (isActive_iff.mp active).1, ← Bool.not_eq_true, hpaused, hrolledBack]
    constructor
    · intro taken
      simp [taken]
    · rintro ⟨taken | taken, kept⟩
      · exact taken
      · exact absurd taken kept

/-- A sweep is led to roll a rollout back exactly when it is rolled back by it. -/
theorem action_step_eq_rollback_iff (inRange : rollout.InRange) :
    (rollout.step metrics now).action = some .rollback ↔
      rollout.progress.rolledBack = false ∧
        (rollout.step metrics now).progress.rolledBack = true := by
  cases active : rollout.isActive with
  | false =>
    rw [action_step_of_frozen active, progress_step_of_frozen inRange active]
    simp_all
  | true => rw [(flags_step active metrics now).2, and_iff_right (isActive_iff.mp active).2]

/-- Only the metrics of the checks of an active rollout matter. -/
theorem step_congr {other : Metrics}
    (agree : rollout.isActive = true → ∀ check ∈ rollout.strategy.safetyChecks,
      other rollout.strategy.id check.metric check.window =
        metrics rollout.strategy.id check.metric check.window) (now : Instant) :
    rollout.step other now = rollout.step metrics now := by
  rw [step, step]
  cases active : rollout.isActive with
  | false => rfl
  | true => rw [Strategy.failedChecks_congr (agree active)]

/-- What a sweep makes of a rollout, as it is stored. -/
def swept (rollout : Rollout) (metrics : Metrics) (now : Instant) : Rollout :=
  { rollout with progress := (rollout.step metrics now).progress }

theorem InRange.swept (inRange : rollout.InRange) (metrics : Metrics) (now : Instant) :
    (rollout.swept metrics now).InRange := by
  have stages : rollout.strategy.stages ≠ [] := List.length_pos_iff.mp (Nat.zero_lt_of_lt inRange)
  rw [InRange, Rollout.swept, stageIndex_step]
  exact Progress.resolve_index_lt stages rollout.progress now

/-- Sweeping a rollout again, at the same time and with the same metrics, changes nothing. -/
theorem InRange.swept_swept (inRange : rollout.InRange) (metrics : Metrics) (now : Instant) :
    (rollout.swept metrics now).swept metrics now = rollout.swept metrics now := by
  cases after : (rollout.swept metrics now).isActive with
  | false =>
    rw [Rollout.swept, progress_step_of_frozen (inRange.swept metrics now) after]
  | true =>
    -- still active, so it has been ticked and at most an alert has been raised
    have active : rollout.isActive = true := by
      cases active : rollout.isActive with
      | true => rfl
      | false =>
        rw [Rollout.swept, progress_step_of_frozen inRange active] at after
        exact active.symm.trans after
    have haction : ((rollout.swept metrics now).step metrics now).action =
        (rollout.step metrics now).action := by
      rw [action_step, action_step, after, active]
      rfl
    have hticked : (rollout.step metrics now).progress =
        rollout.progress.tick rollout.strategy now := by
      rw [isActive_iff, Rollout.swept, progress_step_eq] at after
      rw [progress_step_eq]
      cases htaken : (rollout.step metrics now).action with
      | none => rfl
      | some action =>
        rw [htaken] at after
        cases action with
        | alert => rfl
        | pause => cases after.1
        | rollback => cases after.1
    have hagain : ((rollout.swept metrics now).step metrics now).progress =
        (rollout.step metrics now).progress := by
      have hstep := progress_step_eq rollout metrics now
      rw [hticked] at hstep
      rw [progress_step_eq, haction, Rollout.swept, hticked, Progress.tick_tick]
      exact hstep.symm
    rw [Rollout.swept, hagain]
    rfl

end Rollout

/-! ## All rollouts -/

namespace Engine

/-- What a sweep leaves behind: every rollout as it has been swept, and in the answer, by the bytes
of the ids, what has changed about it. -/
structure RolloutsSweptAs (engine : Engine) (metrics : Metrics) (now : Instant)
    (outcome : Outcome RolloutSweep) : Prop where
  /-- only rollouts are touched, and none comes or goes -/
  frame : outcome.engine = { engine with rollouts := outcome.engine.rollouts }
  names : outcome.engine.rollouts.names = engine.rollouts.names
  frozen : ∀ id rollout, engine.rollouts.get? id = some rollout →
    rollout.progress.paused = true ∨ rollout.progress.rolledBack = true →
    outcome.engine.rollouts.get? id = some rollout
  passed : ∀ id rollout, engine.rollouts.get? id = some rollout →
    rollout.progress.paused = false → rollout.progress.rolledBack = false →
    (∀ action, ¬ rollout.strategy.Demands metrics action) →
    outcome.engine.rollouts.get? id = some
      { rollout with progress := rollout.progress.tick rollout.strategy now }
  failed : ∀ id rollout action, engine.rollouts.get? id = some rollout →
    rollout.progress.paused = false → rollout.progress.rolledBack = false →
    rollout.strategy.Worst metrics action →
    outcome.engine.rollouts.get? id = some
      { rollout with
        progress :=
          (rollout.progress.tick rollout.strategy now).apply action rollout.strategy now }
  advanced_ascending : outcome.answer.advanced.Pairwise fun a b => Text.bytes a.1 < Text.bytes b.1
  /-- the new stage of every rollout that is on another one -/
  mem_advanced : ∀ id stageId, (id, stageId) ∈ outcome.answer.advanced ↔
    ∃ before after stage, engine.rollouts.get? id = some before ∧
      outcome.engine.rollouts.get? id = some after ∧
      after.progress.stageIndex ≠ before.progress.stageIndex ∧
      before.strategy.stages[after.progress.stageIndex]? = some stage ∧ stage.id = stageId
  paused_ascending : outcome.answer.paused.Pairwise fun a b => Text.bytes a < Text.bytes b
  /-- the rollouts whose pause has been set, and that are not rolled back -/
  mem_paused : ∀ id, id ∈ outcome.answer.paused ↔
    ∃ before after, engine.rollouts.get? id = some before ∧
      outcome.engine.rollouts.get? id = some after ∧
      before.progress.paused = false ∧ after.progress.paused = true ∧
      after.progress.rolledBack = false
  rolledBack_ascending :
    outcome.answer.rolledBack.Pairwise fun a b => Text.bytes a < Text.bytes b
  /-- the rollouts that have been rolled back -/
  mem_rolledBack : ∀ id, id ∈ outcome.answer.rolledBack ↔
    ∃ before after, engine.rollouts.get? id = some before ∧
      outcome.engine.rollouts.get? id = some after ∧
      before.progress.rolledBack = false ∧ after.progress.rolledBack = true

theorem get?_monitorRollouts (metrics : Metrics) (now : Instant) (id : String) :
    (engine.monitorRollouts metrics now).engine.rollouts.get? id =
      (engine.rollouts.get? id).map (·.swept metrics now) := by
  rw [rollouts_monitorRollouts, Table.get?_map]
  rfl

/-- What holds of a rollout before and after a sweep holds of it and what it is swept to. -/
theorem exists_swept_iff {P : Rollout → Rollout → Prop} :
    (∃ before after, engine.rollouts.get? id = some before ∧
      (engine.monitorRollouts metrics now).engine.rollouts.get? id = some after ∧
      P before after) ↔
    ∃ rollout, engine.rollouts.get? id = some rollout ∧ P rollout (rollout.swept metrics now) := by
  simp only [get?_monitorRollouts]
  constructor
  · rintro ⟨rollout, after, stored, hafter, holds⟩
    rw [stored] at hafter
    cases hafter
    exact ⟨rollout, stored, holds⟩
  · rintro ⟨rollout, stored, holds⟩
    exact ⟨rollout, _, stored, by rw [stored, Option.map_some], holds⟩

/-- The rollouts as a sweep goes over them, each with what it does. -/
def sweepSteps (engine : Engine) (metrics : Metrics) (now : Instant) :
    Table (Rollout × RolloutStep) :=
  engine.rollouts.map fun _ rollout => (rollout, rollout.step metrics now)

theorem mem_sweepSteps_iff {step : RolloutStep} :
    (id, rollout, step) ∈ (engine.sweepSteps metrics now).entries ↔
      engine.rollouts.get? id = some rollout ∧ rollout.step metrics now = step := by
  rw [Table.mem_entries_iff, sweepSteps, Table.get?_map, Option.map_eq_some_iff]
  simp only [Prod.mk.injEq]
  constructor
  · rintro ⟨_, stored, rfl, hstep⟩
    exact ⟨stored, hstep⟩
  · rintro ⟨stored, hstep⟩
    exact ⟨rollout, stored, rfl, hstep⟩

theorem mem_advanced_iff {stageId : String} :
    (id, stageId) ∈ (engine.monitorRollouts metrics now).answer.advanced ↔
      ∃ rollout, engine.rollouts.get? id = some rollout ∧
        (rollout.step metrics now).advancedTo = some stageId := by
  have hanswer : (engine.monitorRollouts metrics now).answer.advanced =
      (engine.sweepSteps metrics now).entries.filterMap fun e =>
        e.2.2.advancedTo.map (e.1, ·) := rfl
  rw [hanswer, List.mem_filterMap]
  constructor
  · rintro ⟨⟨other, rollout, step⟩, hmem, hstep⟩
    obtain ⟨stage, hadvanced, heq⟩ := Option.map_eq_some_iff.mp hstep
    cases heq
    obtain ⟨stored, rfl⟩ := mem_sweepSteps_iff.mp hmem
    exact ⟨rollout, stored, hadvanced⟩
  · rintro ⟨rollout, stored, hadvanced⟩
    exact ⟨_, mem_sweepSteps_iff.mpr ⟨stored, rfl⟩, Option.map_eq_some_iff.mpr ⟨_, hadvanced, rfl⟩⟩

/-- The ids of the rollouts on which a sweep takes an action. -/
theorem mem_idsWith_iff {action : SafetyAction} :
    id ∈ ((engine.sweepSteps metrics now).entries.filter
        fun e => e.2.2.action = some action).map (·.1) ↔
      ∃ rollout, engine.rollouts.get? id = some rollout ∧
        (rollout.step metrics now).action = some action := by
  simp only [List.mem_map, List.mem_filter, decide_eq_true_eq]
  constructor
  · rintro ⟨⟨other, rollout, step⟩, ⟨hmem, hstep⟩, rfl⟩
    obtain ⟨stored, rfl⟩ := mem_sweepSteps_iff.mp hmem
    exact ⟨rollout, stored, hstep⟩
  · rintro ⟨rollout, stored, hstep⟩
    exact ⟨_, ⟨mem_sweepSteps_iff.mpr ⟨stored, rfl⟩, hstep⟩, rfl⟩

theorem mem_paused_iff :
    id ∈ (engine.monitorRollouts metrics now).answer.paused ↔
      ∃ rollout, engine.rollouts.get? id = some rollout ∧
        (rollout.step metrics now).action = some .pause :=
  mem_idsWith_iff

theorem mem_rolledBack_iff :
    id ∈ (engine.monitorRollouts metrics now).answer.rolledBack ↔
      ∃ rollout, engine.rollouts.get? id = some rollout ∧
        (rollout.step metrics now).action = some .rollback :=
  mem_idsWith_iff

/-- What is picked from the entries of a table comes in the order of their names. -/
theorem increasing_advanced (engine : Engine) (metrics : Metrics) (now : Instant) :
    (engine.monitorRollouts metrics now).answer.advanced.Pairwise fun a b => a.1 < b.1 := by
  refine (engine.sweepSteps metrics now).increasing.filterMap _ fun e f hlt => ?_
  rintro a ha b hb
  obtain ⟨_, -, rfl⟩ := Option.map_eq_some_iff.mp ha
  obtain ⟨_, -, rfl⟩ := Option.map_eq_some_iff.mp hb
  exact hlt

theorem increasing_idsWith (engine : Engine) (metrics : Metrics) (now : Instant)
    (action : SafetyAction) :
    (((engine.sweepSteps metrics now).entries.filter
      fun e => e.2.2.action = some action).map (·.1)).Pairwise (· < ·) :=
  List.pairwise_map.mpr ((engine.sweepSteps metrics now).increasing.filter _)

theorem WellFormed.inRange (wellFormed : engine.WellFormed)
    (stored : engine.rollouts.get? id = some rollout) : rollout.InRange :=
  (wellFormed.rollouts stored).2.2

/-- A sweep leaves behind what it is said to. -/
theorem WellFormed.rolloutsSweptAs (wellFormed : engine.WellFormed) (metrics : Metrics)
    (now : Instant) : engine.RolloutsSweptAs metrics now (engine.monitorRollouts metrics now) := by
  have hafter : ∀ id rollout, engine.rollouts.get? id = some rollout →
      (engine.monitorRollouts metrics now).engine.rollouts.get? id =
        some (rollout.swept metrics now) := by
    intro id rollout stored
    rw [get?_monitorRollouts, stored, Option.map_some]
  exact
    { frame := rfl
      names := by rw [rollouts_monitorRollouts, Table.names_map]
      frozen := by
        intro id rollout stored frozen
        have inactive : rollout.isActive = false :=
          Rollout.isActive_eq_false_iff.mpr (Bool.or_eq_true_iff.mpr frozen)
        rw [hafter id rollout stored, Rollout.swept,
          Rollout.progress_step_of_frozen (wellFormed.inRange stored) inactive]
      passed := by
        intro id rollout stored unpaused kept undemanded
        rw [hafter id rollout stored, Rollout.swept, Rollout.progress_step_eq,
          Rollout.action_step, if_pos (Rollout.isActive_iff.mpr ⟨unpaused, kept⟩),
          Strategy.worst?_eq_none_iff.mpr undemanded]
      failed := by
        intro id rollout action stored unpaused kept worst
        rw [hafter id rollout stored, Rollout.swept, Rollout.progress_step_eq,
          Rollout.action_step, if_pos (Rollout.isActive_iff.mpr ⟨unpaused, kept⟩),
          Strategy.worst?_eq_some_iff.mpr worst]
      advanced_ascending :=
        (increasing_advanced engine metrics now).imp Text.bytes_lt_iff.mpr
      mem_advanced := by
        intro id stageId
        simp only [mem_advanced_iff, Rollout.advancedTo_step_iff]
        constructor
        · rintro ⟨rollout, stored, moved, stage, hstage, hid⟩
          exact ⟨rollout, _, stage, stored, hafter id rollout stored, moved, hstage, hid⟩
        · rintro ⟨rollout, after, stage, stored, hswept, moved, hstage, hid⟩
          rw [hafter id rollout stored] at hswept
          cases hswept
          exact ⟨rollout, stored, moved, stage, hstage, hid⟩
      paused_ascending :=
        (increasing_idsWith engine metrics now .pause).imp Text.bytes_lt_iff.mpr
      mem_paused := by
        intro id
        refine mem_paused_iff.trans (Iff.trans ?_ exists_swept_iff.symm)
        exact exists_congr fun rollout => and_congr_right fun stored =>
          Rollout.action_step_eq_pause_iff (wellFormed.inRange stored)
      rolledBack_ascending :=
        (increasing_idsWith engine metrics now .rollback).imp Text.bytes_lt_iff.mpr
      mem_rolledBack := by
        intro id
        refine mem_rolledBack_iff.trans (Iff.trans ?_ exists_swept_iff.symm)
        exact exists_congr fun rollout => and_congr_right fun stored =>
          Rollout.action_step_eq_rollback_iff (wellFormed.inRange stored) }

/-- A sweep that changes no rollout has nothing to tell. -/
theorem WellFormed.answer_eq_of_unchanged (wellFormed : engine.WellFormed)
    (unchanged : (engine.monitorRollouts metrics now).engine.rollouts = engine.rollouts) :
    (engine.monitorRollouts metrics now).answer = {} := by
  have swept := wellFormed.rolloutsSweptAs metrics now
  have advanced : (engine.monitorRollouts metrics now).answer.advanced = [] := by
    refine List.eq_nil_iff_forall_not_mem.mpr fun ⟨id, stageId⟩ hmem => ?_
    obtain ⟨before, after, stage, stored, hafter, moved, -⟩ :=
      (swept.mem_advanced id stageId).mp hmem
    rw [unchanged, stored] at hafter
    cases hafter
    exact moved rfl
  have paused : (engine.monitorRollouts metrics now).answer.paused = [] := by
    refine List.eq_nil_iff_forall_not_mem.mpr fun id hmem => ?_
    obtain ⟨before, after, stored, hafter, unpaused, set, -⟩ := (swept.mem_paused id).mp hmem
    rw [unchanged, stored] at hafter
    cases hafter
    exact Bool.false_ne_true (unpaused.symm.trans set)
  have rolledBack : (engine.monitorRollouts metrics now).answer.rolledBack = [] := by
    refine List.eq_nil_iff_forall_not_mem.mpr fun id hmem => ?_
    obtain ⟨before, after, stored, hafter, kept, taken⟩ := (swept.mem_rolledBack id).mp hmem
    rw [unchanged, stored] at hafter
    cases hafter
    exact Bool.false_ne_true (kept.symm.trans taken)
  calc (engine.monitorRollouts metrics now).answer
      = ⟨(engine.monitorRollouts metrics now).answer.advanced,
          (engine.monitorRollouts metrics now).answer.paused,
          (engine.monitorRollouts metrics now).answer.rolledBack⟩ := rfl
    _ = {} := by rw [advanced, paused, rolledBack]

/-- A sweep that follows at the same time, with the same metrics, finds nothing left to do. -/
theorem WellFormed.monitorRollouts_again (wellFormed : engine.WellFormed) (metrics : Metrics)
    (now : Instant) :
    ((engine.monitorRollouts metrics now).engine.monitorRollouts metrics now).engine =
        (engine.monitorRollouts metrics now).engine ∧
      ((engine.monitorRollouts metrics now).engine.monitorRollouts metrics now).answer = {} := by
  have after : (engine.monitorRollouts metrics now).engine.WellFormed :=
    wellFormed.step now (.monitorRollouts metrics)
  have unchanged :
      ((engine.monitorRollouts metrics now).engine.monitorRollouts metrics now).engine.rollouts =
        (engine.monitorRollouts metrics now).engine.rollouts := by
    refine Table.ext_get? fun id => ?_
    rw [get?_monitorRollouts, get?_monitorRollouts]
    cases stored : engine.rollouts.get? id with
    | none => rfl
    | some rollout =>
      rw [Option.map_some, Option.map_some, (wellFormed.inRange stored).swept_swept]
  refine ⟨?_, after.answer_eq_of_unchanged unchanged⟩
  rw [(after.rolloutsSweptAs metrics now).frame, unchanged]

/-- Only the metrics of the checks of active rollouts matter to a sweep. -/
theorem WellFormed.monitorRollouts_congr (wellFormed : engine.WellFormed) {other : Metrics}
    (agree : ∀ id rollout, engine.rollouts.get? id = some rollout →
      rollout.progress.paused = false → rollout.progress.rolledBack = false →
      ∀ check ∈ rollout.strategy.safetyChecks,
        other id check.metric check.window = metrics id check.metric check.window)
    (now : Instant) : engine.monitorRollouts other now = engine.monitorRollouts metrics now := by
  have hsteps : engine.sweepSteps other now = engine.sweepSteps metrics now := by
    refine Table.ext_get? fun id => ?_
    rw [sweepSteps, sweepSteps, Table.get?_map, Table.get?_map]
    cases stored : engine.rollouts.get? id with
    | none => rfl
    | some rollout =>
      obtain ⟨hid, -, -⟩ := wellFormed.rollouts stored
      have hstep : rollout.step other now = rollout.step metrics now := by
        refine Rollout.step_congr (fun active check hmem => ?_) now
        obtain ⟨unpaused, kept⟩ := Rollout.isActive_iff.mp active
        rw [hid]
        exact agree id rollout stored unpaused kept check hmem
      rw [Option.map_some, Option.map_some, hstep]
  rw [sweepSteps, sweepSteps] at hsteps
  rw [monitorRollouts, monitorRollouts, hsteps]

/-! ## Two passes in any order -/

/-- The actions that a sweep is led to in its first pass, by the ids of the strategies. -/
def actionsTaken (order : List Rollout) (metrics : Metrics) : Table SafetyAction :=
  .ofList <| (order.filter (·.isActive)).filterMap fun rollout =>
    (FailedCheck.worst? (rollout.strategy.failedChecks metrics)).map (rollout.strategy.id, ·)

end Engine

/-- What the second pass of a sweep makes of a rollout. -/
structure RolloutPass where
  rollout : Rollout
  /-- the stage that has become active on its own -/
  advancedTo : Option String
  /-- the action that is taken -/
  action : Option SafetyAction

/-- The second pass over a rollout: elapsed stages are committed, and then the action is taken that
the first pass has been led to, unless the rollout is paused or rolled back. -/
def Rollout.pass (rollout : Rollout) (action : Option SafetyAction) (now : Instant) :
    RolloutPass :=
  let ticked := { rollout with progress := rollout.progress.tick rollout.strategy now }
  let taken := if ticked.isActive then action else none
  { rollout := match taken with
      | some action =>
        { ticked with progress := ticked.progress.apply action rollout.strategy now }
      | none => ticked
    advancedTo :=
      if rollout.progress.moves rollout.strategy now then
        rollout.strategy.stages[ticked.progress.stageIndex]?.map (·.id)
      else none
    action := taken }

namespace Engine

/-- A sweep that walks through the registry in one order for the checks and in another one for the
rollouts, and sorts its answer by the bytes of the ids and, for one id, of the stages. -/
def rolloutSweepListed (engine : Engine) (first second : List (String × Rollout))
    (metrics : Metrics) (now : Instant) : Engine × RolloutSweep :=
  let actions := actionsTaken (first.map (·.2)) metrics
  let passes := second.map fun e => (e.1, e.2.pass (actions.get? e.1) now)
  let idsWith (action : SafetyAction) :=
    ((passes.filter fun e => e.2.action = some action).map (·.1)).mergeSort
      fun a b => Text.bytes a ≤ Text.bytes b
  ({ engine with rollouts := .ofList (passes.map fun e => (e.1, e.2.rollout)) },
    { advanced :=
        (passes.filterMap fun e => e.2.advancedTo.map (e.1, ·)).mergeSort fun a b =>
          Text.bytes a.1 < Text.bytes b.1 ∨ a.1 = b.1 ∧ Text.bytes a.2 ≤ Text.bytes b.2
      paused := idsWith .pause
      rolledBack := idsWith .rollback })

/-- The second pass over a rollout, with what its checks have led to, is what a sweep does. -/
theorem pass_step (rollout : Rollout) (metrics : Metrics) (now : Instant) :
    rollout.pass (rollout.step metrics now).action now =
      { rollout := rollout.swept metrics now
        advancedTo := (rollout.step metrics now).advancedTo
        action := (rollout.step metrics now).action } := by
  have htaken : (if rollout.isActive then (rollout.step metrics now).action else none) =
      (rollout.step metrics now).action := by
    cases active : rollout.isActive with
    | true => rfl
    | false => rw [Rollout.action_step_of_frozen active]; rfl
  have hactive : Rollout.isActive
      { rollout with progress := rollout.progress.tick rollout.strategy now } =
        rollout.isActive := rfl
  rw [Rollout.pass, Rollout.swept, Rollout.progress_step_eq]
  simp only [hactive, htaken]
  cases (rollout.step metrics now).action with
  | none => rfl
  | some action => rfl

/-- In the first pass, the action for a rollout depends on its own checks. -/
theorem WellFormed.get?_actionsTaken (wellFormed : engine.WellFormed) {order : List Rollout}
    (perm : order.Perm engine.rollouts.values) (stored : engine.rollouts.get? id = some rollout)
    (metrics : Metrics) (now : Instant) :
    (actionsTaken order metrics).get? id = (rollout.step metrics now).action := by
  have hmem : ∀ name action,
      (name, action) ∈ ((order.filter (·.isActive)).filterMap fun rollout =>
        (FailedCheck.worst? (rollout.strategy.failedChecks metrics)).map
          (rollout.strategy.id, ·)) ↔
        ∃ rollout, engine.rollouts.get? name = some rollout ∧
          (rollout.step metrics now).action = some action := by
    intro name action
    simp only [List.mem_filterMap, List.mem_filter, perm.mem_iff, Table.mem_values_iff]
    constructor
    · rintro ⟨rollout, ⟨⟨other, hother⟩, active⟩, hworst⟩
      obtain ⟨_, htaken, heq⟩ := Option.map_eq_some_iff.mp hworst
      cases heq
      have hid : rollout.strategy.id = other := (wellFormed.rollouts hother).1
      refine ⟨rollout, hid ▸ hother, ?_⟩
      rw [Rollout.action_step, if_pos active, htaken]
    · rintro ⟨rollout, hrollout, htaken⟩
      have active := Rollout.isActive_of_action htaken
      rw [Rollout.action_step, if_pos active] at htaken
      have hid : rollout.strategy.id = name := (wellFormed.rollouts hrollout).1
      exact ⟨rollout, ⟨⟨name, hrollout⟩, active⟩, by rw [htaken, hid, Option.map_some]⟩
  refine Option.ext fun action => ?_
  rw [actionsTaken, Table.get?_ofList_eq_some_iff, hmem]
  · simp [stored]
  · intro name v w hv hw
    obtain ⟨first, hfirst, hv⟩ := (hmem name v).mp hv
    obtain ⟨second, hsecond, hw⟩ := (hmem name w).mp hw
    rw [hfirst] at hsecond
    cases hsecond
    exact Option.some.inj (hv.symm.trans hw)

/-- What the two passes come to does not depend on the orders. -/
theorem WellFormed.rolloutSweepListed_eq (wellFormed : engine.WellFormed)
    {first second : List (String × Rollout)} (hfirst : first.Perm engine.rollouts.entries)
    (hsecond : second.Perm engine.rollouts.entries) (metrics : Metrics) (now : Instant) :
    engine.rolloutSweepListed first second metrics now =
      ((engine.monitorRollouts metrics now).engine,
        (engine.monitorRollouts metrics now).answer) := by
  have hpasses : (second.map fun e => (e.1,
      e.2.pass ((actionsTaken (first.map (·.2)) metrics).get? e.1) now)) =
      second.map fun e => (e.1, e.2.pass (e.2.step metrics now).action now) := by
    refine List.map_congr_left fun e he => ?_
    have stored := Table.mem_entries_iff.mp (hsecond.mem_iff.mp he)
    rw [wellFormed.get?_actionsTaken (hfirst.map _) stored metrics now]
  simp only [pass_step] at hpasses
  have htable := Table.ofList_map_of_perm hsecond fun _ rollout => rollout.swept metrics now
  have hidsWith : ∀ action : SafetyAction,
      (((second.filter fun e => (e.2.step metrics now).action = some action).map
          (·.1)).mergeSort fun a b => Text.bytes a ≤ Text.bytes b) =
        ((engine.sweepSteps metrics now).entries.filter
          fun e => e.2.2.action = some action).map (·.1) := by
    intro action
    refine Text.mergeSort_eq_of_ascending (fun id => id) ?_
      (increasing_idsWith engine metrics now action)
    simp only [sweepSteps, Table.map, List.filter_map, List.map_map, Function.comp_def]
    exact (hsecond.filter _).map _
  have hadvanced : ((second.filterMap fun e =>
      (e.2.step metrics now).advancedTo.map (e.1, ·)).mergeSort fun a b =>
        Text.bytes a.1 < Text.bytes b.1 ∨ a.1 = b.1 ∧ Text.bytes a.2 ≤ Text.bytes b.2) =
        (engine.monitorRollouts metrics now).answer.advanced := by
    refine Text.mergeSort_pairs_eq_of_ascending ?_ (increasing_advanced engine metrics now)
    simp only [monitorRollouts, Table.map, List.filterMap_map, Function.comp_def]
    exact hsecond.filterMap _
  have hengine : (engine.monitorRollouts metrics now).engine =
      { engine with
        rollouts := engine.rollouts.map fun _ rollout => rollout.swept metrics now } := by
    rw [(wellFormed.rolloutsSweptAs metrics now).frame, rollouts_monitorRollouts]
    rfl
  rw [rolloutSweepListed, hengine]
  simp only [hpasses, List.map_map, List.filter_map, List.filterMap_map, Function.comp_def,
    hadvanced, hidsWith, htable]
  rfl

/-! ## The sweep -/

/-- **What a sweep does to rollouts.** In whatever engine operations have led to, a sweep makes of
every rollout what it finds, and names what has changed. It asks for no metrics but those of the
checks of active rollouts, a second sweep at the same time finds nothing left to do, and it does not
matter in which orders the registry is walked through. -/
theorem rollout_sweep (reachable : Reachable engine) (metrics : Metrics) (now : Instant) :
    engine.RolloutsSweptAs metrics now (engine.monitorRollouts metrics now) ∧
    (∀ other : Metrics,
      (∀ id rollout, engine.rollouts.get? id = some rollout →
        rollout.progress.paused = false → rollout.progress.rolledBack = false →
        ∀ check ∈ rollout.strategy.safetyChecks,
          other id check.metric check.window = metrics id check.metric check.window) →
      engine.monitorRollouts other now = engine.monitorRollouts metrics now) ∧
    (((engine.monitorRollouts metrics now).engine.monitorRollouts metrics now).engine =
        (engine.monitorRollouts metrics now).engine ∧
      ((engine.monitorRollouts metrics now).engine.monitorRollouts metrics now).answer = {}) ∧
    (∀ first second : List (String × Rollout),
      first.Perm engine.rollouts.entries → second.Perm engine.rollouts.entries →
      engine.rolloutSweepListed first second metrics now =
        ((engine.monitorRollouts metrics now).engine,
          (engine.monitorRollouts metrics now).answer)) := by
  have wellFormed := reachable.wellFormed
  refine ⟨wellFormed.rolloutsSweptAs metrics now, ?_, wellFormed.monitorRollouts_again metrics now,
    ?_⟩
  · intro other agree
    exact wellFormed.monitorRollouts_congr agree now
  · intro first second hfirst hsecond
    exact wellFormed.rolloutSweepListed_eq hfirst hsecond metrics now

/-! ### Too many errors

Three strategies grow at the same pace and are watched by a check on the rate of errors. One is
paused when it fails. The others ask for a rollback, which only one of them does on its own. The
rings are paused beforehand, so nothing happens to them. -/

/-- A check that asks for a rollback when there are too many errors. -/
def errorCheck : SafetyCheck :=
  { metric := "error_rate", threshold := 5.0, operator := .lessThan, action := .rollback }

/-- Growing shares of the users that are taken back when there are too many errors. -/
def guarded : Strategy := { Strategy.gradual with id := "guarded", safetyChecks := [errorCheck] }

/-- The same, but somebody has to decide about it. -/
def careful : Strategy := { guarded with id := "careful", rollback := {} }

/-- An engine with rollouts of all of them. -/
def watchedEngine : Engine :=
  (Engine.standard (Progress.atHour 0)).engine.run
    [(Progress.atHour 0, .registerStrategy guarded), (Progress.atHour 0, .registerStrategy careful),
      (Progress.atHour 1, .pauseRollout "ring_deployment")]

/-- Too many errors, and nothing else is known. -/
def manyErrors : Metrics := fun _ metric _ => if metric = "error_rate" then some 7.5 else none

/-- The paused rollout. -/
def pausedRings : Rollout :=
  { strategy := .rings, progress := { Progress.start (Progress.atHour 0) with paused := true } }

/-- A sweep after thirty hours. -/
def watchedSweep : Outcome RolloutSweep :=
  watchedEngine.monitorRollouts manyErrors (Progress.atHour 30)

theorem rollout_sweep_watched :
    Reachable watchedEngine ∧
      watchedEngine.RolloutsSweptAs manyErrors (Progress.atHour 30) watchedSweep ∧
      watchedSweep.answer =
        { advanced :=
            [("careful", "stage2"), ("guarded", "stage2"), ("percentage_gradual", "stage2")]
          paused := ["careful", "percentage_gradual"]
          rolledBack := ["guarded"] } ∧
      watchedSweep.engine.rollouts.get? "ring_deployment" = some pausedRings ∧
      watchedSweep.engine.rollouts.get? "guarded" = some
        ⟨guarded, (((Progress.start (Progress.atHour 0)).tick guarded (Progress.atHour 30)).rollback
          guarded (Progress.atHour 30))⟩ ∧
      (watchedSweep.engine.monitorRollouts manyErrors (Progress.atHour 30)).answer = {} ∧
      watchedEngine.rolloutSweepListed watchedEngine.rollouts.entries.reverse
          watchedEngine.rollouts.entries manyErrors (Progress.atHour 30) =
        (watchedSweep.engine, watchedSweep.answer) := by
  have reachable : Reachable watchedEngine := (Reachable.constructed (.standard _)).run _
  have stored : watchedEngine.rollouts.get? "ring_deployment" = some pausedRings := by rfl
  have registered : watchedEngine.rollouts.get? "guarded" =
      some ⟨guarded, .start (Progress.atHour 0)⟩ := by rfl
  have worst : guarded.Worst manyErrors .rollback := by
    have fails : errorCheck.Fails guarded.id manyErrors := ⟨7.5, rfl, by decide +kernel⟩
    refine ⟨.asked List.mem_cons_self fails fun _ => rfl, fun other _ => ?_⟩
    cases other <;> decide
  obtain ⟨swept, -, ⟨-, hagain⟩, hlisted⟩ :=
    rollout_sweep reachable manyErrors (Progress.atHour 30)
  refine ⟨reachable, swept, by decide +kernel, ?_, ?_, hagain, ?_⟩
  · exact swept.frozen _ _ stored (.inl rfl)
  · exact swept.failed _ _ _ registered rfl rfl worst
  · exact hlisted _ _ (List.reverse_perm _) (.refl _)

end Engine

end FeatureTrials
