import FeatureTrials.Proofs.Time.Order
import FeatureTrials.Rollout.Progress

/-!
# Walking over elapsed stages

The active stage of a rollout is computed by a walk over the stages that have elapsed. The walk
composes over time: one that is broken off at an instant and taken up again at a later one ends
where a single walk at the later instant ends (`Position.settle_settle`). So committing what has
been computed does not change what is computed from then on (`Progress.resolve_tick`).
-/

namespace FeatureTrials

namespace Stage

variable {stage : Stage} {start now later stop : Instant}

/-- A stage has elapsed when it completes on its own and its end is not later. -/
theorem elapsedBy_eq_some_iff :
    stage.elapsedBy start now = some stop ↔
      stage.autoAdvance = true ∧ stage.duration.isZero = false ∧
        start.add? stage.duration = some stop ∧ stop ≤ now := by
  rw [elapsedBy]
  split
  · next h =>
    rw [Bool.or_eq_true, Bool.not_eq_true'] at h
    constructor
    · intro hnone
      cases hnone
    · rintro ⟨hauto, hspan, -⟩
      rw [hauto, hspan] at h
      exact absurd h (by decide)
  · next h =>
    rw [Bool.or_eq_true, Bool.not_eq_true', not_or, Bool.not_eq_false, Bool.not_eq_true] at h
    rw [Option.filter_eq_some_iff, decide_eq_true_iff]
    exact ⟨fun hstop => ⟨h.1, h.2, hstop⟩, fun hstop => hstop.2.2⟩

/-- A stage that has elapsed stays elapsed, since the same instant. -/
theorem elapsedBy_mono (hle : now ≤ later) (h : stage.elapsedBy start now = some stop) :
    stage.elapsedBy start later = some stop := by
  obtain ⟨hauto, hspan, hadd, hstop⟩ := elapsedBy_eq_some_iff.mp h
  exact elapsedBy_eq_some_iff.mpr ⟨hauto, hspan, hadd, Instant.le_trans hstop hle⟩

/-- A stage that begins now has not elapsed. -/
theorem elapsedBy_self (stage : Stage) (now : Instant) : stage.elapsedBy now now = none := by
  rw [Option.eq_none_iff_forall_ne_some]
  intro stop helapsed
  obtain ⟨-, hspan, hadd, hstop⟩ := elapsedBy_eq_some_iff.mp helapsed
  exact Instant.not_lt.mpr hstop (Instant.lt_of_add? hspan hadd)

end Stage

namespace Position

theorem settle_nil (now : Instant) (position : Position) : position.settle now [] = position := by
  rw [settle]
  intro _ _ _ h
  cases h

theorem settle_singleton (now : Instant) (position : Position) (stage : Stage) :
    position.settle now [stage] = position := by
  rw [settle]
  intro _ _ _ h
  cases h

/-- The walk goes on behind a stage that has elapsed. -/
theorem settle_of_elapsed {now stop : Instant} {position : Position} {stage : Stage}
    (next : Stage) (rest : List Stage)
    (h : stage.elapsedBy position.startedAt now = some stop) :
    position.settle now (stage :: next :: rest) =
      settle now ⟨position.index + 1, stop⟩ (next :: rest) := by
  rw [settle, h]

/-- The walk stops at a stage that has not elapsed. -/
theorem settle_of_not_elapsed {now : Instant} {position : Position} {stage : Stage}
    (rest : List Stage) (h : stage.elapsedBy position.startedAt now = none) :
    position.settle now (stage :: rest) = position := by
  cases rest with
  | nil => exact settle_singleton now position stage
  | cons next rest => rw [settle, h]

/-- The walk only goes forward. -/
theorem index_le_settle (now : Instant) (stages : List Stage) (position : Position) :
    position.index ≤ (position.settle now stages).index := by
  induction stages generalizing position with
  | nil => exact Nat.le_of_eq (by rw [settle_nil])
  | cons stage rest ih =>
    cases helapsed : stage.elapsedBy position.startedAt now with
    | none => exact Nat.le_of_eq (by rw [settle_of_not_elapsed rest helapsed])
    | some stop =>
      cases rest with
      | nil => exact Nat.le_of_eq (by rw [settle_singleton])
      | cons next rest =>
        rw [settle_of_elapsed next rest helapsed]
        exact Nat.le_trans (Nat.le_succ _) (ih ⟨position.index + 1, stop⟩)

/-- The walk does not leave the stages. -/
theorem settle_index_le (now : Instant) (stages : List Stage) (position : Position) :
    (position.settle now stages).index ≤ position.index + (stages.length - 1) := by
  induction stages generalizing position with
  | nil => rw [settle_nil]; exact Nat.le_add_right _ _
  | cons stage rest ih =>
    cases helapsed : stage.elapsedBy position.startedAt now with
    | none => rw [settle_of_not_elapsed rest helapsed]; exact Nat.le_add_right _ _
    | some stop =>
      cases rest with
      | nil => rw [settle_singleton]; exact Nat.le_add_right _ _
      | cons next rest =>
        rw [settle_of_elapsed next rest helapsed]
        have := ih ⟨position.index + 1, stop⟩
        simp only [List.length_cons] at this ⊢
        omega

/-- A walk that is broken off at an instant and taken up again at a later one ends where a single
walk at the later instant ends. -/
theorem settle_settle {now later : Instant} (hle : now ≤ later) (stages : List Stage)
    (position : Position) :
    (position.settle now stages).settle later
        (stages.drop ((position.settle now stages).index - position.index)) =
      position.settle later stages := by
  induction stages generalizing position with
  | nil => rw [settle_nil, List.drop_nil]
  | cons stage rest ih =>
    cases helapsed : stage.elapsedBy position.startedAt now with
    | none => rw [settle_of_not_elapsed rest helapsed, Nat.sub_self, List.drop_zero]
    | some stop =>
      cases rest with
      | nil => rw [settle_singleton, Nat.sub_self, List.drop_zero]
      | cons next rest =>
        -- past the first stage the broken-off walk has one stage less left to drop
        have hforward := index_le_settle now (next :: rest) ⟨position.index + 1, stop⟩
        have hsub : (settle now ⟨position.index + 1, stop⟩ (next :: rest)).index - position.index =
            (settle now ⟨position.index + 1, stop⟩ (next :: rest)).index - (position.index + 1)
              + 1 := by
          simp only at hforward
          omega
        rw [settle_of_elapsed next rest helapsed,
          settle_of_elapsed next rest (Stage.elapsedBy_mono hle helapsed), hsub,
          List.drop_succ_cons]
        exact ih ⟨position.index + 1, stop⟩

end Position

namespace Progress

variable (progress : Progress) (strategy : Strategy)

/-- The position that has been committed, within the stages of the strategy. -/
def committed : Position :=
  ⟨min progress.stageIndex (strategy.stages.length - 1), progress.stageStartedAt⟩

variable {progress}

/-- While a rollout is paused or rolled back, the committed position counts. -/
theorem resolve_of_frozen (h : (progress.paused || progress.rolledBack) = true) (now : Instant) :
    progress.resolve strategy now = progress.committed strategy := by
  rw [resolve, if_pos h]
  rfl

/-- Otherwise the walk goes on from the committed position. -/
theorem resolve_of_active (h : (progress.paused || progress.rolledBack) = false) (now : Instant) :
    progress.resolve strategy now =
      (progress.committed strategy).settle now
        (strategy.stages.drop (progress.committed strategy).index) := by
  rw [resolve, if_neg (by rw [h]; exact Bool.false_ne_true)]
  rfl

/-- The active stage is one of the strategy, if it has any. -/
theorem resolve_index_le (progress : Progress) (now : Instant) :
    (progress.resolve strategy now).index ≤ strategy.stages.length - 1 := by
  cases h : progress.paused || progress.rolledBack with
  | true =>
    rw [resolve_of_frozen strategy h]
    exact Nat.min_le_right _ _
  | false =>
    rw [resolve_of_active strategy h]
    have hle := Position.settle_index_le now
      (strategy.stages.drop (progress.committed strategy).index) (progress.committed strategy)
    have hmin : (progress.committed strategy).index ≤ strategy.stages.length - 1 :=
      Nat.min_le_right _ _
    rw [List.length_drop] at hle
    omega

/-- A strategy with stages has an active one. -/
theorem resolve_index_lt {strategy : Strategy} (stages : strategy.stages ≠ [])
    (progress : Progress) (now : Instant) :
    (progress.resolve strategy now).index < strategy.stages.length := by
  have hle := resolve_index_le strategy progress now
  have hpos := List.length_pos_iff.mpr stages
  omega

/-- What has been computed at an instant is what is committed then. -/
theorem committed_tick (progress : Progress) (now : Instant) :
    (progress.tick strategy now).committed strategy = progress.resolve strategy now := by
  have hle := resolve_index_le strategy progress now
  rw [committed, tick]
  simp only [Nat.min_eq_left hle]

/-- Committing at an instant does not change what is computed from then on. -/
theorem resolve_tick {now later : Instant} (hle : now ≤ later) (progress : Progress) :
    (progress.tick strategy now).resolve strategy later = progress.resolve strategy later := by
  have hcommitted := committed_tick strategy progress now
  cases h : progress.paused || progress.rolledBack with
  | true =>
    have hticked : ((progress.tick strategy now).paused ||
        (progress.tick strategy now).rolledBack) = true := h
    rw [resolve_of_frozen strategy hticked, hcommitted, resolve_of_frozen strategy h,
      resolve_of_frozen strategy h]
  | false =>
    have hticked : ((progress.tick strategy now).paused ||
        (progress.tick strategy now).rolledBack) = false := h
    have hwalk := Position.settle_settle hle
      (strategy.stages.drop (progress.committed strategy).index) (progress.committed strategy)
    rw [List.drop_drop, Nat.add_sub_cancel' (Position.index_le_settle now _ _)] at hwalk
    rw [resolve_of_active strategy hticked, hcommitted, resolve_of_active strategy h,
      resolve_of_active strategy h]
    exact hwalk

/-- The active stage is not before the committed one. -/
theorem committed_index_le_resolve (progress : Progress) (now : Instant) :
    (progress.committed strategy).index ≤ (progress.resolve strategy now).index := by
  cases h : progress.paused || progress.rolledBack with
  | true => exact Nat.le_of_eq (by rw [resolve_of_frozen strategy h])
  | false =>
    rw [resolve_of_active strategy h]
    exact Position.index_le_settle now _ _

/-- A stage that begins now is active now. -/
theorem resolve_index_of_begun {strategy : Strategy}
    (inRange : progress.stageIndex < strategy.stages.length) :
    (progress.resolve strategy progress.stageStartedAt).index = progress.stageIndex := by
  have hcommitted : progress.committed strategy =
      ⟨progress.stageIndex, progress.stageStartedAt⟩ := by
    rw [committed, Nat.min_eq_left (by omega)]
  cases h : progress.paused || progress.rolledBack with
  | true => rw [resolve_of_frozen strategy h, hcommitted]
  | false =>
    have hbegun : strategy.stages[progress.stageIndex].elapsedBy
        (progress.committed strategy).startedAt progress.stageStartedAt = none :=
      Stage.elapsedBy_self _ _
    have hdrop : strategy.stages.drop (progress.committed strategy).index =
        strategy.stages[progress.stageIndex] :: strategy.stages.drop (progress.stageIndex + 1) := by
      rw [hcommitted, List.drop_eq_getElem_cons inRange]
    rw [resolve_of_active strategy h, hdrop, Position.settle_of_not_elapsed _ hbegun, hcommitted]

/-- While nothing is done, the active stage only moves forward. -/
theorem resolve_index_mono {now later : Instant} (hle : now ≤ later) (progress : Progress) :
    (progress.resolve strategy now).index ≤ (progress.resolve strategy later).index := by
  rw [← resolve_tick strategy hle progress, ← committed_tick strategy progress now]
  exact committed_index_le_resolve strategy _ later

/-- Committing twice at an instant is committing once. -/
theorem tick_tick (progress : Progress) (now : Instant) :
    (progress.tick strategy now).tick strategy now = progress.tick strategy now := by
  rw [tick, resolve_tick strategy (Instant.le_refl now)]
  rfl

/-- Nothing is committed while a rollout is paused or rolled back. -/
theorem tick_of_frozen {strategy : Strategy}
    (inRange : progress.stageIndex < strategy.stages.length)
    (h : (progress.paused || progress.rolledBack) = true) (now : Instant) :
    progress.tick strategy now = progress := by
  have hmin : min progress.stageIndex (strategy.stages.length - 1) = progress.stageIndex := by
    omega
  rw [tick, resolve_of_frozen strategy h, committed]
  simp only [hmin]

end Progress

end FeatureTrials
