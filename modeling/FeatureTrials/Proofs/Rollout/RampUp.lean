import FeatureTrials.Proofs.Decimal.Operations
import FeatureTrials.Proofs.Decimal.Order
import FeatureTrials.Proofs.Rollout.Transparency

/-!
# Growing shares

Of a strategy whose stages reach growing shares of the users, a later stage reaches everybody whom
an earlier one reaches, for the bucket of a user stays the same. And no step takes a rollout to an
earlier stage, unless it is begun anew.

* `Strategy.Ascending` — the shares do not shrink from one stage to the next.
* `Progress.resolve_index_le_after` — no step takes a rollout back.
* `Progress.reaches_of_index_le` — a later stage reaches the users of an earlier one.
-/

namespace FeatureTrials

/-- The shares of the users do not shrink from one stage to the next. -/
def Strategy.Ascending (strategy : Strategy) : Prop :=
  strategy.stages.IsChain fun a b => a.percentage ≤ b.percentage

variable {strategy : Strategy} {progress : Progress} {user : User} {now later : Instant}

/-! ## Shares of the users -/

/-- So they do not shrink from any stage to a later one. -/
theorem Strategy.Ascending.pairwise (ascending : strategy.Ascending) :
    strategy.stages.Pairwise fun a b => a.percentage ≤ b.percentage := by
  have : IsTrans Stage fun a b => a.percentage ≤ b.percentage := ⟨fun _ _ _ => Decimal.le_trans⟩
  exact List.isChain_iff_pairwise.mp ascending

/-- All buckets are between zero and a hundred. -/
theorem Bucket.bounds {n : ℕ} (hindex : n < 100) :
    ¬ Decimal.ofNat n < 0.0 ∧ Decimal.ofNat n < 100.0 := by
  have hle : (n : ℚ) ≤ 99 := by exact_mod_cast Nat.le_of_lt_succ hindex
  obtain ⟨b, hb, hbound⟩ := Decimal.atMost_ofNat (hindex.trans (by decide))
  have hleast := Decimal.least_le_unit
  rw [Decimal.unit_eq] at hbound hleast
  refine ⟨Decimal.not_lt_of_le (Decimal.zero_le_of_exactly hb), ?_⟩
  exact Decimal.lt_of_exactly hb Decimal.hundred_exactly (by linarith)

theorem Bucket.coarse_lt (scope user : String) : coarse scope user < 100 :=
  Nat.mod_lt _ (by decide)

namespace Stage

/-- A stage reaches a user of a strategy: the bucket of the user is below the share. -/
def Reaches (stage : Stage) (strategyId : String) (user : User) : Prop :=
  Decimal.ofNat (Bucket.coarse strategyId user.id) < stage.percentage

variable {stage other : Stage} {strategyId : String}

theorem Reaches.mono (reaches : stage.Reaches strategyId user)
    (hle : stage.percentage ≤ other.percentage) : other.Reaches strategyId user :=
  Decimal.lt_of_lt_of_le reaches hle

/-- A share of zero includes nobody. -/
theorem not_reaches_of_zero (hzero : (stage.percentage == 0.0) = true) :
    ¬ stage.Reaches strategyId user := fun reaches =>
  (Bucket.bounds (Bucket.coarse_lt strategyId user.id)).1
    (Decimal.lt_of_lt_of_le reaches (Decimal.le_of_beq hzero).1)

/-- A share of a hundred includes everybody. -/
theorem reaches_of_hundred (hfull : (stage.percentage == 100.0) = true) :
    stage.Reaches strategyId user :=
  Decimal.lt_of_lt_of_le (Bucket.bounds (Bucket.coarse_lt strategyId user.id)).2
    (Decimal.le_of_beq hfull).2

end Stage

namespace Progress

theorem reaches_iff :
    progress.reaches strategy user now = true ↔
      progress.rolledBack = false ∧
        ∃ stage, progress.activeStage? strategy now = some stage ∧
          stage.Reaches strategy.id user := by
  rw [reaches, Bool.and_eq_true, Bool.not_eq_true']
  cases progress.activeStage? strategy now with
  | none => simp
  | some stage => simp [Stage.Reaches]

/-- The later of two stages reaches whom the earlier one reaches. -/
theorem reaches_of_index_le {grown : Progress} (ascending : strategy.Ascending)
    (hle : (progress.resolve strategy now).index ≤ (grown.resolve strategy later).index)
    (kept : grown.rolledBack = false) (reaches : progress.reaches strategy user now = true) :
    grown.reaches strategy user later = true := by
  obtain ⟨-, stage, hactive, reached⟩ := reaches_iff.mp reaches
  obtain ⟨hlt, hstage⟩ := List.getElem?_eq_some_iff.mp hactive
  have stages : strategy.stages ≠ [] := List.length_pos_iff.mp (Nat.zero_lt_of_lt hlt)
  have hlater := resolve_index_lt stages grown later
  refine reaches_iff.mpr ⟨kept, _, List.getElem?_eq_getElem hlater, ?_⟩
  rcases Nat.lt_or_eq_of_le hle with hless | heq
  · have hshares := List.pairwise_iff_getElem.mp ascending.pairwise _ _ hlt hlater hless
    rw [hstage] at hshares
    exact reached.mono hshares
  · simp only [← heq, hstage]
    exact reached

/-! ## Steps -/

/-- No step takes a rollout to an earlier stage. -/
theorem resolve_index_le_after (strategy : Strategy) (progress : Progress) (now : Instant)
    (step : Step) :
    (progress.resolve strategy now).index ≤
      ((progress.after strategy now step).resolve strategy now).index := by
  -- it is enough that the stage is committed that has been active
  have of_committed : ∀ q : Progress,
      (progress.resolve strategy now).index ≤ (q.committed strategy).index →
      (progress.resolve strategy now).index ≤ (q.resolve strategy now).index :=
    fun q hle => Nat.le_trans hle (committed_index_le_resolve strategy q now)
  have hticked := congrArg Position.index (committed_tick strategy progress now)
  cases step with
  | tick => exact of_committed _ (Nat.le_of_eq hticked.symm)
  | advance =>
    rw [after, advance]
    split
    · next hadvance =>
      refine of_committed _ ?_
      simp only [canAdvance, Bool.and_eq_true, decide_eq_true_eq] at hadvance
      have hindex : (progress.tick strategy now).stageIndex =
          (progress.resolve strategy now).index := rfl
      rw [committed]
      dsimp only
      omega
    · exact of_committed _ (Nat.le_of_eq hticked.symm)
  | pause => exact of_committed _ (Nat.le_of_eq hticked.symm)
  | resume =>
    rw [after, resume]
    split
    · next paused =>
      refine of_committed _ ?_
      rw [resolve_of_frozen strategy (by rw [paused, Bool.true_or])]
      exact Nat.le_refl _
    · exact Nat.le_refl _
  | rollback => exact of_committed _ (Nat.le_of_eq hticked.symm)
  | apply action =>
    cases action with
    | alert => exact Nat.le_refl _
    | pause => exact of_committed _ (Nat.le_of_eq hticked.symm)
    | rollback => exact of_committed _ (Nat.le_of_eq hticked.symm)

/-- Only a rollback rolls a rollout back. -/
theorem rolledBack_after (kept : progress.rolledBack = false) {step : Step}
    (hstep : step ≠ .rollback) (hcheck : step ≠ .apply .rollback) (now : Instant) :
    (progress.after strategy now step).rolledBack = false := by
  cases step with
  | tick => exact kept
  | advance =>
    rw [after, advance]
    split
    · exact kept
    · exact kept
  | pause => exact kept
  | resume =>
    rw [after, resume]
    split
    · exact kept
    · exact kept
  | rollback => exact absurd rfl hstep
  | apply action =>
    cases action with
    | alert => exact kept
    | pause => exact kept
    | rollback => exact absurd rfl hcheck

end Progress

end FeatureTrials
