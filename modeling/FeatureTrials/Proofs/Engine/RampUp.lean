import FeatureTrials.Proofs.Engine.Evaluation
import FeatureTrials.Proofs.Engine.RolloutChange
import FeatureTrials.Proofs.Engine.RolloutSweep
import FeatureTrials.Proofs.Rollout.RampUp

/-!
# Ramping up never drops a user

As long as a rollout is neither rolled back nor begun anew, its active stage only moves forward,
whatever else is done to the engine. If the shares of its strategy do not shrink, whoever has got
its flags once keeps them.

* `RollsBack`, `Upholds` — what a run must not do for this.
* `Rollout.GrowsTo` — a rollout at one time compared with itself at a later one.
-/

namespace FeatureTrials

/-! ## One rollout -/

/-- The rollout at a later time has the same strategy, is on no earlier stage, and has not been
rolled back in between. -/
structure Rollout.GrowsTo (since later : Instant) (before after : Rollout) : Prop where
  strategy_eq : after.strategy = before.strategy
  index_le : (before.progress.resolve before.strategy since).index ≤
    (after.progress.resolve after.strategy later).index
  kept : before.progress.rolledBack = false → after.progress.rolledBack = false

namespace Rollout.GrowsTo

variable {first second third : Instant} {r s t : Rollout}

/-- While nothing is done, a rollout grows. -/
theorem of_le (hle : first ≤ second) (r : Rollout) : GrowsTo first second r r :=
  ⟨rfl, Progress.resolve_index_mono r.strategy hle r.progress, id⟩

theorem trans (hrs : GrowsTo first second r s) (hst : GrowsTo second third s t) :
    GrowsTo first third r t :=
  ⟨hst.strategy_eq.trans hrs.strategy_eq, Nat.le_trans hrs.index_le hst.index_le,
    fun kept => hst.kept (hrs.kept kept)⟩

/-- Whoever is reached by a rollout of growing shares is still reached later. -/
theorem reaches {user : User} (grows : GrowsTo first second r s) (ascending : r.strategy.Ascending)
    (reached : r.progress.reaches r.strategy user first = true) :
    s.progress.reaches s.strategy user second = true := by
  have kept := grows.kept (Progress.reaches_iff.mp reached).1
  have hle := grows.index_le
  rw [grows.strategy_eq] at hle ⊢
  exact Progress.reaches_of_index_le ascending hle kept reached

end Rollout.GrowsTo

namespace Engine

variable {engine : Engine} {now asked later : Instant} {operation : Operation} {id : String}
  {rollout : Rollout}

/-! ## Runs without a rollback -/

/-- An operation rolls a rollout back: somebody asks for it, or a safety check. -/
inductive RollsBack (engine : Engine) (now : Instant) (id : String) : Operation → Prop
  | asked : RollsBack engine now id (.rollBack id)
  | swept {metrics : Metrics} :
      id ∈ (engine.monitorRollouts metrics now).answer.rolledBack →
      RollsBack engine now id (.monitorRollouts metrics)

/-- A run neither rolls a rollout back nor begins it anew. -/
def Upholds (id : String) : Engine → List (Instant × Operation) → Prop
  | _, [] => True
  | engine, (now, operation) :: rest =>
    ¬ operation.Registers id ∧ ¬ engine.RollsBack now id operation ∧
      Upholds id (engine.step now operation) rest

/-- A step by hand other than a rollback leaves a rollout growing. -/
theorem growsTo_after {step : Progress.Step} (asked : operation.control? = some (id, step))
    (upheld : ¬ engine.RollsBack now id operation) (rollout : Rollout) :
    rollout.GrowsTo now now
      { rollout with progress := rollout.progress.after rollout.strategy now step } := by
  have hstep : step ≠ .rollback := by
    rintro rfl
    cases operation <;> cases asked
    exact upheld .asked
  have hcheck : step ≠ .apply .rollback := by
    rintro rfl
    cases operation <;> cases asked
  refine ⟨rfl, Progress.resolve_index_le_after rollout.strategy rollout.progress now step, ?_⟩
  intro kept
  exact Progress.rolledBack_after kept hstep hcheck now

/-- A sweep that does not roll a rollout back leaves it growing. -/
theorem growsTo_swept {metrics : Metrics} (stored : engine.rollouts.get? id = some rollout)
    (inRange : rollout.InRange) (upheld : ¬ engine.RollsBack now id (.monitorRollouts metrics)) :
    rollout.GrowsTo now now (rollout.swept metrics now) := by
  refine ⟨rfl, ?_, fun kept => ?_⟩
  · have hticked :=
      Progress.resolve_index_le_after rollout.strategy rollout.progress now .tick
    rw [Rollout.swept]
    rcases rollout.progress_step metrics now with heq | ⟨action, heq⟩
    · rw [heq]
      exact hticked
    · rw [heq]
      exact Nat.le_trans hticked
        (Progress.resolve_index_le_after rollout.strategy _ now (.apply action))
  · cases hafter : (rollout.swept metrics now).progress.rolledBack with
    | false => rfl
    | true =>
      have taken := (Rollout.action_step_eq_rollback_iff inRange).mpr ⟨kept, hafter⟩
      exact absurd (.swept (mem_rolledBack_iff.mpr ⟨rollout, stored, taken⟩)) upheld

/-- What upholds a rollout leaves it growing. -/
theorem WellFormed.growsTo_step (wellFormed : engine.WellFormed)
    (stored : engine.rollouts.get? id = some rollout) (unregistered : ¬ operation.Registers id)
    (upheld : ¬ engine.RollsBack now id operation) :
    ∃ changed, (engine.step now operation).rollouts.get? id = some changed ∧
      rollout.GrowsTo now now changed := by
  have inRange := wellFormed.inRange stored
  have change := rolloutChange_step wellFormed.keyed now operation id
  rw [stored] at change
  generalize (engine.step now operation).rollouts.get? id = after at change
  cases change with
  | kept => exact ⟨rollout, rfl, .of_le (Instant.le_refl now) rollout⟩
  | registered _ hid valid => exact absurd ⟨hid, valid⟩ unregistered
  | stepped _ asked => exact ⟨_, rfl, growsTo_after asked upheld rollout⟩
  | monitored metrics => exact ⟨_, rfl, growsTo_swept stored inRange upheld⟩

/-- A run that upholds a rollout leaves it growing from one reading of the clock to another, as long
as the clock does not go back. -/
theorem WellFormed.growsTo_run (wellFormed : engine.WellFormed)
    (stored : engine.rollouts.get? id = some rollout) {operations : List (Instant × Operation)}
    (ordered : (asked :: (operations.map (·.1) ++ [later])).Pairwise (· ≤ ·))
    (upheld : engine.Upholds id operations) :
    ∃ changed, (engine.run operations).rollouts.get? id = some changed ∧
      rollout.GrowsTo asked later changed := by
  induction operations generalizing engine rollout asked with
  | nil =>
    have hle : asked ≤ later := (List.pairwise_cons.mp ordered).1 later List.mem_cons_self
    exact ⟨rollout, stored, .of_le hle rollout⟩
  | cons head rest ih =>
    obtain ⟨now, operation⟩ := head
    obtain ⟨hasked, hrest⟩ := List.pairwise_cons.mp ordered
    obtain ⟨unregistered, kept, upheld⟩ := upheld
    obtain ⟨between, hbetween, hstep⟩ := wellFormed.growsTo_step stored unregistered kept
    obtain ⟨changed, hchanged, hrun⟩ := ih (wellFormed.step now operation) hbetween hrest upheld
    have hfirst : rollout.GrowsTo asked now rollout :=
      .of_le (hasked now List.mem_cons_self) rollout
    exact ⟨changed, hchanged, (hfirst.trans hstep).trans hrun⟩

/-! ## The ramp -/

theorem activeStage_eq_ok {stage : Stage} (stored : engine.rollouts.get? id = some rollout)
    (hactive : engine.activeStage id now = .ok stage) :
    rollout.progress.activeStage? rollout.strategy now = some stage := by
  simp only [activeStage, Engine.rollout, find, stored, bind, Except.bind] at hactive
  split at hactive
  · next hstage =>
    cases hactive
    exact hstage
  · cases hactive

/-- A stage of zero percent reaches nobody. -/
theorem reaches_of_zero {stage : Stage} (stored : engine.rollouts.get? id = some rollout)
    (hactive : engine.activeStage id now = .ok stage) (hzero : (stage.percentage == 0.0) = true)
    (user : User) : engine.reaches id user now = .ok false := by
  refine reaches_eq_ok_iff.mpr ⟨rollout, stored, Bool.eq_false_iff.mpr fun reached => ?_⟩
  obtain ⟨-, other, hother, reaches⟩ := Progress.reaches_iff.mp reached
  rw [activeStage_eq_ok stored hactive] at hother
  cases hother
  exact Stage.not_reaches_of_zero hzero reaches

/-- A stage of a hundred percent reaches everybody, unless it is rolled back. -/
theorem reaches_of_hundred {stage : Stage} (stored : engine.rollouts.get? id = some rollout)
    (kept : rollout.progress.rolledBack = false) (hactive : engine.activeStage id now = .ok stage)
    (hfull : (stage.percentage == 100.0) = true) (user : User) :
    engine.reaches id user now = .ok true :=
  reaches_eq_ok_iff.mpr ⟨rollout, stored,
    Progress.reaches_iff.mpr ⟨kept, stage, activeStage_eq_ok stored hactive,
      Stage.reaches_of_hundred hfull⟩⟩

/-- **A ramp-up never drops a user.** In a run at times that do not decrease, in which the rollout
is neither rolled back nor begun anew, its active stage is never an earlier one, and if the shares
of its strategy do not shrink, whoever is reached at one time is reached at every later one. Nobody
is reached by a stage of zero percent, and everybody by one of a hundred percent. -/
theorem ramp_up (reachable : Reachable engine) (stored : engine.rollouts.get? id = some rollout)
    (ascending : rollout.strategy.Ascending) (operations : List (Instant × Operation))
    (ordered : (asked :: (operations.map (·.1) ++ [later])).Pairwise (· ≤ ·))
    (upheld : engine.Upholds id operations) :
    (∃ grown, (engine.run operations).rollouts.get? id = some grown ∧
      grown.strategy = rollout.strategy ∧
      (rollout.progress.resolve rollout.strategy asked).index ≤
        (grown.progress.resolve rollout.strategy later).index) ∧
    (∀ user, engine.reaches id user asked = .ok true →
      (engine.run operations).reaches id user later = .ok true) ∧
    (∀ stage, (engine.run operations).activeStage id later = .ok stage →
      ((stage.percentage == 0.0) = true →
        ∀ user, (engine.run operations).reaches id user later = .ok false) ∧
      ((stage.percentage == 100.0) = true → rollout.progress.rolledBack = false →
        ∀ user, (engine.run operations).reaches id user later = .ok true)) := by
  obtain ⟨grown, hgrown, grows⟩ := reachable.wellFormed.growsTo_run stored ordered upheld
  refine ⟨⟨grown, hgrown, grows.strategy_eq, ?_⟩, ?_, ?_⟩
  · have hle := grows.index_le
    rwa [grows.strategy_eq] at hle
  · intro user reached
    obtain ⟨other, hother, hreaches⟩ := reaches_eq_ok_iff.mp reached
    rw [stored] at hother
    cases hother
    exact reaches_eq_ok_iff.mpr ⟨grown, hgrown, grows.reaches ascending hreaches⟩
  · intro stage hactive
    refine ⟨fun hzero user => reaches_of_zero hgrown hactive hzero user, ?_⟩
    intro hfull kept user
    exact reaches_of_hundred hgrown (grows.kept kept) hactive hfull user

/-! ### A ramp-up with interruptions

The second of four stages reaches a quarter of the users. The rollout is paused twice, once by an
operator and once because of too many errors, resumed each time, and advanced by hand. -/

/-- An engine nobody has touched. -/
def freshEngine : Engine := (Engine.standard (Progress.atHour 0)).engine

/-- What is done to the rollout after a day. -/
def interruptions : List (Instant × Operation) :=
  [(Progress.atHour 26, .pauseRollout "percentage_gradual"),
    (Progress.atHour 30, .resumeRollout "percentage_gradual"),
    (Progress.atHour 31, .monitorRollouts manyErrors),
    (Progress.atHour 40, .advanceRollout "percentage_gradual"),
    (Progress.atHour 50, .resumeRollout "percentage_gradual")]

theorem ramp_up_gradual :
    Reachable freshEngine ∧
      freshEngine.rollouts.get? "percentage_gradual" =
        some ⟨.gradual, .start (Progress.atHour 0)⟩ ∧
      Strategy.gradual.Ascending ∧
      (Progress.atHour 25 :: (interruptions.map (·.1) ++ [Progress.atHour 51])).Pairwise (· ≤ ·) ∧
      freshEngine.Upholds "percentage_gradual" interruptions ∧
      freshEngine.reaches "percentage_gradual" { id := "user8" } (Progress.atHour 25) = .ok true ∧
      (freshEngine.run interruptions).reaches "percentage_gradual" { id := "user8" }
        (Progress.atHour 51) = .ok true := by
  have reachable : Reachable freshEngine := .constructed (.standard _)
  have stored : freshEngine.rollouts.get? "percentage_gradual" =
      some ⟨.gradual, .start (Progress.atHour 0)⟩ := rfl
  have ascending : Strategy.gradual.Ascending := by
    unfold Strategy.Ascending
    decide +kernel
  have ordered : (Progress.atHour 25 ::
      (interruptions.map (·.1) ++ [Progress.atHour 51])).Pairwise (· ≤ ·) := by decide
  have upheld : freshEngine.Upholds "percentage_gradual" interruptions := by
    refine ⟨nofun, nofun, nofun, nofun, nofun, ?_, nofun, nofun, nofun, nofun, trivial⟩
    rintro (_ | rolledBack)
    revert rolledBack
    decide +kernel
  have reached : freshEngine.reaches "percentage_gradual" { id := "user8" } (Progress.atHour 25) =
      .ok true := reaches_eq_ok_iff.mpr ⟨_, stored, by decide +kernel⟩
  obtain ⟨-, hkeeps, -⟩ := ramp_up reachable stored ascending interruptions ordered upheld
  exact ⟨reachable, stored, ascending, ordered, upheld, reached, hkeeps _ reached⟩

end Engine

end FeatureTrials
