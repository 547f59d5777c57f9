import FeatureTrials.Proofs.Engine.Registries

/-!
# What an operation makes of one rollout

Seen from a single id, an operation keeps the rollout, begins it anew, steps it by hand, or sweeps
it. `RolloutChange` lists these, and `rolloutChange_step` says that there are no others. So what is
true of a rollout until it is registered again is proved one kind of change at a time.

* `Operation.Registers` — a strategy is registered under an id.
* `RolloutChange` — the changes.
-/

namespace FeatureTrials

/-- The operation registers a valid strategy under an id. -/
def Operation.Registers (id : String) : Operation → Prop
  | .registerStrategy strategy => strategy.id = id ∧ strategy.violation? = none
  | _ => False

namespace Engine

/-- What an operation can make of the rollout that is stored under an id. -/
inductive RolloutChange (now : Instant) (id : String) :
    Operation → Option Rollout → Option Rollout → Prop
  | kept {operation : Operation} (stored : Option Rollout) :
      RolloutChange now id operation stored stored
  | registered {strategy : Strategy} (stored : Option Rollout) :
      strategy.id = id → strategy.violation? = none →
      RolloutChange now id (.registerStrategy strategy) stored (some ⟨strategy, .start now⟩)
  | stepped {operation : Operation} {step : Progress.Step} (rollout : Rollout) :
      operation.control? = some (id, step) →
      RolloutChange now id operation (some rollout)
        (some { rollout with progress := rollout.progress.after rollout.strategy now step })
  | monitored (metrics : Metrics) (rollout : Rollout) :
      RolloutChange now id (.monitorRollouts metrics) (some rollout)
        (some { rollout with progress := (rollout.step metrics now).progress })

variable {engine : Engine} {now : Instant} {operation : Operation} {id : String}

/-- A write under another id is no change. -/
theorem RolloutChange.of_insert {written : String} {changed : Rollout}
    (here : written = id →
      RolloutChange now id operation (engine.rollouts.get? id) (some changed)) :
    RolloutChange now id operation (engine.rollouts.get? id)
      ((engine.rollouts.insert written changed).get? id) := by
  rw [Table.get?_insert]
  split
  · next heq => exact here heq.symm
  · exact .kept _

@[simp] theorem rollouts_addConversion (conversion : Conversion) :
    (engine.addConversion conversion).rollouts = engine.rollouts := by
  obtain ⟨analytics, heq⟩ := addConversion_eq engine conversion
  rw [heq]

@[simp] theorem rollouts_evaluate (flagKey : String) (user : User) (default : FlagValue) :
    (engine.evaluate flagKey user default now).engine.rollouts = engine.rollouts := by
  obtain ⟨analytics, heq⟩ := evaluate_eq engine now flagKey user default
  rw [heq]

/-- A sweep of the experiments leaves the rollouts alone. -/
theorem Keyed.rollouts_monitorExperiments (keyed : engine.Keyed) (now : Instant) :
    (engine.monitorExperiments now).engine.rollouts = engine.rollouts := by
  cases enabled : engine.config.experimentationEnabled with
  | false => rw [engine_monitorExperiments_of_disabled enabled]
  | true =>
    rw [engine_monitorExperiments keyed enabled]
    rfl

/-- An operation on a keyed engine changes the rollout that is stored under an id in one of the
listed ways. -/
theorem rolloutChange_step (keyed : engine.Keyed) (now : Instant) (operation : Operation)
    (id : String) :
    RolloutChange now id operation (engine.rollouts.get? id)
      ((engine.step now operation).rollouts.get? id) := by
  have heffect := effect_step engine now operation
  generalize engine.step now operation = after at heffect
  cases heffect with
  | registered valid => exact .of_insert fun heq => .registered _ heq valid
  | stepped step asked stored =>
    refine .of_insert fun heq => ?_
    subst heq
    rw [stored]
    exact .stepped _ asked
  | monitored metrics =>
    rw [rollouts_monitorRollouts, Table.get?_map]
    cases engine.rollouts.get? id with
    | none => exact .kept _
    | some rollout => exact .monitored metrics rollout
  | evaluated flagKey user default =>
    rw [rollouts_evaluate]
    exact .kept _
  | converted conversion =>
    rw [rollouts_addConversion]
    exact .kept _
  | swept =>
    rw [keyed.rollouts_monitorExperiments]
    exact .kept _
  | _ => exact .kept _

/-- What every change but a registration keeps of the rollout with an id, a run without
registrations under the id keeps. -/
theorem Keyed.run_keeps_rollout {P : Rollout → Prop} {rollout : Rollout}
    (keeps : ∀ {now operation rollout after},
      RolloutChange now id operation (some rollout) after → ¬ operation.Registers id →
      P rollout → ∃ changed, after = some changed ∧ P changed)
    (keyed : engine.Keyed) (stored : engine.rollouts.get? id = some rollout) (holds : P rollout)
    {operations : List (Instant × Operation)} (kept : ∀ o ∈ operations, ¬ o.2.Registers id) :
    ∃ changed, (engine.run operations).rollouts.get? id = some changed ∧ P changed := by
  induction operations generalizing engine rollout with
  | nil => exact ⟨rollout, stored, holds⟩
  | cons head rest ih =>
    have change := rolloutChange_step keyed head.1 head.2 id
    rw [stored] at change
    obtain ⟨changed, hafter, holds'⟩ := keeps change (kept head List.mem_cons_self) holds
    exact ih (keyed.step head.1 head.2) hafter holds' fun o ho =>
      kept o (List.mem_cons_of_mem _ ho)

end Engine

end FeatureTrials
