import FeatureTrials.Proofs.Engine.Effect
import FeatureTrials.Proofs.Engine.Sweep

/-!
# What an operation makes of one experiment

Seen from a single id, an operation keeps the experiment, creates it, gives it another definition,
moves it along its lifecycle, or refreshes its results. `Change` lists these with everything that
is known when they happen, and `change_step` says that there are no others. A property of the
experiments of an engine is then proved one kind of change at a time.

* `Prompts` — what makes an experiment move: somebody asks for it, or a sweep finds that it is due,
  at its end, or decided.
* `Change` — the changes.
* `Reachable` — the engines that operations lead to; they are all keyed (`Reachable.keyed`).
-/

namespace FeatureTrials.Engine

/-- What makes an experiment move. -/
inductive Prompts (engine : Engine) (now : Instant) (id : String) (e : Experiment) :
    Operation → Move → Prop
  | asked {operation : Operation} {move : Move} :
      operation.move? = some (id, move) → Prompts engine now id e operation move
  | due :
      e.status = .scheduled → e.isDue now = true →
      Prompts engine now id e .monitorExperiments .start
  | ended :
      e.isLive = true → e.isExpired now = true →
      Prompts engine now id e .monitorExperiments .expire
  | decided :
      e.status = .running → e.isExpired now = false →
      engine.isConclusive (engine.compare e now) = true →
      Prompts engine now id e .monitorExperiments .stop

/-- What an operation can make of what is stored under an id. -/
inductive Change (engine : Engine) (now : Instant) (id : String) :
    Operation → Option Experiment → Option Experiment → Prop
  | kept {operation : Operation} (stored : Option Experiment) :
      Change engine now id operation stored stored
  | created {e : Experiment} :
      e.id = id → e.violation? = none → e.status = .draft ∨ e.status = .scheduled →
      Change engine now id (.createExperiment e) none
        (some { e with results := some .initial })
  | redefined {current update : Experiment} :
      update.id = id → current.status = .draft ∨ current.status = .scheduled →
      update.violation? = none →
      Change engine now id (.updateExperiment update) (some current)
        (some { update with status := current.status, results := some .initial })
  | amended {current update : Experiment} :
      update.id = id → current.isLive = true → current.frozenDifference? update = none →
      Change engine now id (.updateExperiment update) (some current)
        (some { current with description := update.description, endTime := update.endTime })
  | moved {operation : Operation} {e : Experiment} {move : Move} :
      Prompts engine now id e operation move → move.allowedFrom e.status = true →
      Change engine now id operation (some e)
        (some (e.moved move (engine.compare · now) now))
  | refreshed {e : Experiment} :
      e.status = .running → e.isExpired now = false →
      Change engine now id .monitorExperiments (some e)
        (some { e with results := some (engine.compare e now) })

variable {engine : Engine} {now : Instant} {operation : Operation} {id : String}

/-- A write under another id is no change. -/
theorem Change.of_insert {written : String} {changed : Experiment}
    (here : written = id →
      Change engine now id operation (engine.experiments.get? id) (some changed)) :
    Change engine now id operation (engine.experiments.get? id)
      ((engine.experiments.insert written changed).get? id) := by
  rw [Table.get?_insert]
  split
  · next heq => exact here heq.symm
  · exact .kept _

/-- What a sweep makes of an experiment is a change. -/
theorem change_swept (e : Experiment) :
    Change engine now id .monitorExperiments (some e) (some (engine.swept now e)) := by
  rw [swept]
  cases startable : isStartable now e with
  | true =>
    obtain ⟨hscheduled, hdue⟩ := Bool.and_eq_true_iff.mp startable
    have status : e.status = .scheduled := of_decide_eq_true hscheduled
    rw [if_pos rfl]
    exact .moved (.due status hdue) (by rw [status]; rfl)
  | false =>
    rw [if_neg Bool.false_ne_true]
    cases live : e.isLive with
    | false =>
      rw [if_neg Bool.false_ne_true]
      exact .kept _
    | true =>
      rw [if_pos rfl, reviewed]
      cases expired : e.isExpired now with
      | true =>
        have allowed : Move.expire.allowedFrom e.status = true := by
          rcases Experiment.isLive_iff.mp live with status | status <;> rw [status] <;> rfl
        rw [if_pos rfl]
        exact .moved (.ended live expired) allowed
      | false =>
        rw [if_neg Bool.false_ne_true]
        cases running : e.isRunning with
        | false =>
          rw [if_neg Bool.false_ne_true]
          exact .kept _
        | true =>
          have status : e.status = .running := of_decide_eq_true running
          rw [if_pos rfl]
          cases decided : engine.isConclusive (engine.compare e now) with
          | true =>
            rw [if_pos rfl]
            exact .moved (.decided status expired decided) (by rw [status]; rfl)
          | false =>
            rw [if_neg Bool.false_ne_true]
            exact .refreshed status expired

/-- An operation on a keyed engine changes what is stored under an id in one of the listed ways. -/
theorem change_step (keyed : engine.Keyed) (now : Instant) (operation : Operation) (id : String) :
    Change engine now id operation (engine.experiments.get? id)
      ((engine.step now operation).experiments.get? id) := by
  have heffect := effect_step engine now operation
  generalize engine.step now operation = after at heffect
  -- each write puts at most one experiment into the table, but for the one of a sweep
  cases heffect with
  | created hvalid hstatus hfree =>
    refine .of_insert fun heq => ?_
    rw [← heq, hfree]
    exact .created rfl hvalid hstatus
  | @updated update current changed stored hupdated =>
    refine .of_insert fun heq => ?_
    rw [← heq, stored]
    rcases updated_eq_ok hupdated with ⟨hstatus, hvalid, rfl⟩ | ⟨hlive, hsame, rfl⟩
    · exact .redefined rfl hstatus hvalid
    · exact .amended rfl hlive hsame
  | moved asked stored allowed =>
    refine .of_insert fun heq => ?_
    subst heq
    rw [stored]
    exact .moved (.asked asked) allowed
  | swept =>
    cases enabled : engine.config.experimentationEnabled with
    | false =>
      rw [engine_monitorExperiments_of_disabled enabled]
      exact .kept _
    | true =>
      rw [engine_monitorExperiments keyed enabled, withExperiments, Table.get?_map]
      cases engine.experiments.get? id with
      | none => exact .kept _
      | some e => exact change_swept e
  | evaluated flagKey user default =>
    rw [experiments_evaluate]
    exact .kept _
  | converted conversion =>
    rw [experiments_addConversion]
    exact .kept _
  | _ => exact .kept _

/-! ## Engines that operations lead to -/

/-- An engine as it is made: unconfigured, or with a valid configuration. -/
inductive Constructed : Engine → Prop
  | standard (now : Instant) : Constructed (Engine.standard now).engine
  | new {config : Config} {now : Instant} {outcome : Outcome Unit} :
      Engine.new config now = .ok outcome → Constructed outcome.engine

/-- An engine that operations can lead to, at whatever readings of the clock. -/
inductive Reachable : Engine → Prop
  | constructed {engine : Engine} : Constructed engine → Reachable engine
  | step {engine : Engine} (now : Instant) (operation : Operation) :
      Reachable engine → Reachable (engine.step now operation)

theorem Reachable.run (reachable : Reachable engine) :
    ∀ operations : List (Instant × Operation), Reachable (engine.run operations) := by
  intro operations
  induction operations generalizing engine with
  | nil => exact reachable
  | cons head rest ih => exact ih (reachable.step head.1 head.2)

/-- A new engine has no experiments and no events. -/
theorem Constructed.seeded (constructed : Constructed engine) :
    ∃ config now, engine = (Engine.seeded config now).engine := by
  cases constructed with
  | standard now => exact ⟨_, now, rfl⟩
  | @new config now outcome h =>
    unfold Engine.new at h
    split at h
    · cases h
    · cases h
      exact ⟨config, now, rfl⟩

theorem Constructed.get?_experiments (constructed : Constructed engine) (id : String) :
    engine.experiments.get? id = none := by
  obtain ⟨config, now, rfl⟩ := constructed.seeded
  rfl

theorem Change.id_eq {stored after : Option Experiment}
    (change : Change engine now id operation stored after)
    (before : ∀ e, stored = some e → e.id = id) : ∀ e, after = some e → e.id = id := by
  intro changed hafter
  cases change with
  | kept => exact before changed hafter
  | created hid =>
    cases hafter
    exact hid
  | redefined hid =>
    cases hafter
    exact hid
  | @amended current =>
    cases hafter
    exact before current rfl
  | @moved _ e move =>
    cases hafter
    cases move <;> exact before e rfl
  | @refreshed e =>
    cases hafter
    exact before e rfl

theorem Keyed.step (keyed : engine.Keyed) (now : Instant) (operation : Operation) :
    (engine.step now operation).Keyed := by
  intro id
  exact (change_step keyed now operation id).id_eq fun e stored => keyed stored

theorem Keyed.run (keyed : engine.Keyed) (operations : List (Instant × Operation)) :
    (engine.run operations).Keyed := by
  induction operations generalizing engine with
  | nil => exact keyed
  | cons head rest ih => exact ih (keyed.step head.1 head.2)

/-- What every change keeps of the experiment with an id, a whole run keeps. -/
theorem Keyed.run_keeps {P : Experiment → Prop} {e : Experiment}
    (keeps : ∀ {engine : Engine} {now operation e after},
      Change engine now id operation (some e) after → P e → ∃ e', after = some e' ∧ P e')
    (keyed : engine.Keyed) (stored : engine.experiments.get? id = some e) (holds : P e)
    (operations : List (Instant × Operation)) :
    ∃ e', (engine.run operations).experiments.get? id = some e' ∧ P e' := by
  induction operations generalizing engine e with
  | nil => exact ⟨e, stored, holds⟩
  | cons head rest ih =>
    have change := change_step keyed head.1 head.2 id
    rw [stored] at change
    obtain ⟨e', hafter, holds'⟩ := keeps change holds
    exact ih (keyed.step head.1 head.2) hafter holds'

/-- Operations keep every experiment under its own id. -/
theorem Reachable.keyed (reachable : Reachable engine) : engine.Keyed := by
  induction reachable with
  | constructed constructed =>
    intro id e stored
    rw [constructed.get?_experiments] at stored
    cases stored
  | step now operation _ ih => exact ih.step now operation

end FeatureTrials.Engine
