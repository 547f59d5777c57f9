import FeatureTrials.Engine.Operation
import FeatureTrials.Proofs.Engine.Success
import FeatureTrials.Proofs.Rollout.Transparency

/-!
# What an operation leaves behind

Most operations write to one table of the engine, or to its analytics, and leave the rest as it is.
`Effect` says this for all of them at once, with one constructor for each kind of write and not for
each operation (`effect_step`), and with everything that is known when the write is made. What holds
of every engine that operations lead to is then proved one kind of write at a time.

* `Operation.move?` — the moves of experiments that are made by hand.
* `Operation.control?` — the steps of rollouts that are made by hand.
* `Effect` — the writes.
-/

namespace FeatureTrials

/-- The experiment that an operation moves by hand, and how. -/
def Operation.move? : Operation → Option (String × Move)
  | .scheduleExperiment id startTime => some (id, .schedule startTime)
  | .startExperiment id => some (id, .start)
  | .pauseExperiment id => some (id, .pause)
  | .resumeExperiment id => some (id, .resume)
  | .stopExperiment id => some (id, .stop)
  | .archiveExperiment id => some (id, .archive)
  | _ => none

/-- The rollout that an operation steps by hand, and how. -/
def Operation.control? : Operation → Option (String × Progress.Step)
  | .advanceRollout id => some (id, .advance)
  | .pauseRollout id => some (id, .pause)
  | .resumeRollout id => some (id, .resume)
  | .rollBack id => some (id, .rollback)
  | _ => none

namespace Engine

/-- What an operation can make of an engine. -/
inductive Effect (engine : Engine) (now : Instant) : Operation → Engine → Prop
  | refused {operation : Operation} {failure : Failure} :
      engine.perform now operation = .error failure → Effect engine now operation engine
  | flagged {flag : Flag} :
      flag.violation? = none →
      Effect engine now (.upsertFlag flag)
        { engine with flags := engine.flags.insert flag.key flag }
  | unflagged (key : String) :
      Effect engine now (.deleteFlag key) { engine with flags := engine.flags.erase key }
  | segmented {segment : Segment} :
      segment.violation? = none →
      Effect engine now (.createSegment segment)
        { engine with segments := engine.segments.insert segment.id segment }
  | unsegmented (id : String) :
      Effect engine now (.deleteSegment id)
        { engine with segments := engine.segments.erase id }
  | registered {strategy : Strategy} :
      strategy.violation? = none →
      Effect engine now (.registerStrategy strategy)
        { engine with
          rollouts := engine.rollouts.insert strategy.id ⟨strategy, .start now⟩ }
  | stepped {operation : Operation} {id : String} (step : Progress.Step) {rollout : Rollout} :
      operation.control? = some (id, step) → engine.rollouts.get? id = some rollout →
      Effect engine now operation
        (engine.withProgress id rollout (rollout.progress.after rollout.strategy now step))
  | monitored (metrics : Metrics) :
      Effect engine now (.monitorRollouts metrics) (engine.monitorRollouts metrics now).engine
  | created {e : Experiment} :
      e.violation? = none → e.status = .draft ∨ e.status = .scheduled →
      engine.experiments.get? e.id = none →
      Effect engine now (.createExperiment e)
        (engine.withExperiments
          (engine.experiments.insert e.id { e with results := some .initial }))
  | updated {update current changed : Experiment} :
      engine.experiments.get? update.id = some current → current.updated update = .ok changed →
      Effect engine now (.updateExperiment update)
        (engine.withExperiments (engine.experiments.insert update.id changed))
  | moved {operation : Operation} {id : String} {move : Move} {e : Experiment} :
      operation.move? = some (id, move) → engine.experiments.get? id = some e →
      move.allowedFrom e.status = true →
      Effect engine now operation
        (engine.withExperiments
          (engine.experiments.insert id (e.moved move (engine.compare · now) now)))
  | evaluated (flagKey : String) (user : User) (default : FlagValue) :
      Effect engine now (.evaluate flagKey user default)
        (engine.evaluate flagKey user default now).engine
  | converted {operation : Operation} (conversion : Conversion) :
      Effect engine now operation (engine.addConversion conversion)
  | swept : Effect engine now .monitorExperiments (engine.monitorExperiments now).engine
  | counted :
      Effect engine now .processAnalytics { engine with analytics := engine.analytics.process now }
  | cleaned :
      Effect engine now .cleanupAnalytics { engine with analytics := engine.analytics.cleanup now }

variable {engine : Engine} {now : Instant} {operation : Operation}

theorem step_of_ok {outcome : Outcome Answer} (h : engine.perform now operation = .ok outcome) :
    engine.step now operation = outcome.engine := by
  rw [step, h]

theorem step_of_error {failure : Failure} (h : engine.perform now operation = .error failure) :
    engine.step now operation = engine := by
  rw [step, h]

/-- A move by hand is performed as that move. -/
theorem perform_of_move? {id : String} {move : Move} (asked : operation.move? = some (id, move)) :
    engine.perform now operation =
      (engine.moveExperiment id move now).map (·.map fun _ => .done) := by
  cases operation <;> cases asked <;> rfl

/-- What a move by hand leaves behind. -/
theorem effect_of_move? {id : String} {move : Move} {outcome : Outcome Answer}
    (asked : operation.move? = some (id, move))
    (h : engine.perform now operation = .ok outcome) :
    Effect engine now operation outcome.engine := by
  rw [perform_of_move? asked] at h
  obtain ⟨inner, hinner, rfl⟩ := map_eq_ok.mp h
  obtain ⟨e, stored, allowed, hengine⟩ := moveExperiment_eq_ok hinner
  have heffect : Effect engine now operation _ := .moved asked stored allowed
  rw [← hengine] at heffect
  exact heffect

/-- What an operation that is not refused leaves behind. -/
theorem effect_perform {outcome : Outcome Answer}
    (h : engine.perform now operation = .ok outcome) :
    Effect engine now operation outcome.engine := by
  cases operation with
  | upsertFlag flag =>
    obtain ⟨inner, hinner, rfl⟩ := map_eq_ok.mp h
    obtain ⟨_, hvalid, hinner⟩ := bind_eq_ok.mp hinner
    cases hinner
    exact .flagged (check_eq_ok.mp hvalid)
  | deleteFlag key =>
    obtain ⟨inner, hinner, rfl⟩ := map_eq_ok.mp h
    obtain ⟨_, _, hinner⟩ := bind_eq_ok.mp hinner
    cases hinner
    exact .unflagged key
  | createSegment segment =>
    obtain ⟨inner, hinner, rfl⟩ := map_eq_ok.mp h
    obtain ⟨_, hvalid, hinner⟩ := bind_eq_ok.mp hinner
    obtain ⟨_, _, hinner⟩ := bind_eq_ok.mp hinner
    cases hinner
    exact .segmented (check_eq_ok.mp hvalid)
  | deleteSegment id =>
    obtain ⟨inner, hinner, rfl⟩ := map_eq_ok.mp h
    obtain ⟨_, _, hinner⟩ := bind_eq_ok.mp hinner
    cases hinner
    exact .unsegmented id
  | createExperiment e =>
    obtain ⟨inner, hinner, rfl⟩ := map_eq_ok.mp h
    obtain ⟨hvalid, hstatus, hfree, hengine⟩ := createExperiment_eq_ok hinner
    have heffect : Effect engine now (.createExperiment e) _ := .created hvalid hstatus hfree
    rw [← hengine] at heffect
    exact heffect
  | updateExperiment update =>
    obtain ⟨inner, hinner, rfl⟩ := map_eq_ok.mp h
    obtain ⟨current, changed, stored, hupdated, hengine⟩ := updateExperiment_eq_ok hinner
    have heffect : Effect engine now (.updateExperiment update) _ := .updated stored hupdated
    rw [← hengine] at heffect
    exact heffect
  | scheduleExperiment id startTime => exact effect_of_move? rfl h
  | startExperiment id => exact effect_of_move? rfl h
  | pauseExperiment id => exact effect_of_move? rfl h
  | resumeExperiment id => exact effect_of_move? rfl h
  | stopExperiment id => exact effect_of_move? rfl h
  | archiveExperiment id => exact effect_of_move? rfl h
  | registerStrategy strategy =>
    obtain ⟨inner, hinner, rfl⟩ := map_eq_ok.mp h
    obtain ⟨_, hvalid, hinner⟩ := bind_eq_ok.mp hinner
    cases hinner
    exact .registered (check_eq_ok.mp hvalid)
  | advanceRollout id =>
    obtain ⟨inner, hinner, rfl⟩ := map_eq_ok.mp h
    obtain ⟨rollout, hfind, hinner⟩ := bind_eq_ok.mp hinner
    dsimp only at hinner
    cases hstage : rollout.strategy.stages[(rollout.progress.advance rollout.strategy
        now).stageIndex]? with
    | none =>
      rw [hstage] at hinner
      cases hinner
    | some stage =>
      rw [hstage] at hinner
      cases hinner
      exact .stepped .advance rfl (find_eq_ok.mp hfind)
  | pauseRollout id =>
    obtain ⟨inner, hinner, rfl⟩ := map_eq_ok.mp h
    obtain ⟨_, hfind, hinner⟩ := bind_eq_ok.mp hinner
    cases hinner
    exact .stepped .pause rfl (find_eq_ok.mp hfind)
  | resumeRollout id =>
    obtain ⟨inner, hinner, rfl⟩ := map_eq_ok.mp h
    obtain ⟨_, hfind, hinner⟩ := bind_eq_ok.mp hinner
    cases hinner
    exact .stepped .resume rfl (find_eq_ok.mp hfind)
  | rollBack id =>
    obtain ⟨inner, hinner, rfl⟩ := map_eq_ok.mp h
    obtain ⟨_, hfind, hinner⟩ := bind_eq_ok.mp hinner
    cases hinner
    exact .stepped .rollback rfl (find_eq_ok.mp hfind)
  | evaluate flagKey user default =>
    cases h
    exact .evaluated flagKey user default
  | recordConversion experimentId variantId user kind value =>
    obtain ⟨inner, hinner, rfl⟩ := map_eq_ok.mp h
    obtain ⟨experiment, _, hinner⟩ := bind_eq_ok.mp hinner
    dsimp only at hinner
    cases hvariant : (experiment.variant? variantId).isNone with
    | true =>
      rw [hvariant, if_pos rfl] at hinner
      cases hinner
    | false =>
      rw [hvariant, if_neg Bool.false_ne_true] at hinner
      cases hinner
      exact .converted _
  | monitorExperiments =>
    cases h
    exact .swept
  | monitorRollouts metrics =>
    cases h
    exact .monitored metrics
  | processAnalytics =>
    cases h
    exact .counted
  | cleanupAnalytics =>
    cases h
    exact .cleaned

/-- What an operation leaves behind, whether it is refused or not. -/
theorem effect_step (engine : Engine) (now : Instant) (operation : Operation) :
    Effect engine now operation (engine.step now operation) := by
  cases h : engine.perform now operation with
  | error failure =>
    rw [step, h]
    exact .refused h
  | ok outcome =>
    rw [step, h]
    exact effect_perform h

/-! ## What is written to the analytics alone -/

variable (engine now)

theorem addConversion_eq (conversion : Conversion) :
    ∃ analytics, engine.addConversion conversion = { engine with analytics } := by
  unfold addConversion
  split
  · exact ⟨_, rfl⟩
  · exact ⟨engine.analytics, rfl⟩

theorem recordExposure_eq (assignment : Assignment) (user : User) :
    ∃ analytics, engine.recordExposure assignment user now = { engine with analytics } := by
  unfold recordExposure
  split
  · exact ⟨_, rfl⟩
  · exact ⟨engine.analytics, rfl⟩

theorem recordEvaluation_eq (flagKey : String) (user : User) (detail : Detail FlagValue)
    (default : FlagValue) :
    ∃ analytics, engine.recordEvaluation flagKey user detail default now =
      { engine with analytics } := by
  unfold recordEvaluation
  split
  · exact ⟨_, rfl⟩
  · exact ⟨engine.analytics, rfl⟩

/-- An evaluation leaves all registries as they are. -/
theorem evaluate_eq (flagKey : String) (user : User) (default : FlagValue) :
    ∃ analytics, (engine.evaluate flagKey user default now).engine =
      { engine with analytics } := by
  rw [evaluate]
  cases engine.assignment? flagKey user with
  | none => exact recordEvaluation_eq ..
  | some assignment =>
    dsimp only
    obtain ⟨analytics, hexposed⟩ := recordExposure_eq engine now assignment user
    rw [hexposed]
    exact recordEvaluation_eq ..

@[simp] theorem experiments_addConversion (conversion : Conversion) :
    (engine.addConversion conversion).experiments = engine.experiments := by
  obtain ⟨analytics, heq⟩ := addConversion_eq engine conversion
  rw [heq]

@[simp] theorem experiments_evaluate (flagKey : String) (user : User) (default : FlagValue) :
    (engine.evaluate flagKey user default now).engine.experiments = engine.experiments := by
  obtain ⟨analytics, heq⟩ := evaluate_eq engine now flagKey user default
  rw [heq]

end Engine

end FeatureTrials
