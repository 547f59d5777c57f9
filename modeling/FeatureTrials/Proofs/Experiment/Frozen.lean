import FeatureTrials.Proofs.Experiment.Lifecycle

/-!
# What is frozen about an experiment

From the moment an experiment starts, whatever is done to the engine, nothing about it changes but
its status, its description, its end and its results; and once it is completed only its status
does, from completed to archived. While it is live, a new definition is taken exactly when it agrees
in all that decides assignments.

* `Experiment.SameDefinition` — the same experiment, as far as it is frozen.
* `FrozenField.agrees`, `FrozenField.inOrder` — the parts that a change of definition may not touch.
-/

namespace FeatureTrials

/-! ## The frozen parts -/

namespace FrozenField

/-- Two experiments compare equal in a frozen part. -/
def agrees (current update : Experiment) : FrozenField → Bool
  | .variants => current.variants == update.variants
  | .trafficPercent => current.trafficPercent == update.trafficPercent
  | .targetingRules => current.targetingRules == update.targetingRules
  | .segments => current.segments == update.segments
  | .flagKey => current.flagKey == update.flagKey

/-- The order in which the frozen parts are compared. -/
def inOrder : List FrozenField :=
  [.variants, .trafficPercent, .targetingRules, .segments, .flagKey]

theorem mem_inOrder (field : FrozenField) : field ∈ inOrder := by
  cases field <;> decide

end FrozenField

namespace Experiment

/-- Everything is the same but the status, the description, the end and the results. -/
def SameDefinition (e e' : Experiment) : Prop :=
  e' = { e with
    status := e'.status
    description := e'.description
    endTime := e'.endTime
    results := e'.results }

variable {e e' e'' current update : Experiment}

theorem SameDefinition.refl (e : Experiment) : e.SameDefinition e := rfl

theorem SameDefinition.trans (first : e.SameDefinition e') (second : e'.SameDefinition e'') :
    e.SameDefinition e'' := by
  unfold SameDefinition at first second
  rw [first] at second
  exact second

/-- The difference that is found is the first one. -/
theorem frozenDifference?_eq_find? :
    current.frozenDifference? update =
      FrozenField.inOrder.find? fun field => !field.agrees current update := by
  have step {p : FrozenField → Bool} {field : FrozenField} {rest : List FrozenField} :
      (field :: rest).find? p = if p field then some field else rest.find? p := by
    rw [List.find?_cons]
    cases p field <;> rfl
  simp only [FrozenField.inOrder, step, List.find?_nil]
  rfl

theorem frozenDifference?_eq_none :
    current.frozenDifference? update = none ↔
      ∀ field : FrozenField, field.agrees current update = true := by
  rw [frozenDifference?_eq_find?, List.find?_eq_none]
  constructor
  · intro h field
    have hagrees := h field field.mem_inOrder
    rwa [Bool.not_eq_true', Bool.not_eq_false] at hagrees
  · intro h field _
    rw [h field]
    exact Bool.false_ne_true

/-- A live experiment takes a new description and a new end, if nothing frozen differs. -/
theorem updated_of_live (live : e.isLive = true) :
    e.updated update =
      match e.frozenDifference? update with
      | some field => .error (.frozen update.id field)
      | none => .ok { e with description := update.description, endTime := update.endTime } := by
  cases hdifference : e.frozenDifference? update <;>
    rcases isLive_iff.mp live with status | status <;>
    simp only [updated, status, hdifference]

end Experiment

namespace Engine

variable {engine : Engine} {now : Instant} {operation : Operation} {id : String} {e : Experiment}

/-! ## One change -/

/-- A started experiment keeps its definition. -/
theorem Change.sameDefinition {after : Option Experiment}
    (change : Change engine now id operation (some e) after) (started : e.status.Started) :
    ∃ e', after = some e' ∧ e.SameDefinition e' := by
  cases change with
  | kept => exact ⟨e, rfl, .refl e⟩
  | redefined _ hstatus => exact absurd started (Status.not_started_iff.mpr hstatus)
  | amended => exact ⟨_, rfl, rfl⟩
  | @moved _ _ move _ allowed =>
    refine ⟨_, rfl, ?_⟩
    -- the moves that set a start lead to where the experiment has been already
    have edge := Status.edge_iff.mpr ⟨allowed, rfl⟩
    obtain ⟨hschedule, hstart⟩ := edge.of_started started
    cases move with
    | schedule startTime => exact absurd rfl (hschedule startTime)
    | start => exact absurd rfl hstart
    | _ => rfl
  | refreshed => exact ⟨_, rfl, rfl⟩

/-- A started experiment stays started. -/
theorem Change.started {e' : Experiment}
    (change : Change engine now id operation (some e) (some e')) (started : e.status.Started) :
    e'.status.Started := by
  obtain ⟨_, hsome, hfollows⟩ := change.follows
  cases hsome
  rcases hfollows with heq | ⟨move, -, edge⟩
  · rw [heq]
    exact started
  · exact Status.Follows.started (.inr ⟨move, edge⟩) started

/-- What is over stays as it is, but that a completed experiment can be archived. -/
theorem Change.of_finished {after : Option Experiment}
    (change : Change engine now id operation (some e) after)
    (finished : e.status = .completed ∨ e.status = .archived) :
    after = some e ∨
      (e.status = .completed ∧ after = some { e with status := .archived }) := by
  -- all changes but moves ask for a status that is not over
  have unstarted : ¬(e.status = .draft ∨ e.status = .scheduled) := by
    rcases finished with status | status <;> rw [status] <;> decide
  have dead : ¬(e.status = .running ∨ e.status = .paused) := by
    rcases finished with status | status <;> rw [status] <;> decide
  cases change with
  | kept => exact .inl rfl
  | redefined _ hstatus => exact absurd hstatus unstarted
  | amended _ live => exact absurd (Experiment.isLive_iff.mp live) dead
  | @moved _ _ move _ allowed =>
    rcases finished with status | status
    · rw [status] at allowed
      cases move with
      | archive => exact .inr ⟨status, rfl⟩
      | _ => cases allowed
    · rw [status] at allowed
      cases move <;> cases allowed
  | refreshed running => exact absurd (.inl running) dead

/-! ## Whole runs -/

/-- A started experiment keeps its definition over a run. -/
theorem Keyed.run_sameDefinition (keyed : engine.Keyed)
    (stored : engine.experiments.get? id = some e) (started : e.status.Started)
    (operations : List (Instant × Operation)) :
    ∃ e', (engine.run operations).experiments.get? id = some e' ∧ e.SameDefinition e' ∧
      e'.status.Started := by
  refine keyed.run_keeps ?_ stored ⟨.refl e, started⟩ operations
  rintro engine now operation mid after change ⟨hsame, hstarted⟩
  obtain ⟨e', rfl, hsame'⟩ := change.sameDefinition hstarted
  exact ⟨e', rfl, hsame.trans hsame', change.started hstarted⟩

/-- An experiment that is over stays as it is over a run, but that it can be archived. -/
theorem Keyed.run_finished (keyed : engine.Keyed)
    (stored : engine.experiments.get? id = some e)
    (finished : e.status = .completed ∨ e.status = .archived)
    (operations : List (Instant × Operation)) :
    (engine.run operations).experiments.get? id = some e ∨
      (e.status = .completed ∧
        (engine.run operations).experiments.get? id = some { e with status := .archived }) := by
  have hrun : ∃ e', (engine.run operations).experiments.get? id = some e' ∧
      (e' = e ∨ (e.status = .completed ∧ e' = { e with status := .archived })) := by
    refine keyed.run_keeps ?_ stored (.inl rfl) operations
    rintro engine now operation mid after change (rfl | ⟨hcompleted, rfl⟩)
    · rcases change.of_finished finished with rfl | ⟨hcompleted, rfl⟩
      · exact ⟨mid, rfl, .inl rfl⟩
      · exact ⟨_, rfl, .inr ⟨hcompleted, rfl⟩⟩
    · rcases change.of_finished (.inr rfl) with rfl | ⟨hcompleted', -⟩
      · exact ⟨_, rfl, .inr ⟨hcompleted, rfl⟩⟩
      · cases hcompleted'
  obtain ⟨e', hstored, rfl | ⟨hcompleted, rfl⟩⟩ := hrun
  · exact .inl hstored
  · exact .inr ⟨hcompleted, hstored⟩

/-! ## Changing a live definition -/

/-- A live experiment is amended or, at the first difference in a frozen part, left alone. -/
theorem perform_update_of_live {update : Experiment}
    (stored : engine.experiments.get? update.id = some e) (live : e.isLive = true) :
    engine.perform now (.updateExperiment update) =
      match e.frozenDifference? update with
      | some field => .error (.frozen update.id field)
      | none =>
        .ok
          { engine := engine.withExperiments
              (engine.experiments.insert update.id
                { e with description := update.description, endTime := update.endTime })
            answer := .done
            notices := [.experimentMoved update.id .update] } := by
  have hupdate : engine.updateExperiment update = (e.updated update).bind fun changed =>
      .ok
        { engine := engine.withExperiments (engine.experiments.insert update.id changed)
          answer := ()
          notices := [.experimentMoved update.id .update] } := by
    simp only [updateExperiment, experiment, find, stored, bind, Except.bind]
    rfl
  rw [perform, hupdate, Experiment.updated_of_live live]
  cases e.frozenDifference? update <;> rfl

/-- What becomes of a new definition for a live experiment. -/
structure TakesUpdate (engine : Engine) (now : Instant) (e update : Experiment) : Prop where
  /-- it is accepted exactly when all frozen parts compare equal -/
  accepted : (∃ outcome, engine.perform now (.updateExperiment update) = .ok outcome) ↔
    ∀ field : FrozenField, field.agrees e update = true
  /-- an accepted one changes the description and the end of the experiment, and nothing else -/
  amended : ∀ outcome, engine.perform now (.updateExperiment update) = .ok outcome →
    outcome.engine = engine.withExperiments
      (engine.experiments.insert update.id
        { e with description := update.description, endTime := update.endTime })
  /-- the first frozen part that differs is reported, and nothing changes -/
  refused : ∀ field,
    (FrozenField.inOrder.find? fun field => !field.agrees e update) = some field →
    engine.perform now (.updateExperiment update) = .error (.frozen update.id field) ∧
      engine.step now (.updateExperiment update) = engine

theorem takesUpdate_of_live {update : Experiment}
    (stored : engine.experiments.get? update.id = some e) (live : e.isLive = true) :
    engine.TakesUpdate now e update := by
  have hperform : engine.perform now (.updateExperiment update) = _ :=
    perform_update_of_live stored live
  refine ⟨?_, ?_, ?_⟩
  · rw [hperform, ← Experiment.frozenDifference?_eq_none]
    cases e.frozenDifference? update with
    | none => exact ⟨fun _ => rfl, fun _ => ⟨_, rfl⟩⟩
    | some field => exact ⟨fun ⟨_, h⟩ => (nomatch h), nofun⟩
  · intro outcome h
    rw [hperform] at h
    cases hdifference : e.frozenDifference? update with
    | none =>
      rw [hdifference] at h
      cases h
      rfl
    | some field =>
      rw [hdifference] at h
      cases h
  · intro field hfield
    rw [← Experiment.frozenDifference?_eq_find?] at hfield
    rw [hfield] at hperform
    exact ⟨hperform, step_of_error hperform⟩

/-- **Definitions are frozen.** Once an experiment is live its definition is frozen, once it is
completed all of it is frozen but for being archived, and while it is live a new definition is taken
exactly when it agrees in what is frozen. -/
theorem definition_frozen (reachable : Reachable engine)
    (stored : engine.experiments.get? id = some e) :
    (e.isLive = true → ∀ operations, ∃ e',
      (engine.run operations).experiments.get? id = some e' ∧ e.SameDefinition e') ∧
    (e.status = .completed → ∀ operations,
      (engine.run operations).experiments.get? id = some e ∨
        (engine.run operations).experiments.get? id = some { e with status := .archived }) ∧
    (e.status = .archived → ∀ operations,
      (engine.run operations).experiments.get? id = some e) ∧
    (e.isLive = true → ∀ now update, update.id = id → engine.TakesUpdate now e update) := by
  have keyed := reachable.keyed
  refine ⟨?_, ?_, ?_, ?_⟩
  · intro live operations
    have started : e.status.Started := by
      rcases Experiment.isLive_iff.mp live with status | status <;>
        · rw [status]
          exact ⟨nofun, nofun⟩
    obtain ⟨e', hstored, hsame, -⟩ := keyed.run_sameDefinition stored started operations
    exact ⟨e', hstored, hsame⟩
  · intro completed operations
    exact (keyed.run_finished stored (.inl completed) operations).imp_right And.right
  · intro archived operations
    rcases keyed.run_finished stored (.inr archived) operations with hstored | ⟨completed, -⟩
    · exact hstored
    · rw [archived] at completed
      cases completed
  · rintro live now update rfl
    exact takesUpdate_of_live stored live

/-! ### A running comparison of two colours -/

/-- The comparison as it runs. -/
def runningColours : Experiment :=
  { colours with
    status := .running
    startTime := some (.ofNanos 2)
    results := some { startTime := some (.ofNanos 2) } }

/-- The comparison with other weights. -/
def reweighedColours : Experiment :=
  { colours with
    description := "Which colour sells"
    variants := [.named "blue" 2.0, .named "green" 1.0]
    segments := ["beta"] }

theorem definition_frozen_colours :
    Reachable ((Engine.standard (.ofNanos 0)).engine.run (coloursRun.take 2)) ∧
      ((Engine.standard (.ofNanos 0)).engine.run (coloursRun.take 2)).experiments.get? "colours" =
        some runningColours ∧
      runningColours.isLive = true ∧
      (∃ e', (((Engine.standard (.ofNanos 0)).engine.run (coloursRun.take 2)).run
          (coloursRun.drop 2)).experiments.get? "colours" = some e' ∧
        runningColours.SameDefinition e') ∧
      ((Engine.standard (.ofNanos 0)).engine.run (coloursRun.take 2)).perform (.ofNanos 3)
        (.updateExperiment reweighedColours) = .error (.frozen "colours" .variants) := by
  have reachable : Reachable ((Engine.standard (.ofNanos 0)).engine.run (coloursRun.take 2)) :=
    (Reachable.constructed (.standard _)).run _
  have stored : ((Engine.standard (.ofNanos 0)).engine.run
      (coloursRun.take 2)).experiments.get? "colours" = some runningColours := rfl
  have live : runningColours.isLive = true := rfl
  obtain ⟨hdefinition, -, -, hupdate⟩ := definition_frozen reachable stored
  have hfirst : (FrozenField.inOrder.find? fun field =>
      !field.agrees runningColours reweighedColours) = some .variants := by decide
  refine ⟨reachable, stored, live, hdefinition live _, ?_⟩
  exact ((hupdate live (.ofNanos 3) reweighedColours rfl).refused .variants hfirst).1

end Engine

end FeatureTrials
