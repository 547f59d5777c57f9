import FeatureTrials.Proofs.Engine.Change
import FeatureTrials.Proofs.Experiment.Assignment
import FeatureTrials.Proofs.Experiment.Lifecycle
import FeatureTrials.Proofs.Experiment.Validity

/-!
# What an engine keeps is in order

Every definition is checked before it is registered, and no operation makes an invalid one of it
later. So in every engine that operations lead to all entries stand under their own names, are
valid, and every rollout has come no further than to its last stage (`Reachable.wellFormed`). This
is why an active stage is never looked for in vain, and why a user whom an experiment lets in is
always assigned a variant.

* `Engine.WellFormed` — the invariant, one registry after the other.
* `WellFormed.step` — every operation keeps it, one kind of write at a time.
-/

namespace FeatureTrials

/-! ## Valid definitions -/

theorem Strategy.stages_ne_nil {strategy : Strategy} (valid : strategy.violation? = none) :
    strategy.stages ≠ [] := by
  intro hstages
  unfold violation? at valid
  split at valid
  · cases valid
  · simp [hstages] at valid

theorem Experiment.variants_ne_nil {e : Experiment} (valid : e.violation? = none) :
    e.variants ≠ [] := by
  intro hvariants
  have two := (violation?_eq_none_iff.mp valid).two_variants
  rw [hvariants] at two
  exact absurd two (by decide)

/-- A move touches nothing that a definition is checked for. -/
theorem Experiment.violation?_moved (e : Experiment) (move : Move) (compare : Experiment → Results)
    (now : Instant) : (e.moved move compare now).violation? = e.violation? := by
  cases move <;> rfl

/-- A new rollout is on the first of its stages. -/
theorem Strategy.start_inRange {strategy : Strategy} (valid : strategy.violation? = none)
    (now : Instant) : (Progress.start now).stageIndex < strategy.stages.length :=
  List.length_pos_iff.mpr (stages_ne_nil valid)

/-- What a sweep makes of a rollout: it commits, and does what failed checks ask for. -/
theorem Rollout.progress_step (rollout : Rollout) (metrics : Metrics) (now : Instant) :
    (rollout.step metrics now).progress = rollout.progress.after rollout.strategy now .tick ∨
      ∃ action, (rollout.step metrics now).progress =
        (rollout.progress.after rollout.strategy now .tick).after rollout.strategy now
          (.apply action) := by
  rw [Rollout.step]
  dsimp only
  split
  · next action _ => exact .inr ⟨action, rfl⟩
  · exact .inl rfl

/-- A sweep finds the name of the stage that has become active. -/
theorem Rollout.advancedTo_step {rollout : Rollout} {now : Instant}
    (inRange : rollout.progress.stageIndex < rollout.strategy.stages.length)
    (moves : rollout.progress.moves rollout.strategy now = true) (metrics : Metrics) :
    ∃ stage ∈ rollout.strategy.stages, (rollout.step metrics now).advancedTo = some stage.id := by
  have ticked : (rollout.progress.tick rollout.strategy now).stageIndex <
      rollout.strategy.stages.length :=
    Progress.stageIndex_after_lt inRange now .tick
  refine ⟨_, List.getElem_mem ticked, ?_⟩
  rw [Rollout.step]
  dsimp only
  rw [if_pos moves, List.getElem?_eq_getElem ticked, Option.map_some]

namespace Engine

variable {engine : Engine} {now : Instant} {operation : Operation} {id : String}

/-- All entries stand under their own names and are valid, and all rollouts are on one of their
stages. -/
structure WellFormed (engine : Engine) : Prop where
  flags : engine.flags.All fun key flag => flag.key = key ∧ flag.violation? = none
  segments : engine.segments.All fun id segment => segment.id = id ∧ segment.violation? = none
  rollouts : engine.rollouts.All fun id rollout =>
    rollout.strategy.id = id ∧ rollout.strategy.violation? = none ∧
      rollout.progress.stageIndex < rollout.strategy.stages.length
  experiments : engine.experiments.All fun id e => e.id = id ∧ e.violation? = none

/-! ## New engines -/

theorem segments_seeded (segments : List Segment) :
    (validSegments segments).All fun id segment =>
      segment.id = id ∧ segment.violation? = none := by
  refine Table.all_ofList fun entry hentry => ?_
  obtain ⟨segment, hsegment, rfl⟩ := List.mem_map.mp hentry
  exact ⟨rfl, Option.isNone_iff_eq_none.mp (List.mem_filter.mp hsegment).2⟩

theorem rollouts_seeded (strategies : List Strategy) (now : Instant) :
    (validRollouts strategies now).All fun id rollout =>
      rollout.strategy.id = id ∧ rollout.strategy.violation? = none ∧
        rollout.progress.stageIndex < rollout.strategy.stages.length := by
  refine Table.all_ofList fun entry hentry => ?_
  obtain ⟨strategy, hstrategy, rfl⟩ := List.mem_map.mp hentry
  have valid : strategy.violation? = none :=
    Option.isNone_iff_eq_none.mp (List.mem_filter.mp hstrategy).2
  exact ⟨rfl, valid, strategy.start_inRange valid now⟩

theorem Constructed.wellFormed (constructed : Constructed engine) : engine.WellFormed := by
  obtain ⟨config, now, rfl⟩ := constructed.seeded
  exact
    { flags := Table.all_empty
      segments := segments_seeded config.segments
      rollouts := rollouts_seeded config.strategies now
      experiments := Table.all_empty }

/-! ## One operation -/

/-- A sweep makes of every rollout what it makes of it by itself. -/
theorem rollouts_monitorRollouts (metrics : Metrics) (now : Instant) :
    (engine.monitorRollouts metrics now).engine.rollouts =
      engine.rollouts.map fun _ rollout =>
        { rollout with progress := (rollout.step metrics now).progress } := by
  rw [monitorRollouts]
  dsimp only
  rw [Table.map_map]

/-- A change leaves a valid experiment valid. -/
theorem Change.valid {stored after : Option Experiment}
    (change : Change engine now id operation stored after)
    (before : ∀ e, stored = some e → e.violation? = none) :
    ∀ e, after = some e → e.violation? = none := by
  intro changed hafter
  cases change with
  | kept => exact before changed hafter
  | created _ hvalid =>
    cases hafter
    exact hvalid
  | redefined _ _ hvalid =>
    cases hafter
    exact hvalid
  | @amended current =>
    cases hafter
    exact before current rfl
  | @moved _ e move =>
    cases hafter
    rw [Experiment.violation?_moved]
    exact before e rfl
  | @refreshed e =>
    cases hafter
    exact before e rfl

theorem WellFormed.keyed (wellFormed : engine.WellFormed) : engine.Keyed :=
  fun _ _ stored => (wellFormed.experiments stored).1

theorem WellFormed.experiments_step (wellFormed : engine.WellFormed) (now : Instant)
    (operation : Operation) :
    (engine.step now operation).experiments.All fun id e => e.id = id ∧ e.violation? = none := by
  intro id e stored
  have change := change_step wellFormed.keyed now operation id
  rw [stored] at change
  exact ⟨change.id_eq (fun e' h => (wellFormed.experiments h).1) e rfl,
    change.valid (fun e' h => (wellFormed.experiments h).2) e rfl⟩

/-- A step by hand or by a sweep leaves a rollout on one of its stages. -/
theorem WellFormed.rollouts_stepped (wellFormed : engine.WellFormed) {rollout : Rollout}
    (stored : engine.rollouts.get? id = some rollout) (step : Progress.Step) :
    (engine.withProgress id rollout
        (rollout.progress.after rollout.strategy now step)).rollouts.All fun id rollout =>
      rollout.strategy.id = id ∧ rollout.strategy.violation? = none ∧
        rollout.progress.stageIndex < rollout.strategy.stages.length := by
  obtain ⟨hid, hvalid, inRange⟩ := wellFormed.rollouts stored
  exact wellFormed.rollouts.insert ⟨hid, hvalid, Progress.stageIndex_after_lt inRange now step⟩

theorem WellFormed.rollouts_monitored (wellFormed : engine.WellFormed) (metrics : Metrics)
    (now : Instant) :
    (engine.monitorRollouts metrics now).engine.rollouts.All fun id rollout =>
      rollout.strategy.id = id ∧ rollout.strategy.violation? = none ∧
        rollout.progress.stageIndex < rollout.strategy.stages.length := by
  rw [rollouts_monitorRollouts]
  refine wellFormed.rollouts.map fun id rollout ⟨hid, hvalid, inRange⟩ => ⟨hid, hvalid, ?_⟩
  have ticked := Progress.stageIndex_after_lt inRange now .tick
  rcases rollout.progress_step metrics now with heq | ⟨action, heq⟩
  · rw [heq]
    exact ticked
  · rw [heq]
    exact Progress.stageIndex_after_lt ticked now (.apply action)

/-- Every operation keeps the registries in order. -/
theorem WellFormed.step (wellFormed : engine.WellFormed) (now : Instant) (operation : Operation) :
    (engine.step now operation).WellFormed := by
  have experiments := wellFormed.experiments_step now operation
  have heffect := effect_step engine now operation
  generalize engine.step now operation = after at heffect experiments
  cases heffect with
  | refused => exact wellFormed
  | flagged valid => exact { wellFormed with flags := wellFormed.flags.insert ⟨rfl, valid⟩ }
  | unflagged key => exact { wellFormed with flags := wellFormed.flags.erase key }
  | segmented valid => exact { wellFormed with segments := wellFormed.segments.insert ⟨rfl, valid⟩ }
  | unsegmented id => exact { wellFormed with segments := wellFormed.segments.erase id }
  | @registered strategy valid =>
    exact { wellFormed with
      rollouts := wellFormed.rollouts.insert ⟨rfl, valid, strategy.start_inRange valid now⟩ }
  | stepped step asked stored =>
    exact { wellFormed with rollouts := wellFormed.rollouts_stepped stored step }
  | monitored metrics =>
    exact { wellFormed with rollouts := wellFormed.rollouts_monitored metrics now }
  | created => exact { wellFormed with experiments := experiments }
  | updated => exact { wellFormed with experiments := experiments }
  | moved => exact { wellFormed with experiments := experiments }
  | evaluated flagKey user default =>
    obtain ⟨analytics, heq⟩ := evaluate_eq engine now flagKey user default
    rw [heq]
    exact { wellFormed with }
  | converted conversion =>
    obtain ⟨analytics, heq⟩ := addConversion_eq engine conversion
    rw [heq]
    exact { wellFormed with }
  | swept =>
    cases enabled : engine.config.experimentationEnabled with
    | false =>
      rw [engine_monitorExperiments_of_disabled enabled]
      exact wellFormed
    | true =>
      rw [engine_monitorExperiments wellFormed.keyed enabled] at experiments ⊢
      exact { wellFormed with experiments := experiments }
  | counted => exact { wellFormed with }
  | cleaned => exact { wellFormed with }

theorem Reachable.wellFormed (reachable : Reachable engine) : engine.WellFormed := by
  induction reachable with
  | constructed constructed => exact constructed.wellFormed
  | step now operation _ ih => exact ih.step now operation

/-! ## Nothing is looked for in vain -/

/-- Wherever a stage of a rollout is looked for, it is found. -/
structure FindsStages (engine : Engine) (id : String) (rollout : Rollout) (now : Instant) :
    Prop where
  /-- the stage after the rollout has been moved on by hand -/
  advanced : (rollout.progress.advance rollout.strategy now).stageIndex <
    rollout.strategy.stages.length
  /-- so moving it on is never refused, and answered with that stage -/
  answered : ∃ outcome, engine.advanceRollout id now = .ok outcome ∧
    rollout.strategy.stages[(rollout.progress.advance rollout.strategy now).stageIndex]? =
      some outcome.answer
  /-- the stage after a sweep has committed what has elapsed -/
  ticked : (rollout.progress.tick rollout.strategy now).stageIndex <
    rollout.strategy.stages.length
  /-- so a sweep that moves the rollout names the stage -/
  named : rollout.progress.moves rollout.strategy now = true → ∀ metrics,
    ∃ stage ∈ rollout.strategy.stages, (rollout.step metrics now).advancedTo = some stage.id
  /-- the active stage -/
  active : ∃ stage ∈ rollout.strategy.stages, engine.activeStage id now = .ok stage

theorem WellFormed.findsStages (wellFormed : engine.WellFormed) {rollout : Rollout}
    (stored : engine.rollouts.get? id = some rollout) (now : Instant) :
    engine.FindsStages id rollout now := by
  obtain ⟨-, hvalid, inRange⟩ := wellFormed.rollouts stored
  have advanced : (rollout.progress.advance rollout.strategy now).stageIndex <
      rollout.strategy.stages.length :=
    Progress.stageIndex_after_lt inRange now .advance
  have active := Progress.resolve_index_lt (Strategy.stages_ne_nil hvalid) rollout.progress now
  refine
    { advanced := advanced
      answered := ?_
      ticked := Progress.stageIndex_after_lt inRange now .tick
      named := Rollout.advancedTo_step inRange
      active := ⟨_, List.getElem_mem active, ?_⟩ }
  · have hstage := List.getElem?_eq_getElem advanced
    simp only [advanceRollout, Engine.rollout, find, stored, bind, Except.bind, hstage]
    exact ⟨_, rfl, rfl⟩
  · simp only [activeStage, Engine.rollout, find, stored, bind, Except.bind,
      Progress.activeStage?, List.getElem?_eq_getElem active]
    rfl

/-- A valid experiment lets nobody go without a variant who takes part. -/
theorem WellFormed.assign_eq_none (wellFormed : engine.WellFormed) {e : Experiment} {user : User}
    (stored : engine.experiments.get? id = some e)
    (unassigned : e.assign engine.segments engine.config.segmentationEnabled user = none) :
    Rule.allMatch e.targetingRules user = false ∨
      e.segmentsAdmit engine.segments engine.config.segmentationEnabled user = false ∨
      e.trafficAdmits user = false := by
  have variants := Experiment.variants_ne_nil (wellFormed.experiments stored).2
  have hadmits := (Experiment.assign_eq_none_iff variants).mp unassigned
  simp only [Experiment.admits, Bool.and_eq_false_iff, or_assoc] at hadmits
  exact hadmits

/-- **The registries are in order.** Whatever has been done to an engine, the entries of its
registries stand under their own names and are valid, and rollouts are on one of their stages. So
stages are never looked for in vain, and who is assigned no variant of an experiment is kept out by
its rules, its segments or its traffic. -/
theorem registries_in_order (reachable : Reachable engine) :
    engine.WellFormed ∧
    (∀ id rollout now, engine.rollouts.get? id = some rollout →
      engine.FindsStages id rollout now) ∧
    (∀ id e user, engine.experiments.get? id = some e →
      e.assign engine.segments engine.config.segmentationEnabled user = none →
      Rule.allMatch e.targetingRules user = false ∨
        e.segmentsAdmit engine.segments engine.config.segmentationEnabled user = false ∨
        e.trafficAdmits user = false) := by
  have wellFormed := reachable.wellFormed
  refine ⟨wellFormed, ?_, ?_⟩
  · intro id rollout now stored
    exact wellFormed.findsStages stored now
  · intro id e user stored unassigned
    exact wellFormed.assign_eq_none stored unassigned

/-! ### Seeds of which some are left out

Of the configured strategies one has no stages, and two have the same id. The rollout of the one
that counts is moved on to its last stage, and then once more. -/

/-- Settings with a strategy that has no stages, and with one that is replaced by a later one. -/
def mixedSeeds : Config :=
  { Config.standard (.ofNanos 0) with
    strategies :=
      [.canary, .named "empty" .canary [], { Strategy.canary with name := "Second canary" }] }

/-- What is done to the engine that is made of them. -/
def canaryRun : List (Instant × Operation) :=
  [(.ofNanos 1, .advanceRollout "canary_deployment"),
    (.ofNanos 2, .advanceRollout "canary_deployment"),
    (.ofNanos 3, .monitorRollouts fun _ _ _ => none),
    (.ofNanos 4, .createExperiment { colours with trafficPercent := 0.0 })]

/-- The engine that this leads to. -/
def canaryEngine : Engine := (seeded mixedSeeds (.ofNanos 0)).engine.run canaryRun

/-- The rollout of the strategy that counts, on its last stage. -/
def canaryRollout : Rollout :=
  { strategy := { Strategy.canary with name := "Second canary" }
    progress :=
      { Progress.start (.ofNanos 0) with stageIndex := 1, stageStartedAt := .ofNanos 1 } }

/-- The experiment that lets nobody in. -/
def closedColours : Experiment :=
  { colours with trafficPercent := 0.0, results := some .initial }

theorem registries_in_order_canary :
    Reachable canaryEngine ∧ canaryEngine.WellFormed ∧
      canaryEngine.rollouts.names = ["canary_deployment"] ∧
      canaryEngine.rollouts.get? "canary_deployment" = some canaryRollout ∧
      canaryEngine.FindsStages "canary_deployment" canaryRollout (.ofNanos 5) ∧
      canaryEngine.experiments.get? "colours" = some closedColours ∧
      closedColours.assign canaryEngine.segments true { id := "ann" } = none ∧
      (Rule.allMatch closedColours.targetingRules { id := "ann" } = false ∨
        closedColours.segmentsAdmit canaryEngine.segments true { id := "ann" } = false ∨
        closedColours.trafficAdmits { id := "ann" } = false) := by
  have hnew : Engine.new mixedSeeds (.ofNanos 0) = .ok (seeded mixedSeeds (.ofNanos 0)) := rfl
  have reachable : Reachable canaryEngine := (Reachable.constructed (.new hnew)).run _
  have stored : canaryEngine.rollouts.get? "canary_deployment" = some canaryRollout := rfl
  have created : canaryEngine.experiments.get? "colours" = some closedColours := rfl
  have unassigned : closedColours.assign canaryEngine.segments true { id := "ann" } = none := by
    refine (Experiment.assign_eq_none_iff (List.cons_ne_nil _ _)).mpr ?_
    decide +kernel
  obtain ⟨wellFormed, hstages, hassign⟩ := registries_in_order reachable
  refine ⟨reachable, wellFormed, ?_, stored, hstages _ _ (.ofNanos 5) stored, created, unassigned,
    hassign _ _ _ created unassigned⟩
  decide +kernel

end Engine

end FeatureTrials
