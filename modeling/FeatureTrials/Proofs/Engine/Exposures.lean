import FeatureTrials.Proofs.Analytics.Samples
import FeatureTrials.Proofs.Experiment.Assignment
import FeatureTrials.Proofs.Experiment.Frozen

/-!
# Exposures fit the experiments

An exposure is put on record only while its experiment runs, and names the variant in whose share
the user's bucket lies. Both stay as they are from then on: the experiment keeps its definition, and
the bucket depends on its id and the user alone. So every exposure on record can be explained from
the experiments as they are now (`Reachable.explains`). It follows that an experiment never has two
exposures of one user to different variants, and that its results count every user once.

* `Engine.Explains` — why an exposure is on record.
-/

namespace FeatureTrials

namespace Engine

variable {engine : Engine} {now : Instant} {operation : Operation} {x : Exposure}

/-- An exposure is explained by its experiment: it has started, and the bucket of the user lies in
the share of the variant. -/
def Explains (engine : Engine) (x : Exposure) : Prop :=
  ∃ e v, engine.experiments.get? x.experiment = some e ∧ e.status.Started ∧
    e.pickVariant (Bucket.fine e.variantScope x.user) = some v ∧ v.id = x.variant

/-! ## Where exposures come from -/

/-- The exposure that an assignment puts on record. -/
def exposureOf (assignment : Assignment) (user : User) (now : Instant) : Exposure :=
  ⟨user.id, assignment.experimentId, assignment.variantId, now⟩

/-- What an evaluation puts on record is an exposure to the assigned variant. -/
theorem mem_exposures_evaluate {flagKey : String} {user : User} {default : FlagValue}
    (h : x ∈ (engine.evaluate flagKey user default now).engine.analytics.log.exposures.toList) :
    x ∈ engine.analytics.log.exposures.toList ∨
      ∃ assignment, engine.assignment? flagKey user = some assignment ∧
        x = exposureOf assignment user now := by
  have hevaluation (engine : Engine) (detail : Detail FlagValue) :
      (engine.recordEvaluation flagKey user detail default now).analytics.log.exposures =
        engine.analytics.log.exposures := by
    unfold recordEvaluation
    split <;> rfl
  rw [evaluate, hevaluation] at h
  cases hassignment : engine.assignment? flagKey user with
  | none =>
    rw [hassignment] at h
    exact .inl h
  | some assignment =>
    rw [hassignment] at h
    dsimp only [recordExposure] at h
    split at h
    · rw [Analytics.expose, EventLog.exposures_addExposure, List.mem_append,
        List.mem_singleton] at h
      exact h.imp_right fun heq => ⟨assignment, rfl, heq⟩
    · exact .inl h

/-- After an operation the exposures are among those before it, but for one that an evaluation puts
on record. -/
theorem mem_exposures_step (keyed : engine.Keyed)
    (h : x ∈ (engine.step now operation).analytics.log.exposures.toList) :
    x ∈ engine.analytics.log.exposures.toList ∨
      ∃ flagKey user default assignment, operation = .evaluate flagKey user default ∧
        engine.assignment? flagKey user = some assignment ∧
        x = exposureOf assignment user now := by
  have heffect := effect_step engine now operation
  generalize engine.step now operation = after at heffect h
  cases heffect with
  | evaluated flagKey user default =>
    rcases mem_exposures_evaluate h with hold | ⟨assignment, hassignment, hx⟩
    · exact .inl hold
    · exact .inr ⟨flagKey, user, default, assignment, rfl, hassignment, hx⟩
  | converted conversion =>
    unfold addConversion at h
    split at h <;> exact .inl h
  | swept =>
    cases enabled : engine.config.experimentationEnabled with
    | true =>
      rw [engine_monitorExperiments keyed enabled] at h
      exact .inl h
    | false =>
      rw [engine_monitorExperiments_of_disabled enabled] at h
      exact .inl h
  | cleaned =>
    unfold Analytics.cleanup at h
    cases hcutoff : engine.analytics.cutoff? now with
    | none =>
      rw [hcutoff] at h
      exact .inl h
    | some cutoff =>
      rw [hcutoff] at h
      dsimp only [EventLog.after] at h
      rw [Array.toList_filter] at h
      exact .inl (List.mem_filter.mp h).1
  | _ => exact .inl h

/-! ## Why they stay explained -/

/-- The experiment bound to a flag is running. -/
theorem experimentFor?_eq_some {flagKey : String} {e : Experiment}
    (h : engine.experimentFor? flagKey = some e) :
    e ∈ engine.experiments.values ∧ e.status = .running := by
  unfold experimentFor? at h
  obtain ⟨hrunning, -⟩ := Bool.and_eq_true_iff.mp
    (List.find?_some (p := fun e : Experiment => e.isRunning && e.affectsFlag flagKey) h)
  exact ⟨List.mem_of_find?_eq_some h, of_decide_eq_true hrunning⟩

/-- The exposure of an assigned variant is explained by the experiment that runs. -/
theorem explains_of_assignment? (keyed : engine.Keyed) {flagKey : String} {user : User}
    {assignment : Assignment} (h : engine.assignment? flagKey user = some assignment) :
    engine.Explains (exposureOf assignment user now) := by
  unfold assignment? at h
  split at h
  · obtain ⟨e, hfound, h⟩ := Option.bind_eq_some_iff.mp h
    obtain ⟨v, hassigned, rfl⟩ := Option.map_eq_some_iff.mp h
    obtain ⟨hvalue, status⟩ := experimentFor?_eq_some hfound
    refine ⟨e, v, keyed.mem_values_iff.mp hvalue, ?_,
      (Experiment.assign_eq_some.mp hassigned).2, rfl⟩
    rw [status]
    exact ⟨nofun, nofun⟩
  · cases h

/-- The variant of a bucket is decided by what is frozen. -/
theorem pickVariant_of_sameDefinition {e e' : Experiment} (same : e.SameDefinition e')
    (user : String) :
    e'.pickVariant (Bucket.fine e'.variantScope user) =
      e.pickVariant (Bucket.fine e.variantScope user) := by
  rw [same]
  rfl

/-- What is explained stays explained. -/
theorem Explains.step (explains : engine.Explains x) (keyed : engine.Keyed) (now : Instant)
    (operation : Operation) : (engine.step now operation).Explains x := by
  obtain ⟨e, v, stored, started, hpick, hvariant⟩ := explains
  have change := change_step keyed now operation x.experiment
  rw [stored] at change
  obtain ⟨e', hafter, hsame⟩ := change.sameDefinition started
  rw [hafter] at change
  refine ⟨e', v, hafter, change.started started, ?_, hvariant⟩
  rw [pickVariant_of_sameDefinition hsame]
  exact hpick

/-- Every exposure on record is explained by the experiments as they are. -/
theorem Reachable.explains (reachable : Reachable engine) :
    ∀ x ∈ engine.analytics.log.exposures.toList, engine.Explains x := by
  induction reachable with
  | constructed constructed =>
    intro x hx
    obtain ⟨config, now, rfl⟩ := constructed.seeded
    cases hx
  | @step engine now operation before ih =>
    intro x hx
    have keyed := before.keyed
    -- an old exposure stays explained; a new one is explained before its operation already
    rcases mem_exposures_step keyed hx with
      hold | ⟨flagKey, user, default, assignment, rfl, hassignment, rfl⟩
    · exact (ih x hold).step keyed now operation
    · exact (explains_of_assignment? keyed hassignment).step keyed now _

/-! ## Disjoint arms -/

theorem Explains.declared (explains : engine.Explains x) :
    ∃ e, engine.experiments.get? x.experiment = some e ∧ ∃ v ∈ e.variants, v.id = x.variant := by
  obtain ⟨e, v, stored, -, hpick, hvariant⟩ := explains
  exact ⟨e, stored, v, Experiment.pickVariant_mem hpick, hvariant⟩

theorem Explains.variant_eq {y : Exposure} (hx : engine.Explains x) (hy : engine.Explains y)
    (experiment : x.experiment = y.experiment) (user : x.user = y.user) :
    x.variant = y.variant := by
  obtain ⟨e, v, stored, -, hpick, hvariant⟩ := hx
  obtain ⟨e', v', stored', -, hpick', hvariant'⟩ := hy
  rw [experiment, stored'] at stored
  cases stored
  rw [user, hpick'] at hpick
  cases hpick
  rw [← hvariant, hvariant']

/-- **Arms are disjoint.** Whatever has been done to an engine, every exposure on record names an
experiment and a variant that it declares, nobody has exposures to two variants of an experiment,
and the results of an experiment count each of its users once. -/
theorem arms_disjoint (reachable : Reachable engine) :
    (∀ x ∈ engine.analytics.log.exposures.toList, ∃ e,
      engine.experiments.get? x.experiment = some e ∧ ∃ v ∈ e.variants, v.id = x.variant) ∧
    (∀ x ∈ engine.analytics.log.exposures.toList, ∀ y ∈ engine.analytics.log.exposures.toList,
      x.experiment = y.experiment → x.user = y.user → x.variant = y.variant) ∧
    (∀ id e now, engine.experiments.get? id = some e → ∃ results,
      engine.experimentResults id now = .ok results ∧
        results.totalSamples = (engine.analytics.log.exposedUsers id).card) := by
  have explains := reachable.explains
  refine ⟨fun x hx => (explains x hx).declared, ?_, ?_⟩
  · intro x hx y hy experiment user
    exact (explains x hx).variant_eq (explains y hy) experiment user
  · intro id e now stored
    have hid : e.id = id := reachable.keyed stored
    subst hid
    refine ⟨engine.compare e now, ?_, Experiment.totalSamples_compare ?_ ?_⟩
    · simp only [experimentResults, experiment, find, stored, bind, Except.bind]
      rfl
    · intro x hx
      obtain ⟨hmem, hexperiment⟩ := EventLog.mem_exposuresOf.mp hx
      obtain ⟨e', stored', hdeclared⟩ := (explains x hmem).declared
      rw [hexperiment, stored] at stored'
      cases stored'
      exact hdeclared
    · intro x hx y hy user
      obtain ⟨hxmem, hxexperiment⟩ := EventLog.mem_exposuresOf.mp hx
      obtain ⟨hymem, hyexperiment⟩ := EventLog.mem_exposuresOf.mp hy
      exact (explains x hxmem).variant_eq (explains y hymem)
        (hxexperiment.trans hyexperiment.symm) user

/-! ### Two users who see different colours

One of them comes back, and is counted once. -/

/-- A visit is an evaluation of the flag of the comparison. -/
def visit (user : String) : Operation := .evaluate "colour" { id := user } (.bool true)

/-- The comparison is started and visited. -/
def visitedRun : List (Instant × Operation) :=
  coloursRun.take 2 ++
    [(.ofNanos 3, visit "ann"), (.ofNanos 4, visit "kim"), (.ofNanos 5, visit "ann")]

theorem arms_disjoint_colours :
    Reachable ((Engine.standard (.ofNanos 0)).engine.run visitedRun) ∧
      (((Engine.standard (.ofNanos 0)).engine.run visitedRun).analytics.log.exposures.toList.map
        fun x => (x.user, x.variant)) = [("ann", "green"), ("kim", "blue"), ("ann", "green")] ∧
      ∃ results,
        ((Engine.standard (.ofNanos 0)).engine.run visitedRun).experimentResults "colours"
          (.ofNanos 6) = .ok results ∧ results.totalSamples = 2 := by
  have reachable : Reachable ((Engine.standard (.ofNanos 0)).engine.run visitedRun) :=
    (Reachable.constructed (.standard _)).run _
  have kept (engine : Engine) (now : Instant) (user : String) :
      (engine.step now (visit user)).experiments = engine.experiments := experiments_evaluate ..
  have stored : ((Engine.standard (.ofNanos 0)).engine.run visitedRun).experiments.get? "colours" =
      some runningColours := by
    rw [visitedRun, run_append, run, List.foldl_cons, List.foldl_cons, List.foldl_cons,
      List.foldl_nil, kept, kept, kept]
    rfl
  obtain ⟨-, -, hresults⟩ := arms_disjoint reachable
  obtain ⟨results, hok, htotal⟩ := hresults "colours" runningColours (.ofNanos 6) stored
  have hvisits :
      (((Engine.standard (.ofNanos 0)).engine.run visitedRun).analytics.log.exposures.toList.map
        fun x => (x.user, x.variant)) = [("ann", "green"), ("kim", "blue"), ("ann", "green")] ∧
      (((Engine.standard (.ofNanos 0)).engine.run visitedRun).analytics.log.exposedUsers
        "colours").card = 2 := by
    decide +kernel
  exact ⟨reachable, hvisits.1, results, hok, htotal.trans hvisits.2⟩

end Engine

end FeatureTrials
