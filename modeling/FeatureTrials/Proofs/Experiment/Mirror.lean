import FeatureTrials.Proofs.Engine.Exposures
import FeatureTrials.Proofs.Experiment.Comparison

/-!
# Results mirror the lifecycle

An experiment always has results, and they fit its status: they are empty before it starts, have its
start while it is live, and its start and its end when it is over. The results that are kept when it
is completed are those of a comparison at that moment. Since nobody is exposed to an experiment that
is over, a comparison at any later time comes to the same, as long as no conversion is recorded and
no event is dropped.

* `Experiment.Mirrors` — results that fit. Every change keeps this (`Change.mirrored`).
* `Engine.Settled` — the stored results are those of a comparison at any time.
* `Engine.completionLog` — the events on record when an experiment was completed.
-/

namespace FeatureTrials

/-! ## Results that fit -/

namespace Experiment

/-- Results fit the status of an experiment. -/
structure Mirrors (e : Experiment) (results : Results) : Prop where
  unstarted : e.status = .draft ∨ e.status = .scheduled → results = .initial
  live : e.status = .running ∨ e.status = .paused →
    ∃ start, e.startTime = some start ∧ results.startTime = some start ∧ results.endTime = none
  finished : e.status = .completed ∨ e.status = .archived →
    ∃ start stop, e.startTime = some start ∧ e.endTime = some stop ∧
      results.startTime = some start ∧ results.endTime = some stop ∧
      ∀ name, name ∈ results.variants.names ↔ ∃ v ∈ e.variants, v.id = name

/-- An experiment has results, and they fit. -/
def Mirrored (e : Experiment) : Prop := ∃ results, e.results = some results ∧ e.Mirrors results

variable {e : Experiment} {results : Results} {start stop : Instant}

theorem Mirrors.of_unstarted (unstarted : e.status = .draft ∨ e.status = .scheduled) :
    e.Mirrors .initial where
  unstarted _ := rfl
  live live := by rcases unstarted with status | status <;> simp [status] at live
  finished finished := by rcases unstarted with status | status <;> simp [status] at finished

theorem Mirrors.of_live (live : e.status = .running ∨ e.status = .paused)
    (started : e.startTime = some start) (hstart : results.startTime = some start)
    (hend : results.endTime = none) : e.Mirrors results where
  unstarted unstarted := by rcases live with status | status <;> simp [status] at unstarted
  live _ := ⟨start, started, hstart, hend⟩
  finished finished := by rcases live with status | status <;> simp [status] at finished

theorem Mirrors.of_finished (finished : e.IsFinished) (started : e.startTime = some start)
    (ended : e.endTime = some stop) (hstart : results.startTime = some start)
    (hend : results.endTime = some stop)
    (hvariants : ∀ name, name ∈ results.variants.names ↔ ∃ v ∈ e.variants, v.id = name) :
    e.Mirrors results where
  unstarted unstarted := by rcases finished with status | status <;> simp [status] at unstarted
  live live := by rcases finished with status | status <;> simp [status] at live
  finished _ := ⟨start, stop, started, ended, hstart, hend, hvariants⟩

theorem not_isFinished_of_live (live : e.status = .running ∨ e.status = .paused) :
    ¬ e.IsFinished := by
  rintro (status | status) <;> simp [status] at live

end Experiment

namespace Engine

variable {engine start : Engine} {now : Instant} {operation : Operation} {id : String}
  {e e' : Experiment}

/-- What is completed has results that fit. -/
theorem mirrored_completedAt {begin : Instant} (started : e.startTime = some begin)
    (stop : Instant) : (e.completedAt (some stop) (engine.compare · now)).Mirrored := by
  have finished : ({ e with status := .completed, endTime := some stop } : Experiment).IsFinished :=
    .inl rfl
  refine ⟨_, rfl, .of_finished (.inl rfl) started rfl ?_ ?_ fun name => ?_⟩
  · exact Experiment.startTime_compare.trans started
  · exact Experiment.endTime_compare_of_finished finished
  · have hvariants :
        (engine.compare { e with status := .completed, endTime := some stop } now).variants = _ :=
      Experiment.variants_compare
    dsimp only
    rw [hvariants]
    exact Experiment.mem_names_variantResults_iff

/-- A move along an edge keeps results that fit. -/
theorem mirrored_moved {move : Move} {target : Status} (mirrored : e.Mirrored)
    (edge : Status.Edge move e.status target) :
    (e.moved move (engine.compare · now) now).Mirrored := by
  obtain ⟨results, stored, mirrors⟩ := mirrored
  generalize hstatus : e.status = status at edge
  cases edge with
  | schedule startTime =>
    have hinitial := mirrors.unstarted (.inl hstatus)
    exact ⟨.initial, stored.trans (congrArg some hinitial), .of_unstarted (.inr rfl)⟩
  | startDraft => exact ⟨_, rfl, .of_live (.inl rfl) rfl rfl rfl⟩
  | startScheduled => exact ⟨_, rfl, .of_live (.inl rfl) rfl rfl rfl⟩
  | pause =>
    obtain ⟨begin, started, hstart, hend⟩ := mirrors.live (.inl hstatus)
    exact ⟨results, stored, .of_live (.inr rfl) started hstart hend⟩
  | resume =>
    obtain ⟨begin, started, hstart, hend⟩ := mirrors.live (.inr hstatus)
    exact ⟨results, stored, .of_live (.inl rfl) started hstart hend⟩
  | stop =>
    obtain ⟨begin, started, -, -⟩ := mirrors.live (.inl hstatus)
    exact mirrored_completedAt started now
  | expireRunning =>
    obtain ⟨begin, started, -, -⟩ := mirrors.live (.inl hstatus)
    rw [Experiment.moved]
    cases e.endTime with
    | none => exact mirrored_completedAt started now
    | some stop => exact mirrored_completedAt started stop
  | expirePaused =>
    obtain ⟨begin, started, -, -⟩ := mirrors.live (.inr hstatus)
    rw [Experiment.moved]
    cases e.endTime with
    | none => exact mirrored_completedAt started now
    | some stop => exact mirrored_completedAt started stop
  | archive =>
    obtain ⟨begin, stop, started, ended, hstart, hend, hvariants⟩ := mirrors.finished (.inl hstatus)
    exact ⟨results, stored, .of_finished (.inr rfl) started ended hstart hend hvariants⟩

/-- Every change keeps results that fit. -/
theorem Change.mirrored {stored after : Option Experiment}
    (change : Change engine now id operation stored after)
    (before : ∀ e, stored = some e → e.Mirrored) : ∀ e, after = some e → e.Mirrored := by
  intro changed hafter
  cases change with
  | kept => exact before changed hafter
  | created _ _ hstatus =>
    cases hafter
    exact ⟨_, rfl, .of_unstarted hstatus⟩
  | redefined _ hstatus =>
    cases hafter
    exact ⟨_, rfl, .of_unstarted hstatus⟩
  | @amended current _ _ live =>
    cases hafter
    obtain ⟨results, hresults, mirrors⟩ := before current rfl
    have live := Experiment.isLive_iff.mp live
    obtain ⟨begin, started, hstart, hend⟩ := mirrors.live live
    exact ⟨results, hresults, .of_live live started hstart hend⟩
  | @moved _ e move _ allowed =>
    cases hafter
    exact mirrored_moved (before e rfl) (Status.edge_iff.mpr ⟨allowed, rfl⟩)
  | @refreshed e running =>
    cases hafter
    obtain ⟨_, -, mirrors⟩ := before e rfl
    obtain ⟨begin, started, -, -⟩ := mirrors.live (.inl running)
    have unfinished := Experiment.not_isFinished_of_live (.inl running)
    exact ⟨_, rfl, .of_live (.inl running) started (Experiment.startTime_compare.trans started)
      (Experiment.endTime_compare_of_not_finished unfinished)⟩

/-- In whatever engine operations have led to, every experiment has results that fit. -/
theorem Reachable.mirrored (reachable : Reachable engine) :
    ∀ id e, engine.experiments.get? id = some e → e.Mirrored := by
  induction reachable with
  | constructed constructed =>
    intro id e stored
    rw [constructed.get?_experiments] at stored
    cases stored
  | step now operation before ih =>
    intro id e stored
    exact (change_step before.keyed now operation id).mirrored (ih id) e stored

/-! ## Results that stay -/

/-- The stored results are those of a comparison, whatever the clock reads. -/
def Settled (engine : Engine) (e : Experiment) : Prop :=
  ∀ now, e.results = some (engine.compare e now)

/-- The results of what has been completed are settled. -/
theorem settled_completedAt (engine : Engine) (e : Experiment) (stop now : Instant) :
    engine.Settled (e.completedAt (some stop) (engine.compare · now)) := by
  intro later
  have finished : ({ e with status := .completed, endTime := some stop } : Experiment).IsFinished :=
    .inl rfl
  exact congrArg some (Experiment.compare_of_finished finished rfl later now)

/-- What a change completes is settled. -/
theorem Change.settled (change : Change engine now id operation (some e) (some e'))
    (unfinished : ¬ e.IsFinished) (finished : e'.IsFinished) : engine.Settled e' := by
  cases change with
  | kept => exact absurd finished unfinished
  | redefined => exact absurd finished unfinished
  | amended => exact absurd finished unfinished
  | @moved _ _ move _ allowed =>
    cases move with
    | stop => exact settled_completedAt engine e now now
    | expire =>
      rw [Experiment.moved]
      cases e.endTime with
      | none => exact settled_completedAt engine e now now
      | some stop => exact settled_completedAt engine e stop now
    | archive =>
      have edge := Status.edge_iff.mpr ⟨allowed, rfl⟩
      generalize hstatus : e.status = status at edge
      cases edge
      exact absurd (.inl hstatus) unfinished
    | schedule _ => rcases finished with status | status <;> cases status
    | start => rcases finished with status | status <;> cases status
    | pause => rcases finished with status | status <;> cases status
    | resume => rcases finished with status | status <;> cases status
  | refreshed running =>
    exact absurd finished (Experiment.not_isFinished_of_live (.inl running))

/-! ## What the log and the settings have to do with it -/

@[simp] theorem config_step (keyed : engine.Keyed) (now : Instant) (operation : Operation) :
    (engine.step now operation).config = engine.config := by
  have heffect := effect_step engine now operation
  generalize engine.step now operation = after at heffect
  cases heffect with
  | evaluated flagKey user default =>
    obtain ⟨analytics, heq⟩ := evaluate_eq engine now flagKey user default
    rw [heq]
  | converted conversion =>
    obtain ⟨analytics, heq⟩ := addConversion_eq engine conversion
    rw [heq]
  | swept =>
    cases enabled : engine.config.experimentationEnabled with
    | false => rw [engine_monitorExperiments_of_disabled enabled]
    | true =>
      rw [engine_monitorExperiments keyed enabled]
      rfl
  | _ => rfl

theorem Keyed.config_run (keyed : engine.Keyed) (operations : List (Instant × Operation)) :
    (engine.run operations).config = engine.config := by
  induction operations generalizing engine with
  | nil => rfl
  | cons head rest ih =>
    exact (ih (keyed.step head.1 head.2)).trans (config_step keyed head.1 head.2)

/-- A move by hand writes nothing to the log. -/
theorem analytics_step_of_move? {move : Move} (asked : operation.move? = some (id, move)) :
    (engine.step now operation).analytics = engine.analytics := by
  rw [step, perform_of_move? asked]
  cases hmoved : engine.moveExperiment id move now with
  | error failure => rfl
  | ok outcome =>
    obtain ⟨_, -, -, hengine⟩ := moveExperiment_eq_ok hmoved
    have hanalytics : outcome.engine.analytics = engine.analytics := by
      rw [hengine]
      rfl
    exact hanalytics

/-- A move by hand that is allowed is made. -/
theorem get?_step_of_move? {move : Move} (asked : operation.move? = some (id, move))
    (stored : engine.experiments.get? id = some e) (allowed : move.allowedFrom e.status = true) :
    (engine.step now operation).experiments.get? id =
      some (e.moved move (engine.compare · now) now) := by
  rw [step, perform_of_move? asked, moveExperiment_of_allowed stored allowed]
  exact Table.get?_insert_self ..

/-- What moves an experiment writes nothing to the log. -/
theorem Prompts.analytics_step {move : Move} (prompts : Prompts engine now id e operation move)
    (keyed : engine.Keyed) : (engine.step now operation).analytics = engine.analytics := by
  have hswept : (engine.monitorExperiments now).engine.analytics = engine.analytics := by
    cases enabled : engine.config.experimentationEnabled with
    | false => rw [engine_monitorExperiments_of_disabled enabled]
    | true =>
      rw [engine_monitorExperiments keyed enabled]
      rfl
  cases prompts with
  | asked asked => exact analytics_step_of_move? asked
  | due => exact hswept
  | ended => exact hswept
  | decided => exact hswept

/-- What an operation completes is settled afterwards. -/
theorem Keyed.settled_step (keyed : engine.Keyed)
    (unfinished : ∀ e, engine.experiments.get? id = some e → ¬ e.IsFinished)
    (stored : (engine.step now operation).experiments.get? id = some e')
    (finished : e'.IsFinished) : (engine.step now operation).Settled e' := by
  have change := change_step keyed now operation id
  rw [stored] at change
  cases before : engine.experiments.get? id with
  | none =>
    rw [before] at change
    have fresh := change.fresh
    rcases finished with status | status <;> simp [status] at fresh
  | some e =>
    rw [before] at change
    have settled := change.settled (unfinished e before) finished
    obtain ⟨_, hsome, hsame | ⟨move, prompts, -⟩⟩ := change.follows
    · cases hsome
      rcases finished with status | status
      · exact absurd (.inl (hsame.symm.trans status)) (unfinished e before)
      · exact absurd (.inr (hsame.symm.trans status)) (unfinished e before)
    · intro later
      rw [Engine.compare, prompts.analytics_step keyed, config_step keyed]
      exact settled later

/-! ## After completion -/

/-- Whoever is assigned a variant is so by an experiment that runs. -/
theorem Keyed.running_of_assignment? (keyed : engine.Keyed) {flagKey : String} {user : User}
    {assignment : Assignment} (h : engine.assignment? flagKey user = some assignment) :
    ∃ e, engine.experiments.get? assignment.experimentId = some e ∧ e.status = .running := by
  unfold assignment? at h
  split at h
  · obtain ⟨e, hfound, h⟩ := Option.bind_eq_some_iff.mp h
    obtain ⟨v, -, rfl⟩ := Option.map_eq_some_iff.mp h
    obtain ⟨hvalue, status⟩ := experimentFor?_eq_some hfound
    exact ⟨e, keyed.mem_values_iff.mp hvalue, status⟩
  · cases h

/-- Nobody is exposed to an experiment that is over. -/
theorem Keyed.exposuresOf_step (keyed : engine.Keyed)
    (stored : engine.experiments.get? id = some e) (finished : e.IsFinished) {x : Exposure}
    (h : x ∈ (engine.step now operation).analytics.log.exposuresOf id) :
    x ∈ engine.analytics.log.exposuresOf id := by
  obtain ⟨hmem, hid⟩ := EventLog.mem_exposuresOf.mp h
  rcases mem_exposures_step keyed hmem with
    hold | ⟨flagKey, user, default, assignment, -, hassignment, rfl⟩
  · exact EventLog.mem_exposuresOf.mpr ⟨hold, hid⟩
  · obtain ⟨other, hother, running⟩ := keyed.running_of_assignment? hassignment
    have hassigned : assignment.experimentId = id := hid
    rw [hassigned, stored] at hother
    cases hother
    exact absurd finished (Experiment.not_isFinished_of_live (.inl running))

theorem Keyed.exposuresOf_run (keyed : engine.Keyed)
    (stored : engine.experiments.get? id = some e) (finished : e.IsFinished)
    (operations : List (Instant × Operation)) {x : Exposure}
    (h : x ∈ (engine.run operations).analytics.log.exposuresOf id) :
    x ∈ engine.analytics.log.exposuresOf id := by
  induction operations generalizing engine e with
  | nil => exact h
  | cons head rest ih =>
    have change := change_step keyed head.1 head.2 id
    rw [stored] at change
    have hlater : ∃ e', (engine.step head.1 head.2).experiments.get? id = some e' ∧
        e'.IsFinished := by
      rcases change.of_finished finished with hafter | ⟨-, hafter⟩
      · exact ⟨e, hafter, finished⟩
      · exact ⟨_, hafter, .inr rfl⟩
    obtain ⟨e', hafter, finished'⟩ := hlater
    exact keyed.exposuresOf_step stored finished (ih (keyed.step head.1 head.2) hafter finished' h)

end Engine

/-- From one log to a later one, no conversion of an experiment has been recorded, and no event of
it has been dropped. -/
structure EventLog.Retains (earlier later : EventLog) (experiment : String) : Prop where
  unrecorded : ∀ c ∈ later.conversionsOf experiment, c ∈ earlier.conversionsOf experiment
  conversions : ∀ c ∈ earlier.conversionsOf experiment, c ∈ later.conversionsOf experiment
  exposures : ∀ x ∈ earlier.exposuresOf experiment, x ∈ later.exposuresOf experiment

namespace Engine

variable {engine start : Engine} {id : String} {e : Experiment}

/-- Settled results stay settled as long as the events stay. -/
theorem Keyed.settled_run (keyed : engine.Keyed) (stored : engine.experiments.get? id = some e)
    (finished : e.IsFinished) (settled : engine.Settled e)
    {operations : List (Instant × Operation)}
    (retains : engine.analytics.log.Retains (engine.run operations).analytics.log id) :
    ∃ e', (engine.run operations).experiments.get? id = some e' ∧
      (engine.run operations).Settled e' := by
  have hid : e.id = id := keyed stored
  have hsamples : (engine.run operations).analytics.log.samples e.id =
      engine.analytics.log.samples e.id := by
    rw [hid]
    refine EventLog.samples_congr (fun x => ?_) fun c => ?_
    · exact ⟨keyed.exposuresOf_run stored finished operations, retains.exposures x⟩
    · exact ⟨retains.unrecorded c, retains.conversions c⟩
  have hcompare : ∀ now, (engine.run operations).compare e now = engine.compare e now := by
    intro now
    rw [Engine.compare, Engine.compare, hsamples, keyed.config_run]
  rcases keyed.run_finished stored finished operations with hlater | ⟨completed, hlater⟩
  · refine ⟨e, hlater, fun now => ?_⟩
    rw [hcompare]
    exact settled now
  · refine ⟨_, hlater, fun now => ?_⟩
    have harchived : (engine.run operations).compare { e with status := .archived } now =
        (engine.run operations).compare e now := Experiment.compare_archived completed
    rw [harchived, hcompare]
    exact settled now

/-- The events that are on record at the first point of a run at which an experiment is over. -/
def completionLog (id : String) : Engine → List (Instant × Operation) → EventLog
  | engine, [] => engine.analytics.log
  | engine, (now, operation) :: rest =>
    match engine.status? id with
    | some .completed => engine.analytics.log
    | some .archived => engine.analytics.log
    | _ => completionLog id (engine.step now operation) rest

theorem completionLog_of_finished (stored : engine.experiments.get? id = some e)
    (finished : e.IsFinished) (operations : List (Instant × Operation)) :
    engine.completionLog id operations = engine.analytics.log := by
  have hstatus : engine.status? id = some e.status := status?_eq_some.mpr ⟨e, stored, rfl⟩
  cases operations with
  | nil => rfl
  | cons head rest =>
    rw [completionLog]
    rcases finished with status | status
    · rw [hstatus, status]
    · rw [hstatus, status]

theorem completionLog_of_unfinished
    (unfinished : ∀ e, engine.experiments.get? id = some e → ¬ e.IsFinished) (now : Instant)
    (operation : Operation) (rest : List (Instant × Operation)) :
    engine.completionLog id ((now, operation) :: rest) =
      (engine.step now operation).completionLog id rest := by
  rw [completionLog]
  split
  · next hstatus =>
    obtain ⟨e, stored, status⟩ := status?_eq_some.mp hstatus
    exact absurd (.inl status) (unfinished e stored)
  · next hstatus =>
    obtain ⟨e, stored, status⟩ := status?_eq_some.mp hstatus
    exact absurd (.inr status) (unfinished e stored)
  · rfl

/-- An experiment that is not over at the end of a run was not completed during it. -/
theorem Keyed.completionLog_append (keyed : engine.Keyed)
    {first : List (Instant × Operation)}
    (unfinished : ∀ e, (engine.run first).experiments.get? id = some e → ¬ e.IsFinished)
    (rest : List (Instant × Operation)) :
    engine.completionLog id (first ++ rest) = (engine.run first).completionLog id rest := by
  induction first generalizing engine with
  | nil => rfl
  | cons head first ih =>
    have before : ∀ e, engine.experiments.get? id = some e → ¬ e.IsFinished := by
      intro e stored finished
      rcases keyed.run_finished stored finished (head :: first) with hlater | ⟨-, hlater⟩
      · exact unfinished e hlater finished
      · exact unfinished _ hlater (.inr rfl)
    rw [List.cons_append, completionLog_of_unfinished before]
    exact ih (keyed.step head.1 head.2) unfinished

/-- An experiment that is over at the end of a run is settled then, as long as its events have
stayed since it was completed. -/
theorem Keyed.settled_of_finished (keyed : engine.Keyed)
    (settled : ∀ e, engine.experiments.get? id = some e → e.IsFinished → engine.Settled e)
    {operations : List (Instant × Operation)}
    (stored : (engine.run operations).experiments.get? id = some e) (finished : e.IsFinished)
    (retains : (engine.completionLog id operations).Retains
      (engine.run operations).analytics.log id) : (engine.run operations).Settled e := by
  induction operations generalizing engine with
  | nil => exact settled e stored finished
  | cons head rest ih =>
    by_cases done : ∃ e, engine.experiments.get? id = some e ∧ e.IsFinished
    · obtain ⟨first, hfirst, hfinished⟩ := done
      rw [completionLog_of_finished hfirst hfinished] at retains
      obtain ⟨later, hlater, hsettled⟩ :=
        keyed.settled_run hfirst hfinished (settled first hfirst hfinished) retains
      rw [stored] at hlater
      cases hlater
      exact hsettled
    · have unfinished : ∀ e, engine.experiments.get? id = some e → ¬ e.IsFinished :=
        fun e hstored hfinished => done ⟨e, hstored, hfinished⟩
      rw [completionLog_of_unfinished unfinished] at retains
      exact ih (keyed.step head.1 head.2)
        (fun e hstored hfinished => keyed.settled_step unfinished hstored hfinished) stored retains

/-- **Results mirror the status.** In whatever engine operations have led to, every experiment has
results that fit its status. The results of one that is over are what a comparison comes to at any
reading of the clock, as long as no conversion of it has been recorded and no event of it dropped
since it was completed. -/
theorem results_mirror (constructed : Constructed start)
    (operations : List (Instant × Operation)) :
    (∀ id e, (start.run operations).experiments.get? id = some e →
      ∃ results, e.results = some results ∧ e.Mirrors results) ∧
    (∀ id e, (start.run operations).experiments.get? id = some e →
      e.status = .completed ∨ e.status = .archived →
      (start.completionLog id operations).Retains (start.run operations).analytics.log id →
      ∃ results, e.results = some results ∧
        ∀ now, (start.run operations).experimentResults id now = .ok results) := by
  have reachable : Reachable start := .constructed constructed
  refine ⟨(reachable.run operations).mirrored, ?_⟩
  intro id e stored finished retains
  have fresh : ∀ e, start.experiments.get? id = some e → e.IsFinished → start.Settled e := by
    intro e hstored
    rw [constructed.get?_experiments] at hstored
    cases hstored
  have settled := reachable.keyed.settled_of_finished fresh stored finished retains
  refine ⟨(start.run operations).compare e (.ofNanos 0), settled _, fun now => ?_⟩
  have hsame := (settled now).symm.trans (settled (.ofNanos 0))
  simp only [experimentResults, experiment, find, stored, bind, Except.bind]
  exact congrArg Except.ok (Option.some.inj hsame)

/-! ### A comparison that is over

It is visited, has a conversion, and is stopped. After that it is archived, and the totals are
taken. -/

/-- The comparison with visits and a conversion. -/
def convertedRun : List (Instant × Operation) :=
  visitedRun ++ [(.ofNanos 6, .recordConversion "colours" "green" "ann" "purchase" 20.0)]

/-- What is done with it at the end. -/
def closingRun : List (Instant × Operation) :=
  [(.ofNanos 7, .stopExperiment "colours"), (.ofNanos 8, .archiveExperiment "colours"),
    (.ofNanos 9, .processAnalytics)]

/-- All that is done to the comparison. -/
def closedRun : List (Instant × Operation) := convertedRun ++ closingRun

/-- At the end the comparison is archived, and no event has come or gone. -/
theorem closed_of_running (stored : engine.experiments.get? "colours" = some runningColours) :
    (∃ e, (engine.run closingRun).experiments.get? "colours" = some e ∧ e.status = .archived) ∧
      (engine.run closingRun).analytics.log = engine.analytics.log ∧
      engine.completionLog "colours" closingRun = engine.analytics.log := by
  have unfinished : ∀ e, engine.experiments.get? "colours" = some e → ¬ e.IsFinished := by
    intro e hstored
    rw [stored] at hstored
    cases hstored
    exact Experiment.not_isFinished_of_live (.inl rfl)
  have hstopped : (engine.step (.ofNanos 7) (.stopExperiment "colours")).experiments.get?
      "colours" = _ := get?_step_of_move? rfl stored rfl
  have harchived : ((engine.step (.ofNanos 7) (.stopExperiment "colours")).step (.ofNanos 8)
      (.archiveExperiment "colours")).experiments.get? "colours" = _ :=
    get?_step_of_move? rfl hstopped rfl
  have hlog : (engine.step (.ofNanos 7) (.stopExperiment "colours")).analytics =
      engine.analytics := analytics_step_of_move? rfl
  refine ⟨⟨_, harchived, rfl⟩, ?_, ?_⟩
  · have hlater : ((engine.step (.ofNanos 7) (.stopExperiment "colours")).step (.ofNanos 8)
        (.archiveExperiment "colours")).analytics = _ := analytics_step_of_move? rfl
    have hrun : (engine.run closingRun).analytics.log =
        ((engine.step (.ofNanos 7) (.stopExperiment "colours")).step (.ofNanos 8)
          (.archiveExperiment "colours")).analytics.log := rfl
    rw [hrun, hlater, hlog]
  · rw [closingRun, completionLog_of_unfinished unfinished,
      completionLog_of_finished hstopped (.inl rfl), hlog]

theorem results_mirror_colours :
    Constructed (Engine.standard (.ofNanos 0)).engine ∧
      ((Engine.standard (.ofNanos 0)).engine.completionLog "colours" closedRun).Retains
        ((Engine.standard (.ofNanos 0)).engine.run closedRun).analytics.log "colours" ∧
      ∃ e results,
        ((Engine.standard (.ofNanos 0)).engine.run closedRun).experiments.get? "colours" =
          some e ∧
        e.status = .archived ∧ e.results = some results ∧ e.Mirrors results ∧
        ∀ now, ((Engine.standard (.ofNanos 0)).engine.run closedRun).experimentResults "colours"
          now = .ok results := by
  have constructed : Constructed (Engine.standard (.ofNanos 0)).engine := .standard _
  have keyed := (Reachable.constructed constructed).keyed
  -- neither a visit nor a conversion touches the experiments
  have visited (engine : Engine) (now : Instant) (user : String) :
      (engine.step now (visit user)).experiments = engine.experiments := experiments_evaluate ..
  have converted (engine : Engine) (now : Instant) (value : Float) :
      (engine.step now (.recordConversion "colours" "green" "ann" "purchase" value)).experiments =
        engine.experiments := by
    have heffect := effect_step engine now
      (.recordConversion "colours" "green" "ann" "purchase" value)
    generalize engine.step now _ = after at heffect
    cases heffect with
    | refused => rfl
    | stepped _ asked => cases asked
    | moved asked => cases asked
    | converted conversion => exact experiments_addConversion engine conversion
  have running : ((Engine.standard (.ofNanos 0)).engine.run convertedRun).experiments.get?
      "colours" = some runningColours := by
    rw [convertedRun, visitedRun, run_append, run_append, run_cons, run_cons, run_cons, run_nil,
      run_cons, run_nil, converted, visited, visited, visited]
    rfl
  have unfinished : ∀ e, ((Engine.standard (.ofNanos 0)).engine.run
      convertedRun).experiments.get? "colours" = some e → ¬ e.IsFinished := by
    intro e stored
    rw [running] at stored
    cases stored
    exact Experiment.not_isFinished_of_live (.inl rfl)
  obtain ⟨⟨e, stored, archived⟩, hlog, hcompletion⟩ := closed_of_running running
  rw [← run_append, ← closedRun] at stored hlog
  have retains : ((Engine.standard (.ofNanos 0)).engine.completionLog "colours" closedRun).Retains
      ((Engine.standard (.ofNanos 0)).engine.run closedRun).analytics.log "colours" := by
    rw [hlog, closedRun, keyed.completionLog_append unfinished, hcompletion]
    exact ⟨fun _ h => h, fun _ h => h, fun _ h => h⟩
  obtain ⟨hmirror, hsettled⟩ := results_mirror constructed closedRun
  obtain ⟨results, hresults, mirrors⟩ := hmirror "colours" e stored
  obtain ⟨others, hothers, hsame⟩ := hsettled "colours" e stored (.inr archived) retains
  rw [hresults] at hothers
  cases hothers
  exact ⟨constructed, retains, e, results, stored, archived, hresults, mirrors, hsame⟩

end Engine

end FeatureTrials
