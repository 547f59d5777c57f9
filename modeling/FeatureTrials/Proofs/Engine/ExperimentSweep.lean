import FeatureTrials.Proofs.Engine.Change
import FeatureTrials.Proofs.Experiment.Lifecycle
import FeatureTrials.Proofs.Text.Bytes

/-!
# What a sweep of the experiments does

A sweep starts what is due, completes what has ended or is decided, and refreshes the results of the
rest of what is running. `SweptAs` says so experiment by experiment, and names the ids in the
answer. The order in which the registry is walked through plays no part: a sweep reads off which
experiments are due and which are live in any order, and sorts them by their ids
(`sweepListed_eq`).

* `Experiment.Due`, `Experiment.Ended`, `Conclusive` — what a sweep finds.
* `SweptAs` — what it leaves behind.
-/

namespace FeatureTrials

variable {engine : Engine} {now : Instant} {e : Experiment} {id : String}

/-! ## What a sweep finds -/

/-- The experiment is scheduled, and it has no start or one that has come. -/
def Experiment.Due (e : Experiment) (now : Instant) : Prop :=
  e.status = .scheduled ∧ ∀ start, e.startTime = some start → start ≤ now

/-- The experiment is running or paused, and its end has come. -/
def Experiment.Ended (e : Experiment) (now : Instant) : Prop :=
  (e.status = .running ∨ e.status = .paused) ∧ ∃ stop, e.endTime = some stop ∧ stop ≤ now

theorem Experiment.not_due_of_live (live : e.isLive = true) : ¬ e.Due now := by
  rintro ⟨scheduled, -⟩
  simp [Experiment.isLive, scheduled] at live

namespace Engine

/-- The experiment is running, its end has not come, and its results from the current samples are
significant with the confidence that is asked for. -/
def Conclusive (engine : Engine) (now : Instant) (e : Experiment) : Prop :=
  e.status = .running ∧ ¬ e.Ended now ∧ (engine.compare e now).significant = true ∧
    (engine.compare e now).confidence ≥ engine.config.significance

theorem isStartable_iff : isStartable now e = true ↔ e.Due now := by
  rw [isStartable, Bool.and_eq_true, decide_eq_true_iff, Experiment.Due, Experiment.isDue]
  cases e.startTime <;> simp

theorem ended_iff : e.Ended now ↔ e.isLive = true ∧ e.isExpired now = true := by
  rw [Experiment.Ended, Experiment.isLive_iff, Experiment.isExpired_iff]

theorem isExpired_of_not_ended (running : e.status = .running) (ended : ¬ e.Ended now) :
    e.isExpired now = false := by
  rw [ended_iff, Experiment.isLive_iff] at ended
  simpa [running] using ended

theorem conclusive_iff : engine.Conclusive now e ↔
    e.status = .running ∧ e.isExpired now = false ∧
      engine.isConclusive (engine.compare e now) = true := by
  constructor
  · rintro ⟨running, ended, significant, confident⟩
    have expired := isExpired_of_not_ended running ended
    exact ⟨running, expired, by simp [isConclusive, significant, confident]⟩
  · rintro ⟨running, expired, conclusive⟩
    simp [isConclusive] at conclusive
    refine ⟨running, fun ended => ?_, conclusive⟩
    rw [(ended_iff.mp ended).2] at expired
    cases expired

/-- A sweep completes what has ended or is conclusive. -/
theorem completes_iff :
    e.isLive = true ∧ engine.completes now e = true ↔ e.Ended now ∨ engine.Conclusive now e := by
  rw [conclusive_iff, ended_iff, completes]
  constructor
  · rintro ⟨live, completes⟩
    cases expired : e.isExpired now with
    | true => exact .inl ⟨live, rfl⟩
    | false =>
      simp [expired, Experiment.isRunning] at completes
      exact .inr ⟨completes.1, rfl, completes.2⟩
  · rintro (⟨live, expired⟩ | ⟨running, -, conclusive⟩)
    · simp [live, expired]
    · simp [Experiment.isLive, Experiment.isRunning, running, conclusive]

/-! ## What it makes of an experiment -/

theorem swept_of_due (due : e.Due now) :
    engine.swept now e =
      { e with
        status := .running
        startTime := some now
        endTime := match e.duration.bind now.add? with
          | some stop => some stop
          | none => e.endTime
        results := some { verdict := .inProgress, startTime := some now } } := by
  rw [swept, if_pos (isStartable_iff.mpr due), Experiment.moved, Experiment.endTimeFrom?]
  cases e.duration.bind now.add? <;> rfl

theorem swept_of_not_due (due : ¬ e.Due now) (live : e.isLive = true) :
    engine.swept now e = engine.reviewed now e := by
  rw [swept, if_neg (mt isStartable_iff.mp due), if_pos live]

theorem swept_of_ended (ended : e.Ended now) :
    engine.swept now e =
      { e with
        status := .completed
        results := some (engine.compare { e with status := .completed } now) } := by
  obtain ⟨live, expired⟩ := ended_iff.mp ended
  obtain ⟨stop, hstop, -⟩ := ended.2
  rw [swept_of_not_due (Experiment.not_due_of_live live) live, reviewed, if_pos expired]
  simp [Experiment.moved, Experiment.completedAt, hstop]

theorem swept_of_conclusive (conclusive : engine.Conclusive now e) :
    engine.swept now e =
      { e with
        status := .completed
        endTime := some now
        results := some
          (engine.compare { e with status := .completed, endTime := some now } now) } := by
  obtain ⟨running, expired, decided⟩ := conclusive_iff.mp conclusive
  have live : e.isLive = true := Experiment.isLive_iff.mpr (.inl running)
  rw [swept_of_not_due (Experiment.not_due_of_live live) live]
  simp [reviewed, expired, Experiment.isRunning, running, decided, Experiment.moved,
    Experiment.completedAt]

theorem swept_of_running (running : e.status = .running) (ended : ¬ e.Ended now)
    (conclusive : ¬ engine.Conclusive now e) :
    engine.swept now e = { e with results := some (engine.compare e now) } := by
  have live : e.isLive = true := Experiment.isLive_iff.mpr (.inl running)
  have expired := isExpired_of_not_ended running ended
  rw [conclusive_iff] at conclusive
  simp [running, expired] at conclusive
  rw [swept_of_not_due (Experiment.not_due_of_live live) live]
  simp [reviewed, expired, Experiment.isRunning, running, conclusive]

theorem swept_of_paused (paused : e.status = .paused) (ended : ¬ e.Ended now) :
    engine.swept now e = e := by
  have live : e.isLive = true := Experiment.isLive_iff.mpr (.inr paused)
  rw [ended_iff] at ended
  simp [live] at ended
  rw [swept_of_not_due (Experiment.not_due_of_live live) live]
  simp [reviewed, ended, Experiment.isRunning, paused]

theorem swept_of_idle (due : ¬ e.Due now)
    (idle : e.status = .scheduled ∨ e.status = .draft ∨ e.status = .completed ∨
      e.status = .archived) : engine.swept now e = e := by
  have live : e.isLive = false := by
    rcases idle with status | status | status | status <;> simp [Experiment.isLive, status]
  rw [swept, if_neg (mt isStartable_iff.mp due), live, if_neg Bool.false_ne_true]

/-- A sweep leaves alone what is neither due nor running nor ended. -/
theorem swept_of_untouched
    (untouched : e.status = .paused ∧ ¬ e.Ended now ∨ e.status = .scheduled ∧ ¬ e.Due now ∨
      e.status = .draft ∨ e.status = .completed ∨ e.status = .archived) :
    engine.swept now e = e := by
  rcases untouched with ⟨paused, ended⟩ | ⟨scheduled, due⟩ | status
  · exact swept_of_paused paused ended
  · exact swept_of_idle due (.inl scheduled)
  · have due : ¬ e.Due now := by
      rintro ⟨scheduled, -⟩
      simp [scheduled] at status
    exact swept_of_idle due (.inr status)

/-! ## The answer and the experiments afterwards -/

/-- What a sweep answers and leaves behind: the ids in the answer by their bytes, and every
experiment by what the sweep finds. -/
structure SweptAs (engine : Engine) (now : Instant) (outcome : Outcome ExperimentSweep) :
    Prop where
  started_ascending :
    outcome.answer.started.Pairwise fun a b => Text.bytes a < Text.bytes b
  mem_started : ∀ id, id ∈ outcome.answer.started ↔
    ∃ e, engine.experiments.get? id = some e ∧ e.Due now
  completed_ascending :
    outcome.answer.completed.Pairwise fun a b => Text.bytes a < Text.bytes b
  mem_completed : ∀ id, id ∈ outcome.answer.completed ↔
    ∃ e, engine.experiments.get? id = some e ∧ (e.Ended now ∨ engine.Conclusive now e)
  disjoint : ∀ id ∈ outcome.answer.started, id ∉ outcome.answer.completed
  /-- only experiments are touched, and none comes or goes -/
  frame : outcome.engine = engine.withExperiments outcome.engine.experiments
  names : outcome.engine.experiments.names = engine.experiments.names
  due : ∀ id e, engine.experiments.get? id = some e → e.Due now →
    outcome.engine.experiments.get? id = some
      { e with
        status := .running
        startTime := some now
        endTime := match e.duration.bind now.add? with
          | some stop => some stop
          | none => e.endTime
        results := some { verdict := .inProgress, startTime := some now } }
  ended : ∀ id e, engine.experiments.get? id = some e → e.Ended now →
    outcome.engine.experiments.get? id = some
      { e with
        status := .completed
        results := some (engine.compare { e with status := .completed } now) }
  conclusive : ∀ id e, engine.experiments.get? id = some e → engine.Conclusive now e →
    outcome.engine.experiments.get? id = some
      { e with
        status := .completed
        endTime := some now
        results := some
          (engine.compare { e with status := .completed, endTime := some now } now) }
  running : ∀ id e, engine.experiments.get? id = some e → e.status = .running →
    ¬ e.Ended now → ¬ engine.Conclusive now e →
    outcome.engine.experiments.get? id = some { e with results := some (engine.compare e now) }
  untouched : ∀ id e, engine.experiments.get? id = some e →
    e.status = .paused ∧ ¬ e.Ended now ∨ e.status = .scheduled ∧ ¬ e.Due now ∨
      e.status = .draft ∨ e.status = .completed ∨ e.status = .archived →
    outcome.engine.experiments.get? id = some e

/-- A sweep leaves behind what it is said to. -/
theorem Keyed.sweptAs (keyed : engine.Keyed)
    (enabled : engine.config.experimentationEnabled = true) (now : Instant) :
    engine.SweptAs now (engine.monitorExperiments now) := by
  have hengine : (engine.monitorExperiments now).engine = _ :=
    engine_monitorExperiments keyed enabled
  have hanswer : (engine.monitorExperiments now).answer = _ :=
    answer_monitorExperiments keyed enabled
  have hafter : ∀ id e, engine.experiments.get? id = some e →
      (engine.monitorExperiments now).engine.experiments.get? id = some (engine.swept now e) := by
    intro id e stored
    simp [hengine, withExperiments, Table.get?_map, stored]
  have hcompleted : (engine.liveExperiments.filter (engine.completes now)) =
      engine.experiments.values.filter fun e => e.isLive && engine.completes now e := by
    simp only [liveExperiments, List.filter_filter, Bool.and_comm]
  rw [hcompleted] at hanswer
  have hstarted : ∀ id, id ∈ engine.dueIds now ↔
      ∃ e, engine.experiments.get? id = some e ∧ e.Due now := by
    intro id
    refine keyed.exists_mem_filter_iff.trans ?_
    simp only [← isStartable_iff]
    rfl
  exact
    { started_ascending := by
        rw [hanswer]
        exact (keyed.increasing_filter _).imp Text.bytes_lt_iff.mpr
      mem_started := by
        rw [hanswer]
        exact hstarted
      completed_ascending := by
        rw [hanswer]
        exact (keyed.increasing_filter _).imp Text.bytes_lt_iff.mpr
      mem_completed := by
        intro id
        simp only [hanswer, keyed.exists_mem_filter_iff, Bool.and_eq_true, completes_iff]
      disjoint := by
        intro id hid hcompleted
        rw [hanswer] at hid hcompleted
        obtain ⟨e, stored, due⟩ := (hstarted id).mp hid
        have hlive := (keyed.mem_filter_iff stored).mp hcompleted
        exact Experiment.not_due_of_live (Bool.and_eq_true_iff.mp hlive).1 due
      frame := by simp [hengine, withExperiments]
      names := by simp [hengine, withExperiments, Table.names_map]
      due := by
        intro id e stored due
        rw [hafter id e stored, swept_of_due due]
      ended := by
        intro id e stored ended
        rw [hafter id e stored, swept_of_ended ended]
      conclusive := by
        intro id e stored conclusive
        rw [hafter id e stored, swept_of_conclusive conclusive]
      running := by
        intro id e stored running ended conclusive
        rw [hafter id e stored, swept_of_running running ended conclusive]
      untouched := by
        intro id e stored untouched
        rw [hafter id e stored, swept_of_untouched untouched] }

/-! ## A registry in any order -/

/-- A sweep of a registry that is walked through in some order: what is due and what is live is
sorted by the bytes of the ids. -/
def sweepListed (engine : Engine) (order : List Experiment) (now : Instant) :
    Outcome ExperimentSweep :=
  if engine.config.experimentationEnabled then
    let due := (order.filter (isStartable now)).map (·.id)
    let live := order.filter (·.isLive)
    let started :=
      (due.mergeSort fun a b => Text.bytes a ≤ Text.bytes b).foldl (ExperimentSweep.startDue now)
        { engine, answer := {} }
    let swept :=
      (live.mergeSort fun a b => Text.bytes a.id ≤ Text.bytes b.id).foldl
        (ExperimentSweep.review now) started
    { swept with
      notices :=
        swept.notices ++
          [.experimentsSwept swept.answer.started.length swept.answer.completed.length] }
  else { engine, answer := {} }

theorem Keyed.sweepListed_eq (keyed : engine.Keyed) {order : List Experiment}
    (perm : order.Perm engine.experiments.values) (now : Instant) :
    engine.sweepListed order now = engine.monitorExperiments now := by
  have hdue : (((order.filter (isStartable now)).map (·.id)).mergeSort
      fun a b => Text.bytes a ≤ Text.bytes b) = engine.dueIds now := by
    refine Text.mergeSort_eq_of_ascending (fun id => id) ((perm.filter _).map _) ?_
    exact keyed.increasing_filter _
  have hlive : ((order.filter (·.isLive)).mergeSort
      fun a b => Text.bytes a.id ≤ Text.bytes b.id) = engine.liveExperiments := by
    refine Text.mergeSort_eq_of_ascending (·.id) (perm.filter _) ?_
    exact List.pairwise_map.mp (keyed.increasing_filter _)
  simp only [sweepListed, monitorExperiments, hdue, hlive]

/-! ## The sweep -/

/-- **What a sweep does to experiments.** In whatever engine operations have led to, a sweep does to
every experiment what it finds, and names what it has started and completed. It does not matter in
which order the registry is walked through. -/
theorem experiment_sweep (reachable : Reachable engine)
    (enabled : engine.config.experimentationEnabled = true) (now : Instant) :
    engine.SweptAs now (engine.monitorExperiments now) ∧
      ∀ order : List Experiment, order.Perm engine.experiments.values →
        engine.sweepListed order now = engine.monitorExperiments now := by
  have keyed := reachable.keyed
  refine ⟨keyed.sweptAs enabled now, ?_⟩
  intro order perm
  exact keyed.sweepListed_eq perm now

/-! ### A sweep at the end of a comparison

The comparison of colours has come to its end, a comparison of patterns is due for two hours, and
one of sounds is paused. -/

/-- An experiment that is to start as soon as a sweep finds it. -/
def patterns : Experiment :=
  { id := "patterns", name := "Patterns", status := .scheduled, duration := some (.ofHours 2)
    variants := [.named "dots" 1.0, .named "stripes" 1.0] }

/-- An experiment that is paused before the sweep. -/
def sounds : Experiment :=
  { id := "sounds", name := "Sounds", variants := [.named "bell" 1.0, .named "whistle" 1.0] }

/-- What is done before the sweep. -/
def threeRun : List (Instant × Operation) :=
  [(.ofNanos 1, .createExperiment patterns), (.ofNanos 2, .createExperiment colours),
    (.ofNanos 3, .createExperiment sounds), (.ofNanos 4, .startExperiment "sounds"),
    (.ofNanos 5, .pauseExperiment "sounds"), (.ofNanos 6, .startExperiment "colours")]

/-- The engine that is swept. -/
def threeEngine : Engine := (Engine.standard (.ofNanos 0)).engine.run threeRun

/-- The paused experiment. -/
def pausedSounds : Experiment :=
  { sounds with
    status := .paused
    startTime := some (.ofNanos 4)
    results := some { startTime := some (.ofNanos 4) } }

/-- The scheduled experiment as it has been created. -/
def createdPatterns : Experiment := { patterns with results := some .initial }

/-- The scheduled experiment after it has been started. -/
def startedPatterns : Experiment :=
  { patterns with
    status := .running
    startTime := some (.ofNanos 100)
    endTime := some ((Instant.ofNanos 100).later (.ofHours 2))
    results := some { startTime := some (.ofNanos 100) } }

theorem experiment_sweep_three :
    Reachable threeEngine ∧ threeEngine.config.experimentationEnabled = true ∧
      threeEngine.SweptAs (.ofNanos 100) (threeEngine.monitorExperiments (.ofNanos 100)) ∧
      (threeEngine.monitorExperiments (.ofNanos 100)).answer =
        { started := ["patterns"], completed := ["colours"] } ∧
      (threeEngine.monitorExperiments (.ofNanos 100)).engine.experiments.get? "patterns" =
        some startedPatterns ∧
      (threeEngine.monitorExperiments (.ofNanos 100)).engine.experiments.get? "sounds" =
        some pausedSounds ∧
      threeEngine.sweepListed threeEngine.experiments.values.reverse (.ofNanos 100) =
        threeEngine.monitorExperiments (.ofNanos 100) := by
  have reachable : Reachable threeEngine := (Reachable.constructed (.standard _)).run _
  have enabled : threeEngine.config.experimentationEnabled = true := rfl
  have created : threeEngine.experiments.get? "patterns" = some createdPatterns := rfl
  have paused : threeEngine.experiments.get? "sounds" = some pausedSounds := rfl
  obtain ⟨swept, hlisted⟩ := experiment_sweep reachable enabled (.ofNanos 100)
  refine ⟨reachable, enabled, swept, by decide +kernel, ?_, ?_, ?_⟩
  · have due : createdPatterns.Due (.ofNanos 100) := ⟨rfl, nofun⟩
    exact swept.due "patterns" createdPatterns created due
  · have ended : ¬ pausedSounds.Ended (.ofNanos 100) := by
      rintro ⟨-, stop, hstop, -⟩
      cases hstop
    exact swept.untouched "sounds" pausedSounds paused (.inl ⟨rfl, ended⟩)
  · exact hlisted _ (List.reverse_perm _)

end Engine

end FeatureTrials
