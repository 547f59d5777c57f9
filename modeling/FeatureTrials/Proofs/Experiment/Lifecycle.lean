import FeatureTrials.Proofs.Engine.Change
import Mathlib.Data.List.Chain

/-!
# The lifecycle of an experiment

The statuses of an experiment form a graph whose edges are the moves. Whatever is done to an engine,
the status of each of its experiments stays or goes along an edge, and nobody but a sweep takes the
edge from paused to completed. So the statuses that an experiment has over a run form a path, and
from one that has started it never gets back to where it could still be redefined.

* `Status.Edge` — the graph.
* `Engine.LegalStep` — what an operation may do to statuses, and when a move by hand succeeds.
* `Engine.statuses` — the statuses an experiment has over a run.
-/

namespace FeatureTrials

/-! ## The graph -/

namespace Status

/-- The edges of the lifecycle, each with the move that goes along it. -/
inductive Edge : Move → Status → Status → Prop
  | schedule (startTime : Instant) : Edge (.schedule startTime) .draft .scheduled
  | startDraft : Edge .start .draft .running
  | startScheduled : Edge .start .scheduled .running
  | pause : Edge .pause .running .paused
  | resume : Edge .resume .paused .running
  | stop : Edge .stop .running .completed
  | expireRunning : Edge .expire .running .completed
  | expirePaused : Edge .expire .paused .completed
  | archive : Edge .archive .completed .archived

variable {a b : Status} {move : Move}

/-- A move is allowed from where an edge of it starts, and leads to where that edge ends. -/
theorem edge_iff : Edge move a b ↔ move.allowedFrom a = true ∧ move.target = b := by
  constructor
  · intro edge
    cases edge <;> exact ⟨rfl, rfl⟩
  · rintro ⟨allowed, rfl⟩
    cases move with
    | start =>
      cases a with
      | draft => exact .startDraft
      | scheduled => exact .startScheduled
      | _ => cases allowed
    | expire =>
      cases a with
      | running => exact .expireRunning
      | paused => exact .expirePaused
      | _ => cases allowed
    | _ =>
      cases a <;> cases allowed
      constructor

/-- One status comes after another: they are the same, or an edge leads there. -/
def Follows (a b : Status) : Prop := a = b ∨ ∃ move, Edge move a b

/-- Past the statuses in which a definition can still be replaced. -/
def Started (status : Status) : Prop := status ≠ .draft ∧ status ≠ .scheduled

theorem not_started_iff : ¬a.Started ↔ a = .draft ∨ a = .scheduled := by
  cases a <;> simp [Started]

/-- No edge leads back. -/
theorem Follows.started (follows : a.Follows b) (started : a.Started) : b.Started := by
  rcases follows with rfl | ⟨move, edge⟩
  · exact started
  · cases edge with
    | schedule => exact absurd rfl started.1
    | _ => exact ⟨nofun, nofun⟩

/-- What has started is neither scheduled nor started again. -/
theorem Edge.of_started (edge : Edge move a b) (started : a.Started) :
    (∀ startTime, move ≠ .schedule startTime) ∧ move ≠ .start := by
  cases edge with
  | schedule => exact absurd rfl started.1
  | startDraft => exact absurd rfl started.1
  | startScheduled => exact absurd rfl started.2
  | _ => exact ⟨nofun, nofun⟩

end Status

theorem Experiment.isExpired_iff {e : Experiment} {now : Instant} :
    e.isExpired now = true ↔ ∃ stop, e.endTime = some stop ∧ stop ≤ now := by
  unfold Experiment.isExpired
  cases e.endTime with
  | none => simp only [Bool.false_eq_true, reduceCtorEq, false_and, exists_false]
  | some stop => simp only [decide_eq_true_iff, Option.some.injEq, exists_eq_left']

namespace Engine

variable {engine start : Engine} {now : Instant} {operation : Operation} {id : String}

/-! ## One change -/

/-- An experiment stays, and its status stays or goes along an edge that something prompts. -/
theorem Change.follows {e : Experiment} {after : Option Experiment}
    (change : Change engine now id operation (some e) after) :
    ∃ e', after = some e' ∧ (e'.status = e.status ∨
      ∃ move, Prompts engine now id e operation move ∧ Status.Edge move e.status e'.status) := by
  cases change with
  | kept => exact ⟨e, rfl, .inl rfl⟩
  | redefined => exact ⟨_, rfl, .inl rfl⟩
  | amended => exact ⟨_, rfl, .inl rfl⟩
  | @moved _ _ move prompts allowed =>
    refine ⟨_, rfl, .inr ⟨move, prompts, ?_⟩⟩
    rw [Experiment.status_moved]
    exact Status.edge_iff.mpr ⟨allowed, rfl⟩
  | refreshed => exact ⟨_, rfl, .inl rfl⟩

/-- A new experiment is a draft or scheduled. -/
theorem Change.fresh {e : Experiment}
    (change : Change engine now id operation none (some e)) :
    e.status = .draft ∨ e.status = .scheduled := by
  cases change with
  | created _ _ hstatus => exact hstatus

/-- What has to happen for a paused experiment to be completed. -/
theorem Prompts.of_paused {e : Experiment} {move : Move} {target : Status}
    (prompts : Prompts engine now id e operation move) (edge : Status.Edge move .paused target)
    (completes : target = .completed) :
    operation = .monitorExperiments ∧ ∃ stop, e.endTime = some stop ∧ stop ≤ now := by
  cases edge with
  | resume => cases completes
  | expirePaused =>
    cases prompts with
    | asked hasked => cases operation <;> cases hasked
    | ended _ hexpired => exact ⟨rfl, Experiment.isExpired_iff.mp hexpired⟩

/-! ## One operation -/

/-- The status of the experiment with an id. -/
def status? (engine : Engine) (id : String) : Option Status :=
  (engine.experiments.get? id).map (·.status)

theorem status?_eq_some {status : Status} :
    engine.status? id = some status ↔
      ∃ e, engine.experiments.get? id = some e ∧ e.status = status :=
  Option.map_eq_some_iff

/-- An operation respects the lifecycle. -/
structure LegalStep (engine : Engine) (now : Instant) (operation : Operation) : Prop where
  /-- no experiment is removed, and its status stays or goes along an edge -/
  kept : ∀ id status, engine.status? id = some status →
    ∃ next, (engine.step now operation).status? id = some next ∧ status.Follows next
  /-- a new experiment is a draft or scheduled -/
  fresh : ∀ id next, engine.status? id = none →
    (engine.step now operation).status? id = some next → next = .draft ∨ next = .scheduled
  /-- a paused experiment is completed by sweeps only, when its end has come -/
  paused : ∀ id e, engine.experiments.get? id = some e → e.status = .paused →
    (engine.step now operation).status? id = some .completed →
    operation = .monitorExperiments ∧ ∃ stop, e.endTime = some stop ∧ stop ≤ now
  /-- a move by hand is taken from where its edges start -/
  taken : ∀ id move status next, operation.move? = some (id, move) →
    engine.status? id = some status → Status.Edge move status next →
    ∃ outcome, engine.perform now operation = .ok outcome ∧
      outcome.engine.status? id = some next
  /-- from elsewhere it is refused, and the refusal names the status -/
  refused : ∀ id move status, operation.move? = some (id, move) →
    engine.status? id = some status → (∀ next, ¬Status.Edge move status next) →
    engine.perform now operation = .error (.wrongStatus id status move.attempt)
  /-- where there is no experiment, that is what the refusal says -/
  missing : ∀ id move, operation.move? = some (id, move) → engine.status? id = none →
    engine.perform now operation = .error (.notFound .experiment id)

theorem Keyed.legalStep (keyed : engine.Keyed) (now : Instant) (operation : Operation) :
    engine.LegalStep now operation where
  kept := by
    intro id status hstatus
    obtain ⟨e, stored, rfl⟩ := status?_eq_some.mp hstatus
    have change := change_step keyed now operation id
    rw [stored] at change
    obtain ⟨e', hafter, hfollows⟩ := change.follows
    refine ⟨e'.status, status?_eq_some.mpr ⟨e', hafter, rfl⟩, ?_⟩
    rcases hfollows with hsame | ⟨move, -, edge⟩
    · exact .inl hsame.symm
    · exact .inr ⟨move, edge⟩
  fresh := by
    intro id next hnone hnext
    obtain ⟨e', hafter, rfl⟩ := status?_eq_some.mp hnext
    have change := change_step keyed now operation id
    rw [Option.map_eq_none_iff.mp hnone, hafter] at change
    exact change.fresh
  paused := by
    intro id e stored hpaused hcompleted
    obtain ⟨e', hafter, hstatus⟩ := status?_eq_some.mp hcompleted
    have change := change_step keyed now operation id
    rw [stored, hafter] at change
    obtain ⟨_, hsome, hfollows⟩ := change.follows
    cases hsome
    rcases hfollows with hsame | ⟨move, prompts, edge⟩
    · rw [hpaused, hstatus] at hsame
      cases hsame
    · rw [hpaused] at edge
      exact prompts.of_paused edge hstatus
  taken := by
    intro id move status next asked hstatus edge
    obtain ⟨e, stored, rfl⟩ := status?_eq_some.mp hstatus
    obtain ⟨allowed, rfl⟩ := Status.edge_iff.mp edge
    have hperform : engine.perform now operation = _ := perform_of_move? asked
    rw [moveExperiment_of_allowed stored allowed] at hperform
    refine ⟨_, hperform, status?_eq_some.mpr ⟨_, Table.get?_insert_self .., ?_⟩⟩
    exact Experiment.status_moved ..
  refused := by
    intro id move status asked hstatus hnone
    obtain ⟨e, stored, rfl⟩ := status?_eq_some.mp hstatus
    have refused : move.allowedFrom e.status = false := by
      refine Bool.eq_false_iff.mpr fun allowed => hnone move.target ?_
      exact Status.edge_iff.mpr ⟨allowed, rfl⟩
    rw [perform_of_move? asked, moveExperiment_of_refused stored refused]
    rfl
  missing := by
    intro id move asked hnone
    rw [perform_of_move? asked, moveExperiment_of_missing (Option.map_eq_none_iff.mp hnone)]
    rfl

/-! ## Whole runs -/

/-- The statuses that the experiment with an id has before, during and after a run. -/
def statuses (engine : Engine) (id : String) : List (Instant × Operation) → List Status
  | [] => (engine.status? id).toList
  | (now, operation) :: rest =>
    (engine.status? id).toList ++ (engine.step now operation).statuses id rest

theorem statuses_eq_cons {status : Status} (hstatus : engine.status? id = some status) :
    ∀ operations, ∃ rest, engine.statuses id operations = status :: rest := by
  intro operations
  cases operations with
  | nil => exact ⟨[], by rw [statuses, hstatus]; rfl⟩
  | cons head rest => exact ⟨_, by rw [statuses, hstatus]; rfl⟩

/-- The statuses of an experiment form a path. -/
theorem Keyed.isChain_statuses (keyed : engine.Keyed) (id : String)
    (operations : List (Instant × Operation)) :
    (engine.statuses id operations).IsChain Status.Follows := by
  induction operations generalizing engine with
  | nil =>
    rw [statuses]
    cases engine.status? id with
    | none => exact .nil
    | some status => exact .singleton status
  | cons head rest ih =>
    have htail := ih (keyed.step head.1 head.2)
    rw [statuses]
    cases hstatus : engine.status? id with
    | none => exact htail
    | some status =>
      -- the experiment is still there after the step, so the rest begins with its next status
      obtain ⟨next, hnext, hfollows⟩ := (keyed.legalStep head.1 head.2).kept id status hstatus
      obtain ⟨later, hlater⟩ := statuses_eq_cons hnext rest
      rw [hlater] at htail ⊢
      exact List.isChain_cons_cons.mpr ⟨hfollows, htail⟩

/-- The statuses of an experiment begin with draft or scheduled. -/
theorem Keyed.head_statuses (keyed : engine.Keyed) (missing : engine.status? id = none)
    (operations : List (Instant × Operation)) :
    ∀ status ∈ (engine.statuses id operations).head?,
      status = .draft ∨ status = .scheduled := by
  induction operations generalizing engine with
  | nil =>
    rw [statuses, missing]
    nofun
  | cons head rest ih =>
    rw [statuses, missing]
    cases hnext : (engine.step head.1 head.2).status? id with
    | none => exact ih (keyed.step head.1 head.2) hnext
    | some next =>
      obtain ⟨later, hlater⟩ := statuses_eq_cons hnext rest
      have hfresh := (keyed.legalStep head.1 head.2).fresh id next missing hnext
      intro status hmem
      rw [Option.toList_none, List.nil_append, hlater, List.head?_cons, Option.mem_some_iff]
        at hmem
      rw [← hmem]
      exact hfresh

/-- **The lifecycle is respected** by every operation on every engine that operations lead to. Over
a run the statuses of an experiment form a path from draft or scheduled, and once it has started it
has started for good. -/
theorem lifecycle_legal (constructed : Constructed start)
    (operations : List (Instant × Operation)) :
    (∀ now operation, (start.run operations).LegalStep now operation) ∧
      ∀ id,
        (∀ status ∈ (start.statuses id operations).head?,
          status = .draft ∨ status = .scheduled) ∧
        (start.statuses id operations).IsChain Status.Follows ∧
        (start.statuses id operations).Pairwise fun earlier later =>
          earlier.Started → later.Started := by
  have keyed : start.Keyed := (Reachable.constructed constructed).keyed
  have reachable := (Reachable.constructed constructed).run operations
  refine ⟨reachable.keyed.legalStep, fun id => ?_⟩
  have missing : start.status? id = none := by
    rw [status?, constructed.get?_experiments]
    rfl
  have chain := keyed.isChain_statuses id operations
  have : Trans (fun a b : Status => a.Started → b.Started)
      (fun a b : Status => a.Started → b.Started) (fun a b : Status => a.Started → b.Started) :=
    ⟨fun hab hbc started => hbc (hab started)⟩
  refine ⟨keyed.head_statuses missing operations, chain, ?_⟩
  exact List.isChain_iff_pairwise.mp (chain.imp fun _ _ => Status.Follows.started)

/-! ### An experiment from its draft to the archive

It is paused twice, and its end comes while it is paused, so that a sweep completes it. An earlier
sweep leaves it alone, and nobody can stop it by hand while it is paused. -/

/-- A comparison of two colours. -/
def colours : Experiment :=
  { id := "colours", name := "Colours", flagKey := some "colour"
    endTime := some (.ofNanos 100)
    variants := [.named "blue" 1.0, .named "green" 2.0] }

/-- What is done to the comparison. -/
def coloursRun : List (Instant × Operation) :=
  [(.ofNanos 1, .createExperiment colours), (.ofNanos 2, .startExperiment "colours"),
    (.ofNanos 3, .pauseExperiment "colours"), (.ofNanos 4, .resumeExperiment "colours"),
    (.ofNanos 5, .pauseExperiment "colours"), (.ofNanos 6, .stopExperiment "colours"),
    (.ofNanos 99, .monitorExperiments), (.ofNanos 100, .monitorExperiments),
    (.ofNanos 101, .archiveExperiment "colours")]

theorem lifecycle_legal_colours :
    Constructed (Engine.standard (.ofNanos 0)).engine ∧
      (Engine.standard (.ofNanos 0)).engine.statuses "colours" coloursRun =
        [.draft, .running, .paused, .running, .paused, .paused, .paused, .completed, .archived] ∧
      ((Engine.standard (.ofNanos 0)).engine.statuses "colours" coloursRun).IsChain
        Status.Follows ∧
      ((Engine.standard (.ofNanos 0)).engine.run coloursRun).LegalStep (.ofNanos 102)
        (.startExperiment "colours") := by
  have constructed : Constructed (Engine.standard (.ofNanos 0)).engine := .standard _
  obtain ⟨hlegal, hstatuses⟩ := lifecycle_legal constructed coloursRun
  refine ⟨constructed, ?_, (hstatuses "colours").2.1, hlegal _ _⟩
  decide +kernel

end Engine

end FeatureTrials
