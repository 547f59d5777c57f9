import Mathlib
import FeatureTrials.Proofs.Scheduler.Sessions

/-!
# The tasks of a scheduler

Jobs are run by tasks. A start spawns one for each job, and each waits for its timer or for the
signal to stop. A shutdown sends that signal and waits for the tasks it has handles of, for one
after another. Nothing in this refers to sessions: that no job has two tasks at once, that none is
left without a handle, and that a shutdown ends and leaves no task behind, rests on the flag that a
start raises.

* `Scheduler.Crew` — jobs, tasks and handles, and what happens to them.
* `Scheduler.Crew.Turn` — a timer goes off, or a task that has been signalled leaves.
* `Scheduler.Crew.Fires` — the turns while time passes, in any order the clock allows.
* `Scheduler.Crew.Waits` — the turns while a shutdown waits.
* `Scheduler.crew` — the tasks there are at a point of a history.
* `Scheduler.Crew.runs_in_sessions` — when jobs run, in terms of what has happened.
-/

namespace FeatureTrials

namespace Scheduler

/-- A task runs the job with a number whenever its timer goes off, until it leaves. -/
structure Task where
  number : Nat
  job : Job
  due : Nat
  /-- the signal to stop has been sent since the task was spawned -/
  signalled : Bool := false
  deriving DecidableEq, Repr

namespace Task

/-- The task waits for another interval. A run that breaks off makes no difference to it. -/
def rearm (task : Task) : Task := { task with due := task.due + task.job.interval.nanos }

/-- How often the timer goes off up to an instant. -/
def rounds (task : Task) (upTo : Nat) : Nat :=
  (upTo + task.job.interval.nanos - task.due) / task.job.interval.nanos

/-- When the timer goes off up to an instant. -/
def firings (task : Task) (upTo : Nat) : List Nat :=
  (List.range (task.rounds upTo)).map fun k => task.due + k * task.job.interval.nanos

/-- The task after an instant. -/
def settle (task : Task) (upTo : Nat) : Task :=
  { task with due := task.due + task.rounds upTo * task.job.interval.nanos }

variable {task : Task} {upTo : Nat}

@[simp] theorem rearm_number : task.rearm.number = task.number := rfl

@[simp] theorem rearm_job : task.rearm.job = task.job := rfl

@[simp] theorem rearm_due : task.rearm.due = task.due + task.job.interval.nanos := rfl

@[simp] theorem rearm_signalled : task.rearm.signalled = task.signalled := rfl

theorem rounds_of_lt (interval : task.job.interval.nanos ≠ 0) (h : upTo < task.due) :
    task.rounds upTo = 0 :=
  Nat.div_eq_of_lt (by omega)

theorem rounds_of_le (interval : task.job.interval.nanos ≠ 0) (h : task.due ≤ upTo) :
    task.rounds upTo = task.rearm.rounds upTo + 1 := by
  have hsub : upTo + task.job.interval.nanos - task.due =
      upTo + task.job.interval.nanos - (task.due + task.job.interval.nanos) +
        task.job.interval.nanos := by omega
  rw [rounds, hsub, Nat.add_div_right _ (Nat.pos_of_ne_zero interval), rounds, rearm_job, rearm_due]

theorem firings_of_lt (interval : task.job.interval.nanos ≠ 0) (h : upTo < task.due) :
    task.firings upTo = [] := by
  rw [firings, rounds_of_lt interval h, List.range_zero, List.map_nil]

theorem firings_of_le (interval : task.job.interval.nanos ≠ 0) (h : task.due ≤ upTo) :
    task.firings upTo = task.due :: task.rearm.firings upTo := by
  rw [firings, rounds_of_le interval h, List.range_succ_eq_map, List.map_cons, List.map_map,
    Nat.zero_mul, Nat.add_zero, firings]
  refine congrArg _ (List.map_congr_left fun k _ => ?_)
  rw [Function.comp_apply, Nat.succ_mul, rearm_job, rearm_due]
  omega

theorem settle_of_lt (interval : task.job.interval.nanos ≠ 0) (h : upTo < task.due) :
    task.settle upTo = task := by
  rw [settle, rounds_of_lt interval h, Nat.zero_mul, Nat.add_zero]

theorem settle_of_le (interval : task.job.interval.nanos ≠ 0) (h : task.due ≤ upTo) :
    task.settle upTo = task.rearm.settle upTo := by
  have hdue : task.due + task.rounds upTo * task.job.interval.nanos =
      task.rearm.due + task.rearm.rounds upTo * task.job.interval.nanos := by
    rw [rounds_of_le interval h, Nat.succ_mul, rearm_due]
    omega
  rw [settle, hdue]
  rfl

end Task

/-- A run of the job with a number. -/
structure Run where
  number : Nat
  time : Nat
  deriving DecidableEq, Repr

/-- When the job with a number has run. -/
def times (number : Nat) (runs : List Run) : List Nat :=
  runs.filterMap fun run => if run.number = number then some run.time else none

@[simp] theorem times_nil (number : Nat) : times number [] = [] := rfl

theorem times_cons (number : Nat) (run : Run) (runs : List Run) :
    times number (run :: runs) =
      if run.number = number then run.time :: times number runs else times number runs := by
  rw [times, List.filterMap_cons]
  split <;> simp_all [times]

theorem times_append (number : Nat) (first second : List Run) :
    times number (first ++ second) = times number first ++ times number second :=
  List.filterMap_append

theorem mem_times {number : Nat} {runs : List Run} {time : Nat} :
    time ∈ times number runs ↔ ⟨number, time⟩ ∈ runs := by
  rw [times, List.mem_filterMap]
  constructor
  · rintro ⟨run, hrun, htime⟩
    split at htime
    · next hnumber =>
      cases htime
      exact hnumber ▸ hrun
    · cases htime
  · intro h
    exact ⟨_, h, if_pos rfl⟩

/-! ## Jobs and their tasks -/

/-- Jobs, the tasks that run them, and the handles of those tasks that a shutdown waits for. -/
structure Crew where
  jobs : List Job := []
  running : Bool := false
  tasks : List Task := []
  handles : List Nat := []
  now : Nat := 0
  deriving DecidableEq, Repr

namespace Crew

/-- A crew without jobs. -/
def new : Crew := {}

/-- Adds a job, unless its interval is zero. No task is spawned for it. -/
def register (crew : Crew) (name : String) (interval : Span) (fails : Bool) : Crew :=
  if accepts interval then { crew with jobs := crew.jobs ++ [⟨name, interval, fails⟩] } else crew

/-- A task for each job, one interval from now. -/
def spawned (crew : Crew) : List Task :=
  crew.jobs.zipIdx.map fun (job, number) =>
    { number, job, due := crew.now + job.interval.nanos }

/-- Raises the flag and spawns tasks, unless the flag is up. -/
def start (crew : Crew) : Crew :=
  if crew.running then crew
  else { crew with
    running := true
    tasks := crew.tasks ++ crew.spawned
    handles := crew.handles ++ crew.spawned.map (·.number) }

/-- Sends the signal to stop to every task there is. -/
def signal (crew : Crew) : Crew :=
  { crew with tasks := crew.tasks.map fun task => { task with signalled := true } }

/-- Some task takes a turn. Either its timer goes off: the earliest one first, and those that are
due at the same time in any order. Or it has been signalled and leaves. -/
inductive Turn (upTo : Nat) : List Task → List Run → List Task → Prop
  | fire {before after : List Task} {task : Task} (due : task.due ≤ upTo)
      (first : ∀ other ∈ before ++ task :: after, task.due ≤ other.due) :
      Turn upTo (before ++ task :: after) [⟨task.number, task.due⟩]
        (before ++ task.rearm :: after)
  | leave {before after : List Task} {task : Task} (signalled : task.signalled = true) :
      Turn upTo (before ++ task :: after) [] (before ++ after)

/-- Tasks take turns until nothing is due any more. -/
inductive Fires (upTo : Nat) : List Task → List Run → List Task → Prop
  | idle {tasks : List Task} (later : ∀ task ∈ tasks, upTo < task.due) : Fires upTo tasks [] tasks
  | turn {tasks next final : List Task} {runs later : List Run} (turn : Turn upTo tasks runs next)
      (rest : Fires upTo next later final) : Fires upTo tasks (runs ++ later) final

/-- Tasks take turns while their handles are waited for, one handle after another: there is no
further wait for a task that has left. -/
inductive Waits (now : Nat) : List Task → List Nat → List Run → List Task → Prop
  | done (tasks : List Task) : Waits now tasks [] [] tasks
  | turn {tasks next final : List Task} {handles : List Nat} {runs later : List Run}
      (turn : Turn now tasks runs next) (rest : Waits now next handles later final) :
      Waits now tasks handles (runs ++ later) final
  | join {tasks final : List Task} {number : Nat} {handles : List Nat} {runs : List Run}
      (left : ∀ task ∈ tasks, task.number ≠ number) (rest : Waits now tasks handles runs final) :
      Waits now tasks (number :: handles) runs final

/-- What an event does, and the runs that take place during it. A shutdown lowers the flag when it
has waited for all handles. -/
inductive Step : Crew → Event → List Run → Crew → Prop
  | register (crew : Crew) (name : String) (interval : Span) (fails : Bool) :
      Step crew (.register name interval fails) [] (crew.register name interval fails)
  | start (crew : Crew) : Step crew .start [] crew.start
  | shutdown {crew : Crew} {runs : List Run} {tasks : List Task}
      (waits : Waits crew.now crew.signal.tasks crew.handles runs tasks) :
      Step crew .shutdown runs { crew with running := false, tasks := tasks, handles := [] }
  | pass {crew : Crew} {time : Span} {runs : List Run} {tasks : List Task}
      (fires : Fires (crew.now + time.nanos) crew.tasks runs tasks) :
      Step crew (.pass time) runs { crew with tasks := tasks, now := crew.now + time.nanos }

/-- What events do one after another, and the runs that take place during them. -/
inductive Executes : Crew → List Event → List Run → Crew → Prop
  | nil (crew : Crew) : Executes crew [] [] crew
  | cons {crew next final : Crew} {event : Event} {events : List Event} {runs later : List Run}
      (step : Step crew event runs next) (rest : Executes next events later final) :
      Executes crew (event :: events) (runs ++ later) final

/-! ## Timers that go off -/

/-- What a task keeps when it is armed again, a crew keeps. -/
theorem forall_rearm {P : Task → Prop} {before after : List Task} {task : Task}
    (rearm : P task → P task.rearm) (h : ∀ other ∈ before ++ task :: after, P other) :
    ∀ other ∈ before ++ task.rearm :: after, P other := by
  simp only [List.forall_mem_append, List.forall_mem_cons] at h ⊢
  exact h.imp_right (And.imp_left rearm)

/-- Whatever order timers go off in, each goes off when it would alone, unless tasks leave. -/
theorem Fires.eq_firings {upTo : Nat} {tasks final : List Task} {runs : List Run}
    (h : Fires upTo tasks runs final) (listening : ∀ task ∈ tasks, task.signalled = false)
    (interval : ∀ task ∈ tasks, task.job.interval.nanos ≠ 0)
    (distinct : (tasks.map (·.number)).Nodup) :
    final = tasks.map (·.settle upTo) ∧
      (∀ task ∈ tasks, times task.number runs = task.firings upTo) ∧
      ∀ run ∈ runs, ∃ task ∈ tasks, task.number = run.number := by
  induction h with
  | @idle tasks later =>
    refine ⟨?_, ?_, nofun⟩
    · conv_lhs => rw [← List.map_id tasks]
      exact List.map_congr_left fun task htask =>
        ((task.settle_of_lt (interval task htask) (later task htask))).symm
    · intro task htask
      rw [times_nil, task.firings_of_lt (interval task htask) (later task htask)]
  | turn turn rest ih =>
    cases turn with
    | leave signalled =>
      rw [listening _ (by simp)] at signalled
      cases signalled
    | @fire before after task due first =>
      have hinterval : task.job.interval.nanos ≠ 0 := interval task (by simp)
      have hnumbers : (before ++ task.rearm :: after).map (·.number) =
          (before ++ task :: after).map (·.number) := by simp
      obtain ⟨hfinal, htimes, hruns⟩ :=
        ih (forall_rearm id listening) (forall_rearm id interval) (hnumbers ▸ distinct)
      have hother : ∀ other ∈ before ++ after, other.number ≠ task.number := by
        intro other hmem heq
        rw [List.map_append, List.map_cons, List.nodup_middle, List.nodup_cons,
          ← List.map_append] at distinct
        exact distinct.1 (heq ▸ List.mem_map_of_mem hmem)
      rw [List.singleton_append]
      refine ⟨?_, ?_, ?_⟩
      · rw [hfinal, List.map_append, List.map_append, List.map_cons, List.map_cons,
          task.settle_of_le hinterval due]
      · intro other hmem
        rw [times_cons]
        by_cases heq : other = task
        · subst heq
          rw [if_pos rfl, other.firings_of_le hinterval due]
          exact congrArg _ (htimes other.rearm (by simp))
        · have hmem' : other ∈ before ++ after := by
            simp only [List.mem_append, List.mem_cons] at hmem ⊢
            tauto
          rw [if_neg fun h => hother other hmem' h.symm]
          refine htimes other ?_
          simp only [List.mem_append, List.mem_cons] at hmem' ⊢
          tauto
      · intro run hrun
        rcases List.mem_cons.mp hrun with rfl | hlater
        · exact ⟨task, by simp, rfl⟩
        · obtain ⟨other, hmem, heq⟩ := hruns run hlater
          have hnumber : run.number ∈ (before ++ task :: after).map (·.number) :=
            hnumbers ▸ heq ▸ List.mem_map_of_mem hmem
          obtain ⟨found, hfound, hfoundnumber⟩ := List.mem_map.mp hnumber
          exact ⟨found, hfound, hfoundnumber⟩

/-- Timers cease to go off: each time, what is left until the instant gets less. -/
theorem exists_fires (upTo : Nat) (tasks : List Task)
    (interval : ∀ task ∈ tasks, task.job.interval.nanos ≠ 0) :
    ∃ runs final, Fires upTo tasks runs final := by
  induction hleft : (tasks.map fun task => upTo + 1 - task.due).sum using Nat.strong_induction_on
    generalizing tasks with
  | _ left ih =>
    by_cases hlater : ∀ task ∈ tasks, upTo < task.due
    · exact ⟨[], tasks, .idle hlater⟩
    · push Not at hlater
      obtain ⟨soon, hsoon, hsoondue⟩ := hlater
      obtain ⟨task, htask, hfirst⟩ :=
        tasks.toFinset.exists_min_image (·.due) ⟨soon, List.mem_toFinset.mpr hsoon⟩
      have hdue : task.due ≤ upTo := (hfirst soon (List.mem_toFinset.mpr hsoon)).trans hsoondue
      obtain ⟨before, after, rfl⟩ := List.append_of_mem (List.mem_toFinset.mp htask)
      have hne : task.job.interval.nanos ≠ 0 := interval task (by simp)
      have hless :
          ((before ++ task.rearm :: after).map fun task => upTo + 1 - task.due).sum < left := by
        simp only [← hleft, List.map_append, List.map_cons, List.sum_append, List.sum_cons,
          Task.rearm_due]
        omega
      obtain ⟨runs, final, hfires⟩ := ih _ hless _ (forall_rearm id interval) rfl
      have hfirst' := fun other h => hfirst other (List.mem_toFinset.mpr h)
      exact ⟨_, final, .turn (.fire hdue hfirst') hfires⟩

theorem times_eq_nil {number : Nat} {runs : List Run} (h : ∀ run ∈ runs, run.number ≠ number) :
    times number runs = [] :=
  List.filterMap_eq_nil_iff.mpr fun run hrun => if_neg (h run hrun)

/-! ## Tasks that are waited for -/

/-- Who waits for every task, none of which is due, ends up without tasks and has seen no run. -/
theorem Waits.eq_nil {now : Nat} {tasks final : List Task} {handles : List Nat} {runs : List Run}
    (h : Waits now tasks handles runs final) (later : ∀ task ∈ tasks, now < task.due)
    (handled : ∀ task ∈ tasks, task.number ∈ handles) : final = [] ∧ runs = [] := by
  induction h with
  | done tasks =>
    refine ⟨List.eq_nil_iff_forall_not_mem.mpr fun task htask => ?_, rfl⟩
    exact List.not_mem_nil (handled task htask)
  | turn turn rest ih =>
    cases turn with
    | @fire before after task due first => exact absurd due (later task (by simp)).not_ge
    | @leave before after task signalled =>
      have hmem : ∀ other ∈ before ++ after, other ∈ before ++ task :: after := by
        simp only [List.mem_append, List.mem_cons]
        tauto
      exact ih (fun other h => later other (hmem other h))
        fun other h => handled other (hmem other h)
  | join left rest ih =>
    exact ih later fun task h => (List.mem_cons.mp (handled task h)).resolve_left (left task h)

/-- There is an end to a wait for tasks that have been signalled. -/
theorem exists_waits (now : Nat) (tasks : List Task) (handles : List Nat)
    (signalled : ∀ task ∈ tasks, task.signalled = true) :
    ∃ runs final, Waits now tasks handles runs final := by
  induction tasks with
  | nil =>
    induction handles with
    | nil => exact ⟨[], [], .done []⟩
    | cons number handles ih =>
      obtain ⟨runs, final, hwaits⟩ := ih
      exact ⟨runs, final, .join nofun hwaits⟩
  | cons task tasks ih =>
    rw [List.forall_mem_cons] at signalled
    obtain ⟨runs, final, hwaits⟩ := ih signalled.2
    have hleave : Turn now (task :: tasks) [] tasks := @Turn.leave now [] tasks task signalled.1
    exact ⟨_, final, .turn hleave hwaits⟩

end Crew

/-! ## The tasks at a point of a history -/

/-- The task of a job in a session: it is due at the next whole multiple of the interval. -/
def Task.inSession (session : Session) (now number : Nat) (job : Job) : Task :=
  { number, job
    due := session.startedAt +
      ((now - session.startedAt) / job.interval.nanos + 1) * job.interval.nanos }

section InSession

variable {session : Session} {now upTo number : Nat} {job : Job}

theorem Task.rounds_inSession :
    (Task.inSession session now number job).rounds upTo =
      (upTo - session.startedAt) / job.interval.nanos -
        (now - session.startedAt) / job.interval.nanos := by
  have hdone : job.interval.nanos * ((now - session.startedAt) / job.interval.nanos) ≤
      now - session.startedAt := Nat.mul_div_le _ _
  rw [← Nat.sub_mul_div, rounds]
  refine congrArg (· / job.interval.nanos) ?_
  dsimp only [inSession]
  rw [Nat.add_one_mul, Nat.mul_comm]
  omega

/-- While time passes, a task goes off when the job runs in the session. -/
theorem Task.firings_inSession :
    (Task.inSession session now number job).firings upTo =
      job.runs session.startedAt now upTo := by
  rw [firings, rounds_inSession, Job.runs, inSession]
  refine List.map_congr_left fun k _ => ?_
  ring

theorem Task.settle_inSession (h : now ≤ upTo) :
    (Task.inSession session now number job).settle upTo =
      Task.inSession session upTo number job := by
  have hle : (now - session.startedAt) / job.interval.nanos ≤
      (upTo - session.startedAt) / job.interval.nanos :=
    Nat.div_le_div_right (Nat.sub_le_sub_right h _)
  have hdue : session.startedAt + ((now - session.startedAt) / job.interval.nanos + 1) *
        job.interval.nanos + ((upTo - session.startedAt) / job.interval.nanos -
          (now - session.startedAt) / job.interval.nanos) * job.interval.nanos =
      session.startedAt + ((upTo - session.startedAt) / job.interval.nanos + 1) *
        job.interval.nanos := by
    rw [Nat.add_assoc, ← Nat.add_mul]
    congr 2
    omega
  rw [settle, rounds_inSession]
  exact congrArg (fun due => ({ number, job, due } : Task)) hdue

end InSession

/-- The tasks of a scheduler: one for each job there was when the session began. -/
def tasks (s : Scheduler) : List Task :=
  match s.session with
  | none => []
  | some session =>
    (s.jobs.take session.size).zipIdx.map fun (job, number) =>
      Task.inSession session s.now number job

/-- The crew of a scheduler. -/
def crew (s : Scheduler) : Crew :=
  ⟨s.jobs, s.isRunning, s.tasks, s.tasks.map (·.number), s.now⟩

theorem tasks_of_idle {s : Scheduler} (h : s.isRunning = false) : s.tasks = [] := by
  rw [isRunning, Option.isSome_eq_false_iff, Option.isNone_iff_eq_none] at h
  rw [tasks, h]

theorem mem_tasks {s : Scheduler} {task : Task} :
    task ∈ s.tasks ↔ ∃ session, s.session = some session ∧ task.number < session.size ∧
      ∃ job, s.jobs[task.number]? = some job ∧
        task = Task.inSession session s.now task.number job := by
  rw [tasks]
  cases hsession : s.session with
  | none => simp
  | some session =>
    simp only [List.mem_map, Prod.exists, List.mem_zipIdx_iff_getElem?, List.getElem?_take,
      Option.some.injEq, exists_eq_left']
    constructor
    · rintro ⟨job, number, hjob, rfl⟩
      split at hjob
      · next hnumber => exact ⟨hnumber, job, hjob, rfl⟩
      · cases hjob
    · rintro ⟨hnumber, job, hjob, htask⟩
      exact ⟨job, task.number, by rw [if_pos hnumber, hjob], htask.symm⟩

theorem interval_of_mem_tasks {s : Scheduler} (hs : s.Sound) :
    ∀ task ∈ s.tasks, task.job.interval.nanos ≠ 0 := by
  intro task htask
  obtain ⟨session, -, -, job, hjob, heq⟩ := mem_tasks.mp htask
  rw [heq]
  exact hs.interval_ne job (List.mem_of_getElem? hjob)

/-- No task is due: who is due has its turn before anything else happens. -/
theorem later_of_mem_tasks {s : Scheduler} (hs : s.Sound) : ∀ task ∈ s.tasks, s.now < task.due := by
  intro task htask
  obtain ⟨session, -, -, job, hjob, heq⟩ := mem_tasks.mp htask
  have hne := hs.interval_ne job (List.mem_of_getElem? hjob)
  have hnext := Nat.lt_mul_div_succ (s.now - session.startedAt) (Nat.pos_of_ne_zero hne)
  rw [Nat.mul_comm] at hnext
  rw [heq, Task.inSession]
  dsimp only
  omega

/-- The signal has been sent to no task that is still there. -/
theorem listening_of_mem_tasks {s : Scheduler} : ∀ task ∈ s.tasks, task.signalled = false := by
  intro task htask
  obtain ⟨session, -, -, job, -, heq⟩ := mem_tasks.mp htask
  rw [heq]
  rfl

theorem numbers_of_session {s : Scheduler} {session : Session} (h : s.session = some session) :
    s.tasks.map (·.number) = List.range' 0 (s.jobs.take session.size).length := by
  rw [tasks, h, ← List.zipIdx_map_snd]
  exact List.map_map

/-- No job has two tasks. -/
theorem nodup_tasks (s : Scheduler) : (s.tasks.map (·.number)).Nodup := by
  cases hsession : s.session with
  | none =>
    rw [tasks, hsession]
    exact List.nodup_nil
  | some session =>
    rw [numbers_of_session hsession]
    exact List.nodup_range'

/-- The handles stay those of the tasks while time passes. -/
theorem crew_advance (s : Scheduler) (time : Span) :
    { s.crew with tasks := (s.advance time).tasks, now := s.now + time.nanos } =
      (s.advance time).crew := by
  have hnumbers : s.tasks.map (·.number) = (s.advance time).tasks.map (·.number) := by
    cases hsession : s.session with
    | none =>
      rw [tasks, tasks, advance, hsession]
    | some session =>
      rw [numbers_of_session hsession, numbers_of_session (s := s.advance time) hsession]
      rfl
  rw [crew, crew, hnumbers]
  rfl

/-! ## Crews and sessions -/

theorem crew_register {s : Scheduler} (hs : s.Sound) (name : String) (interval : Span)
    (fails : Bool) :
    s.crew.register name interval fails = (s.register name interval fails).crew := by
  rw [Crew.register, register]
  split
  · have htasks : tasks { s with jobs := s.jobs ++ [⟨name, interval, fails⟩] } = s.tasks := by
      rw [tasks, tasks]
      cases hsession : s.session with
      | none => rfl
      | some session =>
        dsimp only
        rw [List.take_append_of_le_length (hs.size_le session hsession)]
    rw [crew, crew, htasks]
    rfl
  · rfl

theorem crew_start (s : Scheduler) : s.crew.start = s.start.crew := by
  have hflag : s.crew.running = s.isRunning := rfl
  rw [Crew.start, start, hflag]
  cases hrun : s.isRunning with
  | true => rw [if_pos rfl, if_pos rfl]
  | false =>
    have htasks : tasks { s with session := some ⟨s.now, s.jobs.length⟩ } = s.crew.spawned := by
      rw [tasks, Crew.spawned]
      simp [Task.inSession, crew]
    rw [if_neg Bool.false_ne_true, if_neg Bool.false_ne_true, crew, crew, htasks,
      tasks_of_idle hrun]
    rfl

theorem firings_of_mem_tasks {s : Scheduler} {task : Task} (h : task ∈ s.tasks) (time : Nat) :
    task.firings (s.now + time) = s.ongoing task.number task.job time := by
  obtain ⟨session, hsession, hsize, job, -, heq⟩ := mem_tasks.mp h
  rw [heq, Task.firings_inSession, ongoing, hsession]
  exact (if_pos hsize).symm

/-- A job without a task does not run. -/
theorem ongoing_of_no_task {s : Scheduler} {number : Nat} {job : Job}
    (hjob : s.jobs[number]? = some job) (h : ∀ task ∈ s.tasks, task.number ≠ number) (time : Nat) :
    s.ongoing number job time = [] := by
  rw [ongoing]
  cases hsession : s.session with
  | none => rfl
  | some session =>
    refine if_neg fun hsize => ?_
    exact h (.inSession session s.now number job)
      (mem_tasks.mpr ⟨session, hsession, hsize, job, hjob, rfl⟩) rfl

theorem settle_tasks (s : Scheduler) (time : Span) :
    s.tasks.map (·.settle (s.now + time.nanos)) = (s.advance time).tasks := by
  rw [tasks, tasks, advance]
  cases s.session with
  | none => rfl
  | some session =>
    rw [List.map_map]
    exact List.map_congr_left fun _ _ => Task.settle_inSession (Nat.le_add_right _ _)

/-- While time passes, the tasks run the jobs as the session says, whatever their order. -/
theorem crew_pass {s : Scheduler} (hs : s.Sound) {time : Span} {runs : List Run}
    {final : List Task} (h : Crew.Fires (s.now + time.nanos) s.tasks runs final) :
    final = (s.advance time).tasks ∧
      ∀ number, times number runs = s.runsIn number (.pass time) := by
  obtain ⟨hfinal, htimes, hruns⟩ :=
    h.eq_firings listening_of_mem_tasks (interval_of_mem_tasks hs) s.nodup_tasks
  refine ⟨hfinal.trans (s.settle_tasks time), fun number => ?_⟩
  by_cases htask : ∃ task ∈ s.tasks, task.number = number
  · obtain ⟨task, hmem, rfl⟩ := htask
    obtain ⟨session, -, -, job, hjob, heq⟩ := mem_tasks.mp hmem
    have hsame : task.job = job := congrArg Task.job heq
    rw [htimes task hmem, firings_of_mem_tasks hmem, runsIn_pass hjob, hsame]
  · have hother : ∀ run ∈ runs, run.number ≠ number := by
      rintro run hrun rfl
      exact htask (hruns run hrun)
    rw [Crew.times_eq_nil hother]
    cases hjob : s.jobs[number]? with
    | none => rw [runsIn_eq_nil (List.getElem?_eq_none_iff.mp hjob)]
    | some job =>
      rw [runsIn_pass hjob, ongoing_of_no_task hjob]
      exact fun task hmem heq => htask ⟨task, hmem, heq⟩

/-- A shutdown leaves no tasks, and nothing runs while it waits. -/
theorem crew_shutdown {s : Scheduler} (hs : s.Sound) {runs : List Run} {final : List Task}
    (h : Crew.Waits s.now s.crew.signal.tasks s.crew.handles runs final) :
    final = [] ∧ runs = [] := by
  refine h.eq_nil (fun task htask => ?_) fun task htask => ?_
  · obtain ⟨sent, hsent, rfl⟩ := List.mem_map.mp htask
    exact later_of_mem_tasks hs sent hsent
  · obtain ⟨sent, hsent, rfl⟩ := List.mem_map.mp htask
    exact List.mem_map.mpr ⟨sent, hsent, rfl⟩

namespace Crew

/-- What an event does to a crew is what it does to the session, and so are the runs. -/
theorem Step.eq_step {s : Scheduler} (hs : s.Sound) {event : Event} {runs : List Run}
    {next : Crew} (h : Step s.crew event runs next) :
    next = (s.step event).crew ∧ ∀ number, times number runs = s.runsIn number event := by
  cases h with
  | register name interval fails => exact ⟨crew_register hs name interval fails, fun _ => rfl⟩
  | start => exact ⟨crew_start s, fun _ => rfl⟩
  | shutdown waits =>
    obtain ⟨rfl, rfl⟩ := crew_shutdown hs waits
    exact ⟨rfl, fun _ => rfl⟩
  | pass fires =>
    obtain ⟨rfl, htimes⟩ := crew_pass hs fires
    exact ⟨crew_advance s _, htimes⟩

theorem exists_step {s : Scheduler} (hs : s.Sound) (event : Event) :
    ∃ runs, Step s.crew event runs (s.step event).crew := by
  cases event with
  | register name interval fails =>
    exact ⟨[], crew_register hs name interval fails ▸ .register s.crew name interval fails⟩
  | start => exact ⟨[], crew_start s ▸ .start s.crew⟩
  | shutdown =>
    have hsignalled : ∀ task ∈ s.crew.signal.tasks, task.signalled = true := by
      intro task htask
      obtain ⟨sent, -, rfl⟩ := List.mem_map.mp htask
      rfl
    obtain ⟨runs, final, hwaits⟩ := exists_waits s.now _ s.crew.handles hsignalled
    obtain ⟨rfl, -⟩ := crew_shutdown hs hwaits
    exact ⟨runs, .shutdown hwaits⟩
  | pass time =>
    obtain ⟨runs, final, hfires⟩ :=
      exists_fires (s.now + time.nanos) s.tasks (interval_of_mem_tasks hs)
    obtain ⟨rfl, -⟩ := crew_pass hs hfires
    exact ⟨runs, crew_advance s time ▸ .pass hfires⟩

/-- What events do to a crew is what they do to the sessions, and so are the runs. -/
theorem Executes.eq_foldl {s : Scheduler} (hs : s.Sound) {events : List Event} {runs : List Run}
    {final : Crew} (h : Executes s.crew events runs final) :
    final = (events.foldl Scheduler.step s).crew ∧
      ∀ number, times number runs = s.runsOf number events := by
  induction events generalizing s runs with
  | nil =>
    cases h
    exact ⟨rfl, fun _ => rfl⟩
  | cons event events ih =>
    cases h with
    | cons step rest =>
      obtain ⟨rfl, hnow⟩ := step.eq_step hs
      obtain ⟨rfl, hlater⟩ := ih (hs.step event) rest
      refine ⟨rfl, fun number => ?_⟩
      rw [times_append, hnow, hlater, runsOf]

theorem exists_executes {s : Scheduler} (hs : s.Sound) (events : List Event) :
    ∃ runs final, Executes s.crew events runs final := by
  induction events generalizing s with
  | nil => exact ⟨[], s.crew, .nil _⟩
  | cons event events ih =>
    obtain ⟨runs, hstep⟩ := exists_step hs event
    obtain ⟨later, final, hrest⟩ := ih (hs.step event)
    exact ⟨runs ++ later, final, .cons hstep hrest⟩

/-- **Jobs run in sessions.** However timers and tasks take their turns, a job runs in the sessions
that began after its registration, at the whole multiples of its interval: in each as often as the
interval fits into it. Nothing runs without a registered job or out of a session, and while the flag
is up each job has at most one task, which a shutdown waits for; while it is down there is none. -/
theorem runs_in_sessions (events : List Event) :
    (∃ runs final, Executes .new events runs final) ∧
      ∀ runs final, Executes .new events runs final →
        (∀ number job, (registered events)[number]? = some job →
          times number runs = (stretches [] events).flatMap (·.runsOf number job) ∧
          (times number runs).length = ((stretches [] events).map (·.countOf number job)).sum) ∧
        (∀ run ∈ runs, ∃ job stretch, (registered events)[run.number]? = some job ∧
          stretch ∈ stretches [] events ∧ run.number < stretch.jobs ∧
          stretch.begins < run.time ∧ run.time ≤ stretch.ends) ∧
        (∀ job ∈ registered events, job.interval.nanos ≠ 0) ∧
        (∀ number, times number runs = Scheduler.new.runsOf number events) ∧
        (final.tasks.map (·.number)).Nodup ∧ final.handles = final.tasks.map (·.number) ∧
        (final.running = true ↔ IsOn events) ∧ (final.running = false → final.tasks = []) := by
  refine ⟨exists_executes sound_new events, fun runs final h => ?_⟩
  obtain ⟨hfinal, htimes⟩ := h.eq_foldl (s := .new) sound_new
  obtain ⟨hjobs, -, hrunning⟩ := view_after events
  have hruns : ∀ number job, (registered events)[number]? = some job →
      times number runs = (stretches [] events).flatMap (·.runsOf number job) :=
    fun number job hjob => (htimes number).trans (runsOf_new events hjob)
  refine ⟨fun number job hjob => ⟨hruns number job hjob, ?_⟩, fun run hrun => ?_,
    fun job => interval_of_mem_registered, htimes, ?_, ?_, ?_, ?_⟩
  · rw [hruns number job hjob, List.length_flatMap]
    exact congrArg List.sum (List.map_congr_left fun stretch _ => stretch.length_runsOf number job)
  · have htime : run.time ∈ times run.number runs := mem_times.mpr hrun
    cases hjob : (registered events)[run.number]? with
    | none =>
      have hnone : Scheduler.new.runsOf run.number events = [] :=
        runsOf_after_eq_nil [] events (List.getElem?_eq_none_iff.mp hjob)
      rw [htimes, hnone] at htime
      cases htime
    | some job =>
      rw [hruns run.number job hjob] at htime
      obtain ⟨stretch, hstretch, hmem⟩ := List.mem_flatMap.mp htime
      have hne : job.interval.nanos ≠ 0 :=
        interval_of_mem_registered (List.mem_of_getElem? hjob)
      exact ⟨job, stretch, rfl, hstretch, Stretch.bounds_of_mem_runsOf hne hmem⟩
  · rw [hfinal]
    exact nodup_tasks _
  · rw [hfinal]
    rfl
  · rw [hfinal]
    exact hrunning
  · rw [hfinal]
    exact tasks_of_idle

/-! ### Two sessions -/

/-- One job is there from the beginning, one is refused, and one is registered while the first
session is on. -/
def twoSessions : List Event :=
  [.register "fast" (.ofSeconds 1) true, .register "busy" (.ofSeconds 0) false, .start,
    .register "slow" (.ofSeconds 3) false, .start, .pass (.ofSeconds 5), .shutdown,
    .pass (.ofSeconds 10), .start, .pass (.ofSeconds 4), .pass (.ofSeconds 3)]

/-- The first job runs five times and then seven times, the late one in the second session only. -/
theorem runs_in_two_sessions : ∃ runs final, Executes .new twoSessions runs final ∧
    (times 0 runs).length = 12 ∧ times 1 runs = [18000000000, 21000000000] ∧
      times 2 runs = [] := by
  obtain ⟨⟨runs, final, h⟩, hall⟩ := runs_in_sessions twoSessions
  obtain ⟨hruns, -, -, htimes, -⟩ := hall runs final h
  refine ⟨runs, final, h, ?_, ?_, ?_⟩
  · rw [(hruns 0 ⟨"fast", .ofSeconds 1, true⟩ (by decide)).2]
    decide
  · rw [(hruns 1 ⟨"slow", .ofSeconds 3, false⟩ (by decide)).1]
    decide
  · rw [htimes]
    decide

end Crew

end Scheduler

end FeatureTrials
