import Mathlib
import FeatureTrials.Scheduler

/-!
# The sessions of a scheduler

When the jobs of a scheduler run can be told from what has happened to it. A session lasts from a
start that finds none to the next shutdown, or until now; in it, each job that was registered before
its beginning runs at every whole multiple of its interval, and at no other time does any job run.

* `Scheduler.Event` — what can happen to a scheduler.
* `Scheduler.stretches` — the sessions, read off the events alone.
* `Scheduler.runsOf_new` — the runs of a job are those in the sessions.
-/

namespace FeatureTrials

/-! ## Runs of one job -/

namespace Job

variable {job : Job} {startedAt first second third : Nat}

theorem runs_self : job.runs startedAt first first = [] := by
  rw [runs, Nat.sub_self, List.range_zero, List.map_nil]

/-- The runs while time passes are the runs before and after any instant in between. -/
theorem runs_append (hfirst : first ≤ second) (hsecond : second ≤ third) :
    job.runs startedAt first second ++ job.runs startedAt second third =
      job.runs startedAt first third := by
  have hdone : (first - startedAt) / job.interval.nanos ≤
      (second - startedAt) / job.interval.nanos :=
    Nat.div_le_div_right (Nat.sub_le_sub_right hfirst _)
  have hdue : (second - startedAt) / job.interval.nanos ≤
      (third - startedAt) / job.interval.nanos :=
    Nat.div_le_div_right (Nat.sub_le_sub_right hsecond _)
  simp only [runs]
  generalize (first - startedAt) / job.interval.nanos = a at *
  generalize (second - startedAt) / job.interval.nanos = b at *
  generalize (third - startedAt) / job.interval.nanos = c at *
  have hsplit : c - a = (b - a) + (c - b) := by omega
  rw [hsplit, List.range_add, List.map_append, List.map_map]
  congr 1
  refine List.map_congr_left fun i _ => ?_
  have hindex : b + i = a + (b - a + i) := by omega
  rw [Function.comp_apply, hindex]

end Job

namespace Scheduler

/-! ## What happens to a scheduler -/

/-- What can happen to a scheduler. -/
inductive Event where
  | register (name : String) (interval : Span) (fails : Bool)
  | start
  | shutdown
  | pass (time : Span)
  deriving DecidableEq, Repr

/-- The scheduler after an event. -/
def step (s : Scheduler) : Event → Scheduler
  | .register name interval fails => s.register name interval fails
  | .start => s.start
  | .shutdown => s.shutdown
  | .pass time => s.advance time

/-- When the job with a number runs during an event. -/
def runsIn (s : Scheduler) (number : Nat) : Event → List Nat
  | .pass time => ((s.runs time)[number]?).getD []
  | _ => []

@[simp] theorem runsIn_register (s : Scheduler) (number : Nat) (name : String) (interval : Span)
    (fails : Bool) : s.runsIn number (.register name interval fails) = [] := rfl

@[simp] theorem runsIn_start (s : Scheduler) (number : Nat) : s.runsIn number .start = [] := rfl

@[simp] theorem runsIn_shutdown (s : Scheduler) (number : Nat) :
    s.runsIn number .shutdown = [] := rfl

/-- When the job with a number runs during some events. -/
def runsOf (s : Scheduler) (number : Nat) : List Event → List Nat
  | [] => []
  | event :: rest => s.runsIn number event ++ (s.step event).runsOf number rest

/-- The scheduler after everything that has happened to it. -/
def after (events : List Event) : Scheduler := events.foldl step .new

@[simp] theorem after_append_singleton (events : List Event) (event : Event) :
    after (events ++ [event]) = (after events).step event := by
  rw [after, List.foldl_append, List.foldl_cons, List.foldl_nil, ← after]

/-! ## Sessions -/

/-- The job that an event registers; one that is run without end at once is refused. -/
def Event.job? : Event → Option Job
  | .register name interval fails =>
    if interval.nanos = 0 then none else some ⟨name, interval, fails⟩
  | _ => none

/-- The time an event takes. -/
def Event.duration : Event → Nat
  | .pass time => time.nanos
  | _ => 0

/-- The jobs that events register, in their order. -/
def registered (events : List Event) : List Job := events.filterMap Event.job?

/-- The time that events take. -/
def elapsed (events : List Event) : Nat := (events.map Event.duration).sum

/-- A session is on after events: there is a start since the last shutdown. -/
def IsOn (events : List Event) : Prop := Event.start ∈ events.reverse.takeWhile (· ≠ .shutdown)

instance (events : List Event) : Decidable (IsOn events) :=
  inferInstanceAs (Decidable (_ ∈ _))

/-- A session: its beginning and end, and the number of jobs that were registered before it. -/
structure Stretch where
  begins : Nat
  ends : Nat
  jobs : Nat
  deriving DecidableEq, Repr

/-- The sessions that begin during events, after some earlier ones. Each starts with a start that
finds no session, and lasts until the next shutdown or the last event. -/
def stretches (earlier : List Event) : List Event → List Stretch
  | [] => []
  | event :: rest =>
    let later := stretches (earlier ++ [event]) rest
    if event = .start ∧ ¬ IsOn earlier then
      ⟨elapsed earlier, elapsed earlier + elapsed (rest.takeWhile (· ≠ .shutdown)),
        (registered earlier).length⟩ :: later
    else later

/-- When a job with a number runs in a session: at the whole multiples of its interval. -/
def Stretch.runsOf (stretch : Stretch) (number : Nat) (job : Job) : List Nat :=
  if number < stretch.jobs then
    (List.range ((stretch.ends - stretch.begins) / job.interval.nanos)).map fun k =>
      stretch.begins + (k + 1) * job.interval.nanos
  else []

/-- How often a job with a number runs in a session. -/
def Stretch.countOf (stretch : Stretch) (number : Nat) (job : Job) : Nat :=
  if number < stretch.jobs then (stretch.ends - stretch.begins) / job.interval.nanos else 0

theorem Stretch.length_runsOf (stretch : Stretch) (number : Nat) (job : Job) :
    (stretch.runsOf number job).length = stretch.countOf number job := by
  rw [runsOf, countOf]
  split
  · rw [List.length_map, List.length_range]
  · rfl

/-- A job runs after the beginning of a session and until its end. -/
theorem Stretch.bounds_of_mem_runsOf {stretch : Stretch} {number : Nat} {job : Job} {time : Nat}
    (accepted : job.interval.nanos ≠ 0) (h : time ∈ stretch.runsOf number job) :
    number < stretch.jobs ∧ stretch.begins < time ∧ time ≤ stretch.ends := by
  rw [runsOf] at h
  split at h
  · next hnumber =>
    obtain ⟨k, hk, rfl⟩ := List.mem_map.mp h
    have hpos : 0 < job.interval.nanos := Nat.pos_of_ne_zero accepted
    have hle : (k + 1) * job.interval.nanos ≤ stretch.ends - stretch.begins :=
      (Nat.le_div_iff_mul_le hpos).mp (List.mem_range.mp hk)
    have hlt : 0 < (k + 1) * job.interval.nanos := Nat.mul_pos (Nat.succ_pos k) hpos
    omega
  · cases h

theorem elapsed_append (first second : List Event) :
    elapsed (first ++ second) = elapsed first + elapsed second := by
  rw [elapsed, List.map_append, List.sum_append, elapsed, elapsed]

theorem registered_append (first second : List Event) :
    registered (first ++ second) = registered first ++ registered second :=
  List.filterMap_append

theorem isOn_append_singleton (events : List Event) (event : Event) :
    IsOn (events ++ [event]) ↔ event = .start ∨ event ≠ .shutdown ∧ IsOn events := by
  rw [IsOn, List.reverse_append, List.reverse_singleton, List.singleton_append, List.takeWhile_cons]
  cases event <;> simp [IsOn]

/-! ## The scheduler and its events -/

/-- What a scheduler holds can be told from what has happened to it. -/
theorem view_after (events : List Event) :
    (after events).jobs = registered events ∧ (after events).now = elapsed events ∧
      ((after events).isRunning = true ↔ IsOn events) := by
  induction events using List.reverseRecOn with
  | nil => exact ⟨rfl, rfl, by decide⟩
  | append_singleton events event ih =>
    obtain ⟨hjobs, hnow, hrunning⟩ := ih
    rw [after_append_singleton, registered_append, elapsed_append, isOn_append_singleton,
      ← hjobs, ← hnow, ← hrunning]
    generalize after events = s
    cases event with
    | register name interval fails =>
      have hview : (s.register name interval fails).now = s.now ∧
          (s.register name interval fails).isRunning = s.isRunning ∧
          (s.register name interval fails).jobs =
            s.jobs ++ (Event.register name interval fails).job?.toList := by
        rw [register, accepts, Span.isZero, Event.job?]
        by_cases hzero : interval.nanos = 0 <;> simp [hzero, isRunning]
      obtain ⟨hnow', hrunning', hjobs'⟩ := hview
      refine ⟨?_, ?_, ?_⟩
      · rw [step, hjobs', registered]
        cases hjob : (Event.register name interval fails).job? <;> simp [hjob]
      · rw [step, hnow']
        rfl
      · rw [step, hrunning']
        simp
    | start =>
      rw [step, start]
      cases hrun : s.isRunning <;> simp [registered, elapsed, Event.job?, Event.duration, hrun]
      rfl
    | shutdown =>
      simp [step, shutdown, registered, elapsed, Event.job?, Event.duration, isRunning]
    | pass time =>
      simp [step, advance, registered, elapsed, Event.job?, Event.duration, isRunning]

/-- What a scheduler keeps: each of its jobs has an interval, and a session began with some of
them. -/
structure Sound (s : Scheduler) : Prop where
  interval_ne : ∀ job ∈ s.jobs, job.interval.nanos ≠ 0
  size_le : ∀ session, s.session = some session → session.size ≤ s.jobs.length

theorem sound_new : Sound .new where
  interval_ne := nofun
  size_le := nofun

theorem Sound.step {s : Scheduler} (h : s.Sound) (event : Event) : (s.step event).Sound := by
  obtain ⟨hinterval, hsize⟩ := h
  cases event with
  | register name interval fails =>
    rw [Scheduler.step, register]
    by_cases haccepted : accepts interval = true
    · rw [if_pos haccepted]
      have hne : interval.nanos ≠ 0 := by simpa [accepts, Span.isZero] using haccepted
      refine ⟨?_, ?_⟩
      · intro job hjob
        rcases List.mem_append.mp hjob with hold | hnew
        · exact hinterval job hold
        · cases List.mem_singleton.mp hnew
          exact hne
      · intro session hsession
        exact List.length_append ▸ Nat.le_add_right_of_le (hsize session hsession)
    · rw [if_neg haccepted]
      exact ⟨hinterval, hsize⟩
  | start =>
    rw [Scheduler.step, start]
    split
    · exact ⟨hinterval, hsize⟩
    · refine ⟨hinterval, ?_⟩
      rintro session ⟨⟩
      exact Nat.le_refl _
  | shutdown => exact ⟨hinterval, nofun⟩
  | pass time => exact ⟨hinterval, hsize⟩

theorem sound_after (events : List Event) : (after events).Sound := by
  induction events using List.reverseRecOn with
  | nil => exact sound_new
  | append_singleton events event ih => exact after_append_singleton events event ▸ ih.step event

theorem interval_of_mem_registered {events : List Event} {job : Job}
    (h : job ∈ registered events) : job.interval.nanos ≠ 0 :=
  (sound_after events).interval_ne job ((view_after events).1 ▸ h)

/-! ## When a job runs -/

/-- The runs of a job while time passes, in the session that is on. -/
def ongoing (s : Scheduler) (number : Nat) (job : Job) (time : Nat) : List Nat :=
  match s.session with
  | none => []
  | some session =>
    if number < session.size then job.runs session.startedAt s.now (s.now + time) else []

theorem ongoing_zero (s : Scheduler) (number : Nat) (job : Job) : s.ongoing number job 0 = [] := by
  rw [ongoing]
  cases s.session with
  | none => rfl
  | some session =>
    dsimp only
    rw [Nat.add_zero, Job.runs_self, ite_self]

theorem ongoing_shutdown (s : Scheduler) (number : Nat) (job : Job) (time : Nat) :
    s.shutdown.ongoing number job time = [] := rfl

theorem ongoing_register (s : Scheduler) (name : String) (interval : Span) (fails : Bool)
    (number : Nat) (job : Job) (time : Nat) :
    (s.register name interval fails).ongoing number job time = s.ongoing number job time := by
  rw [register]
  split <;> rfl

/-- A start that finds a session changes nothing; otherwise all jobs there are begin to run. -/
theorem ongoing_start {s : Scheduler} {number : Nat} {job : Job} {time : Nat}
    (h : s.isRunning = false) :
    s.start.ongoing number job time =
      Stretch.runsOf ⟨s.now, s.now + time, s.jobs.length⟩ number job := by
  rw [start, h, ongoing, Stretch.runsOf]
  simp [Job.runs]

/-- The runs while time passes are the runs before and after any instant in between. -/
theorem ongoing_append (s : Scheduler) (number : Nat) (job : Job) (time : Span) (later : Nat) :
    s.ongoing number job time.nanos ++ (s.advance time).ongoing number job later =
      s.ongoing number job (time.nanos + later) := by
  rw [ongoing, ongoing, ongoing, advance]
  cases s.session with
  | none => rfl
  | some session =>
    dsimp only
    split
    · rw [Job.runs_append (Nat.le_add_right _ _) (Nat.le_add_right _ _), Nat.add_assoc]
    · rfl

theorem ongoing_eq_nil {s : Scheduler} (hs : s.Sound) {number : Nat} (h : s.jobs.length ≤ number)
    (job : Job) (time : Nat) : s.ongoing number job time = [] := by
  rw [ongoing]
  cases hsession : s.session with
  | none => rfl
  | some session =>
    have hsize := hs.size_le session hsession
    exact if_neg (by omega)

/-- A registered job runs, while time passes, when it does in the session that is on. -/
theorem runsIn_pass {s : Scheduler} {number : Nat} {job : Job} (h : s.jobs[number]? = some job)
    (time : Span) : s.runsIn number (.pass time) = s.ongoing number job time.nanos := by
  rw [runsIn, runs, ongoing]
  cases s.session with
  | none =>
    dsimp only
    rw [List.getElem?_map, h]
    rfl
  | some session =>
    dsimp only
    rw [List.getElem?_map, List.getElem?_zipIdx, h, Nat.zero_add]
    rfl

theorem runsIn_eq_nil {s : Scheduler} {number : Nat} (h : s.jobs.length ≤ number) (event : Event) :
    s.runsIn number event = [] := by
  cases event with
  | pass time =>
    have hlength : (s.runs time).length ≤ number := by
      rw [runs]
      cases s.session <;> simpa using h
    rw [runsIn, List.getElem?_eq_none hlength, Option.getD_none]
  | _ => rfl

/-- From any point of a history on, a job runs for as long as the session lasts that is on, and in
the sessions that are to come. -/
theorem runsOf_after {number : Nat} {job : Job} (earlier rest : List Event)
    (h : (registered (earlier ++ rest))[number]? = some job) :
    (after earlier).runsOf number rest =
      (after earlier).ongoing number job (elapsed (rest.takeWhile (· ≠ .shutdown))) ++
        (stretches earlier rest).flatMap (·.runsOf number job) := by
  induction rest generalizing earlier with
  | nil =>
    rw [runsOf, List.takeWhile_nil, elapsed, List.map_nil, List.sum_nil, ongoing_zero]
    rfl
  | cons event rest ih =>
    obtain ⟨hjobs, hnow, hrunning⟩ := view_after earlier
    have hlater := ih (earlier ++ [event]) (by rwa [List.append_assoc])
    rw [after_append_singleton] at hlater
    rw [runsOf, hlater, stretches]
    cases event with
    | register name interval fails =>
      rw [if_neg (by rintro ⟨h, -⟩; cases h), step, ongoing_register,
        runsIn_register, List.nil_append]
      simp [elapsed, Event.duration]
    | start =>
      cases hrun : (after earlier).isRunning with
      | true =>
        rw [if_neg (by simp [hrunning.mp hrun]), step, start, if_pos hrun,
          runsIn_start, List.nil_append]
        simp [elapsed, Event.duration]
      | false =>
        have hoff : ¬ IsOn earlier := fun hon => by simp [hrunning.mpr hon] at hrun
        have hidle : (after earlier).session = none := by simpa [isRunning] using hrun
        have hnone : ∀ time, (after earlier).ongoing number job time = [] := by
          intro time
          rw [ongoing, hidle]
        rw [if_pos ⟨rfl, hoff⟩, step, ongoing_start hrun, hnone, runsIn_start, List.nil_append,
          List.nil_append, List.flatMap_cons, hjobs, hnow]
    | shutdown =>
      rw [if_neg (by rintro ⟨h, -⟩; cases h), step, ongoing_shutdown, runsIn_shutdown]
      simp [elapsed, ongoing_zero]
    | pass time =>
      have hpass : (after earlier).runsIn number (.pass time) =
          (after earlier).ongoing number job time.nanos := by
        rcases Nat.lt_or_ge number (after earlier).jobs.length with hlength | hlength
        · refine runsIn_pass ?_ time
          rw [hjobs] at hlength ⊢
          rwa [registered_append, List.getElem?_append_left hlength] at h
        · rw [runsIn_eq_nil hlength, ongoing_eq_nil (sound_after earlier) hlength]
      rw [if_neg (by rintro ⟨h, -⟩; cases h), step, ← List.append_assoc, hpass, ongoing_append]
      simp [elapsed, Event.duration]

/-- A job runs in the sessions that began after its registration, at the whole multiples of its
interval, and at no other time. -/
theorem runsOf_new {number : Nat} {job : Job} (events : List Event)
    (h : (registered events)[number]? = some job) :
    Scheduler.new.runsOf number events =
      (stretches [] events).flatMap (·.runsOf number job) :=
  runsOf_after [] events h

/-- Nothing runs under a number that no job has. -/
theorem runsOf_after_eq_nil {number : Nat} (earlier rest : List Event)
    (h : (registered (earlier ++ rest)).length ≤ number) :
    (after earlier).runsOf number rest = [] := by
  induction rest generalizing earlier with
  | nil => rfl
  | cons event rest ih =>
    have hjobs : (after earlier).jobs.length ≤ number := by
      rw [registered_append, List.length_append] at h
      rw [(view_after earlier).1]
      omega
    have hlater := ih (earlier ++ [event]) (by rwa [List.append_assoc])
    rw [after_append_singleton] at hlater
    rw [runsOf, hlater, runsIn_eq_nil hjobs, List.append_nil]

end Scheduler

end FeatureTrials
