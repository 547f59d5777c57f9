import FeatureTrials.Notice

/-!
# The scheduler

Named jobs run at independent fixed intervals. A session lasts from a start to the next shutdown;
the jobs that are registered when it begins run at whole multiples of their intervals after its
beginning. Time is counted in nanoseconds since the scheduler was made, and a run takes no time.
-/

namespace FeatureTrials

/-- A job that is run again and again. -/
structure Job where
  name : String
  interval : Span
  /-- its runs break off, which keeps none of the later ones from taking place -/
  fails : Bool
  deriving DecidableEq, Repr

/-- The instants after one instant and up to another at which a job runs in a session that began at
a third. -/
def Job.runs (job : Job) (startedAt after upTo : Nat) : List Nat :=
  let done := (after - startedAt) / job.interval.nanos
  let due := (upTo - startedAt) / job.interval.nanos
  (List.range (due - done)).map fun i => startedAt + (done + i + 1) * job.interval.nanos

/-- A time during which jobs run: its beginning, and the number of jobs there were then. -/
structure Session where
  startedAt : Nat
  size : Nat
  deriving DecidableEq, Repr

/-- Named jobs and the session they run in. -/
structure Scheduler where
  jobs : List Job := []
  session : Option Session := none
  now : Nat := 0
  deriving DecidableEq, Repr

namespace Scheduler

/-- A scheduler without jobs. -/
def new : Scheduler := {}

/-- A session is on. -/
def isRunning (s : Scheduler) : Bool := s.session.isSome

/-- The names of the jobs in the order of their registration. -/
def jobNames (s : Scheduler) : List String := s.jobs.map (·.name)

/-- An interval that a job can be run at. -/
def accepts (interval : Span) : Bool := !interval.isZero

/-- Adds a job, unless its interval is zero. It runs from the next session on. -/
def register (s : Scheduler) (name : String) (interval : Span) (fails : Bool) : Scheduler :=
  if accepts interval then { s with jobs := s.jobs ++ [⟨name, interval, fails⟩] } else s

/-- What registering a job tells operators. -/
def registerNotices (name : String) (interval : Span) : List Notice :=
  if accepts interval then [] else [.jobRefused name]

/-- Begins a session, unless one is on. -/
def start (s : Scheduler) : Scheduler :=
  if s.isRunning then s else { s with session := some ⟨s.now, s.jobs.length⟩ }

/-- What beginning a session tells operators. -/
def startNotices (s : Scheduler) : List Notice :=
  if s.isRunning then [] else [.schedulerStarted s.jobs.length]

/-- Lets time pass. -/
def advance (s : Scheduler) (time : Span) : Scheduler := { s with now := s.now + time.nanos }

/-- When each job runs while time passes. -/
def runs (s : Scheduler) (time : Span) : List (List Nat) :=
  match s.session with
  | none => s.jobs.map fun _ => []
  | some session =>
    s.jobs.zipIdx.map fun (job, i) =>
      if i < session.size then job.runs session.startedAt s.now (s.now + time.nanos) else []

/-- What the runs while time passes tell operators. -/
def runNotices (s : Scheduler) (time : Span) : List Notice :=
  (s.jobs.zip (s.runs time)).flatMap fun (job, times) =>
    if job.fails then times.map fun _ => .jobFailed job.name else []

/-- Ends the session. -/
def shutdown (s : Scheduler) : Scheduler := { s with session := none }

/-- What ending the session tells operators. -/
def shutdownNotices (s : Scheduler) : List Notice :=
  let stopping := match s.session with
    | some session => (s.jobs.take session.size).map fun job => .jobStopping job.name
    | none => []
  stopping ++ [.schedulerStopped]

end Scheduler

end FeatureTrials
