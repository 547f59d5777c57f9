import FeatureTrials.Proofs.Analytics.Buckets

/-!
# Retention leaves no trace

Whatever is recorded and cleaned up, in whatever order and at whatever readings of the clock, what
is on record is what would be if only the events that survive all later cleanups had been recorded
(`Analytics.log_run`). No report can tell the difference, and the buckets that a program keeps do
not tell it either. The cleanups account for all the other events.

* `Call` — what is recorded and when it is cleaned up.
* `survivors` — the events of some calls that outlive the cleanups after them.
* `Analytics.DropsExpired` — what one cleanup does.
-/

namespace FeatureTrials

/-! ## Calls -/

/-- Something that is recorded. -/
inductive Event where
  | exposure (e : Exposure)
  | conversion (c : Conversion)
  | evaluation (e : Evaluation)

/-- When an event happened. -/
def Event.time : Event → Instant
  | exposure e => e.time
  | conversion c => c.time
  | evaluation e => e.time

/-- A record of an event or a cleanup. -/
inductive Call where
  | record (event : Event)
  | cleanup (now : Instant)

/-- The recorded events. -/
def recorded : List Call → List Event :=
  List.filterMap fun
    | .record event => some event
    | .cleanup _ => none

/-- A call does not drop an event. -/
def Call.spares (retention : Span) (event : Event) : Call → Bool
  | record _ => true
  | cleanup now => (now.sub? retention).all (· < event.time)

@[simp] theorem Call.spares_record (retention : Span) (event other : Event) :
    (record other).spares retention event = true := rfl

/-- The events that outlive every cleanup after them, in their order. -/
def survivors (retention : Span) : List Call → List Event
  | [] => []
  | .record event :: rest =>
    if rest.all (·.spares retention event) then event :: survivors retention rest
    else survivors retention rest
  | .cleanup _ :: rest => survivors retention rest

namespace Analytics

/-- Nothing on record yet. -/
def fresh (retention : Span) : Analytics := { retention }

/-- Records an event. -/
def record (a : Analytics) : Event → Analytics
  | .exposure e => a.expose e
  | .conversion c => a.convert c
  | .evaluation e => a.evaluated e

/-- Makes a call. -/
def perform (a : Analytics) : Call → Analytics
  | .record event => a.record event
  | .cleanup now => a.cleanup now

/-- The number of events that a call drops. -/
def dropped (a : Analytics) : Call → Nat
  | .record _ => 0
  | .cleanup now => a.expired now

/-- Makes some calls. -/
def run (a : Analytics) (calls : List Call) : Analytics := calls.foldl perform a

/-- The number of events that some calls drop, added up. -/
def droppedBy (a : Analytics) : List Call → Nat
  | [] => 0
  | call :: rest => a.dropped call + (a.perform call).droppedBy rest

end Analytics

/-! ## Survivors -/

section

variable {retention : Span} {calls : List Call} {event : Event} {now : Instant}

theorem recorded_append (first second : List Call) :
    recorded (first ++ second) = recorded first ++ recorded second :=
  List.filterMap_append

/-- What is recorded last survives. -/
theorem survivors_append_record (calls : List Call) (event : Event) :
    survivors retention (calls ++ [.record event]) = survivors retention calls ++ [event] := by
  induction calls with
  | nil => rfl
  | cons call rest ih =>
    cases call with
    | cleanup now => exact ih
    | record first =>
      rw [List.cons_append, survivors, survivors, ih, List.all_append, List.all_cons, List.all_nil,
        Call.spares_record, Bool.and_true, Bool.and_true]
      split <;> rfl

/-- A last cleanup leaves what outlives it. -/
theorem survivors_append_cleanup (calls : List Call) (now : Instant) :
    survivors retention (calls ++ [.cleanup now]) =
      (survivors retention calls).filter fun event =>
        (Call.cleanup now).spares retention event := by
  induction calls with
  | nil => rfl
  | cons call rest ih =>
    cases call with
    | cleanup earlier => exact ih
    | record first =>
      rw [List.cons_append, survivors, survivors, ih, List.all_append, List.all_cons, List.all_nil,
        Bool.and_true]
      cases rest.all (·.spares retention first) with
      | false => rfl
      | true => simp only [Bool.true_and, if_true, List.filter_cons]

/-- Surviving changes neither the events nor their order. -/
theorem survivors_sublist (retention : Span) (calls : List Call) :
    (survivors retention calls).Sublist (recorded calls) := by
  induction calls with
  | nil => exact List.Sublist.refl _
  | cons call rest ih =>
    cases call with
    | cleanup now => exact ih
    | record event =>
      rw [survivors]
      split
      · exact ih.cons_cons event
      · exact ih.cons event

/-- Records alone drop nothing. -/
theorem survivors_map_record (events : List Event) :
    survivors retention (events.map .record) = events := by
  induction events with
  | nil => rfl
  | cons event rest ih =>
    have hspares : (rest.map Call.record).all (·.spares retention event) = true := by
      rw [List.all_map, List.all_eq_true]
      exact fun _ _ => rfl
    rw [List.map_cons, survivors, if_pos hspares, ih]

end

/-! ## What is on record -/

namespace EventLog

/-- Records an event. -/
def add (log : EventLog) : Event → EventLog
  | .exposure e => log.addExposure e
  | .conversion c => log.addConversion c
  | .evaluation e => log.addEvaluation e

/-- The log of some events. -/
def ofEvents (events : List Event) : EventLog := events.foldl add .empty

theorem ofEvents_append (events : List Event) (event : Event) :
    ofEvents (events ++ [event]) = (ofEvents events).add event := by
  rw [ofEvents, List.foldl_append]
  rfl

/-- A cleanup treats an event that was just recorded by itself. -/
theorem after_add (log : EventLog) (event : Event) (cutoff : Instant) :
    (log.add event).after cutoff =
      if cutoff < event.time then (log.after cutoff).add event else log.after cutoff := by
  cases event <;> split <;> rename_i h <;>
    simp only [add, after, addExposure, addConversion, addEvaluation, Event.time,
      Array.filter_push, decide_eq_true_eq] at h ⊢ <;>
    simp only [h, if_true, if_false]

theorem size_add (log : EventLog) (event : Event) : (log.add event).size = log.size + 1 := by
  cases event <;> simp only [add, addExposure, addConversion, addEvaluation, size, Array.size_push]
    <;> omega

/-- A cleanup of the log of some events leaves the log of those after the cutoff. -/
theorem after_ofEvents (events : List Event) (cutoff : Instant) :
    (ofEvents events).after cutoff = ofEvents (events.filter (cutoff < ·.time)) := by
  induction events using List.reverseRecOn with
  | nil => rfl
  | append_singleton events event ih =>
    rw [ofEvents_append, after_add, ih, List.filter_append, List.filter_cons, List.filter_nil]
    split
    · next h => rw [if_pos (decide_eq_true h), ofEvents_append]
    · next h => rw [if_neg (mt of_decide_eq_true h), List.append_nil]

end EventLog

namespace Analytics

variable {retention : Span} {calls : List Call} {now cutoff : Instant}

theorem run_append (a : Analytics) (calls : List Call) (call : Call) :
    a.run (calls ++ [call]) = (a.run calls).perform call := by
  rw [run, List.foldl_append]
  rfl

theorem log_record (a : Analytics) (event : Event) : (a.record event).log = a.log.add event := by
  cases event <;> rfl

@[simp] theorem retention_perform (a : Analytics) (call : Call) :
    (a.perform call).retention = a.retention := by
  cases call with
  | record event => cases event <;> rfl
  | cleanup now => exact retention_cleanup

theorem retention_run (a : Analytics) (calls : List Call) :
    (a.run calls).retention = a.retention := by
  induction calls generalizing a with
  | nil => rfl
  | cons call rest ih => exact (ih _).trans (retention_perform a call)

/-- A cleanup leaves what it spares. -/
theorem log_cleanup_of_log_eq {a : Analytics} {events : List Event}
    (hlog : a.log = .ofEvents events) :
    (a.cleanup now).log =
      .ofEvents (events.filter fun event => (Call.cleanup now).spares a.retention event) := by
  cases h : a.cutoff? now with
  | none =>
    have hall : ∀ event ∈ events, (Call.cleanup now).spares a.retention event = true := by
      intro event _
      rw [Call.spares, ← cutoff?, h]
      rfl
    rw [cleanup_of_no_cutoff h, hlog, List.filter_eq_self.mpr hall]
  | some cutoff =>
    rw [cleanup_of_cutoff h]
    dsimp only
    rw [hlog, EventLog.after_ofEvents]
    refine congrArg _ (List.filter_congr fun event _ => ?_)
    rw [Call.spares, ← cutoff?, h]
    rfl

/-- On record are the survivors, in their order. -/
theorem log_run (retention : Span) (calls : List Call) :
    ((fresh retention).run calls).log = .ofEvents (survivors retention calls) := by
  induction calls using List.reverseRecOn with
  | nil => rfl
  | append_singleton calls call ih =>
    rw [run_append]
    cases call with
    | record event =>
      rw [perform, log_record, ih, survivors_append_record, EventLog.ofEvents_append]
    | cleanup now =>
      rw [perform, log_cleanup_of_log_eq ih, retention_run, survivors_append_cleanup]
      rfl

/-- Recording the survivors alone comes to the same. -/
theorem log_run_survivors (retention : Span) (calls : List Call) :
    ((fresh retention).run ((survivors retention calls).map .record)).log =
      ((fresh retention).run calls).log := by
  rw [log_run, log_run, survivors_map_record]

/-- A call records an event or drops some. -/
theorem size_perform_add_dropped (a : Analytics) (call : Call) :
    (a.perform call).log.size + a.dropped call = a.log.size + (recorded [call]).length := by
  cases call with
  | record event =>
    rw [perform, log_record, EventLog.size_add]
    rfl
  | cleanup now => exact a.size_cleanup_add_expired now

/-- What was on record and what was recorded is still on record, or a cleanup has counted it. -/
theorem size_run_add_droppedBy (a : Analytics) (calls : List Call) :
    (a.run calls).log.size + a.droppedBy calls = a.log.size + (recorded calls).length := by
  induction calls generalizing a with
  | nil => rfl
  | cons call rest ih =>
    have hcall := a.size_perform_add_dropped call
    have hrest := ih (a.perform call)
    have hrecorded : (recorded (call :: rest)).length =
        (recorded [call]).length + (recorded rest).length := by
      rw [← List.singleton_append, recorded_append, List.length_append]
    rw [run, List.foldl_cons, ← run, droppedBy, hrecorded]
    omega

theorem droppedBy_append (a : Analytics) (calls : List Call) (call : Call) :
    a.droppedBy (calls ++ [call]) = a.droppedBy calls + (a.run calls).dropped call := by
  induction calls generalizing a with
  | nil => exact Nat.add_comm _ _
  | cons first rest ih =>
    rw [List.cons_append, droppedBy, droppedBy, ih, Nat.add_assoc]
    rfl

end Analytics

/-! ## In buckets -/

namespace BucketLog

/-- Records an event. -/
def record (b : BucketLog) : Event → BucketLog
  | .exposure e => b.addExposure e
  | .conversion c => b.addConversion c
  | .evaluation e => b.addEvaluation e

/-- Makes a call, and counts the events that it drops. -/
def perform (retention : Span) (b : BucketLog) : Call → Nat × BucketLog
  | .record event => (0, b.record event)
  | .cleanup now =>
    match now.sub? retention with
    | some cutoff => b.dropUntil cutoff
    | none => (0, b)

/-- Makes some calls, and adds up the events that they drop. -/
def run (retention : Span) (calls : List Call) : Nat × BucketLog :=
  calls.foldl (fun (dropped, b) call =>
    let (more, b) := b.perform retention call
    (dropped + more, b)) (0, {})

theorem record_ofLog (log : EventLog) (event : Event) :
    (ofLog log).record event = ofLog (log.add event) := by
  cases event with
  | exposure e => exact (ofLog_addExposure log e).symm
  | conversion c => exact (ofLog_addConversion log c).symm
  | evaluation e => exact (ofLog_addEvaluation log e).symm

/-- A call does to the buckets of a log what it does to the log. -/
theorem perform_ofLog (a : Analytics) (call : Call) :
    (ofLog a.log).perform a.retention call = (a.dropped call, ofLog (a.perform call).log) := by
  cases call with
  | record event => rw [perform, record_ofLog, Analytics.perform, Analytics.log_record]; rfl
  | cleanup now =>
    rw [perform, Analytics.dropped, Analytics.perform, ← Analytics.cutoff?]
    cases h : a.cutoff? now with
    | none => rw [Analytics.expired_of_no_cutoff h, Analytics.cleanup_of_no_cutoff h]
    | some cutoff =>
      rw [Analytics.expired_of_cutoff h, Analytics.cleanup_of_cutoff h, ← a.log.size_sub_size_after]
      exact dropUntil_ofLog a.log cutoff

/-- The buckets after some calls are those of the log, and as many events have been counted. -/
theorem run_eq (retention : Span) (calls : List Call) :
    run retention calls =
      ((Analytics.fresh retention).droppedBy calls,
        ofLog ((Analytics.fresh retention).run calls).log) := by
  induction calls using List.reverseRecOn with
  | nil => rfl
  | append_singleton calls call ih =>
    have hperform := perform_ofLog ((Analytics.fresh retention).run calls) call
    rw [Analytics.retention_run] at hperform
    rw [run, List.foldl_append, ← run, ih, Analytics.droppedBy_append, Analytics.run_append]
    exact congrArg (fun result => (_ + result.1, result.2)) hperform

end BucketLog

/-! ## No trace -/

namespace Analytics

variable {a : Analytics} {now earlier later : Instant}

/-- A cleanup drops the events that have outlived the retention, from all three lists, and counts
them. Without a cutoff it does nothing. -/
structure DropsExpired (a : Analytics) (now : Instant) : Prop where
  without_cutoff : a.cutoff? now = none → a.cleanup now = a ∧ a.expired now = 0
  log : ∀ cutoff, a.cutoff? now = some cutoff →
    (a.cleanup now).log.exposures.toList =
        a.log.exposures.toList.filter (fun e => ¬ e.time ≤ cutoff) ∧
      (a.cleanup now).log.conversions.toList =
        a.log.conversions.toList.filter (fun c => ¬ c.time ≤ cutoff) ∧
      (a.cleanup now).log.evaluations.toList =
        a.log.evaluations.toList.filter (fun e => ¬ e.time ≤ cutoff)
  expired : ∀ cutoff, a.cutoff? now = some cutoff →
    a.expired now =
      a.log.exposures.toList.countP (·.time ≤ cutoff) +
        a.log.conversions.toList.countP (·.time ≤ cutoff) +
        a.log.evaluations.toList.countP (·.time ≤ cutoff)

theorem dropsExpired (a : Analytics) (now : Instant) : a.DropsExpired now where
  without_cutoff h := ⟨cleanup_of_no_cutoff h, expired_of_no_cutoff h⟩
  log cutoff h := by
    have hkept : ∀ t : Instant, decide (¬ t ≤ cutoff) = decide (cutoff < t) := fun t =>
      decide_eq_decide.mpr (by rw [← Instant.not_lt, not_not])
    rw [cleanup_of_cutoff h]
    simp only [EventLog.exposures_after, EventLog.conversions_after, EventLog.evaluations_after,
      hkept, and_self]
  expired cutoff h := expired_of_cutoff h

/-- What the buckets report is what a log reports. -/
structure ReportsOf (b : BucketLog) (log : EventLog) : Prop where
  experiments : ∀ experiment, b.experimentReport experiment = log.experimentReport experiment
  flags : ∀ flag, b.flagReport flag = log.flagReport flag
  samples : ∀ experiment, b.samples experiment = log.samples experiment
  totals : ∀ now, b.totals now = log.totals now

theorem reportsOf_ofLog (log : EventLog) : ReportsOf (.ofLog log) log where
  experiments := BucketLog.experimentReport_ofLog log
  flags := BucketLog.flagReport_ofLog log
  samples := BucketLog.samples_ofLog log
  totals := BucketLog.totals_ofLog log

/-- **Retention is exact.** Whatever has been recorded and cleaned up: every cleanup drops just the
expired events and counts them; the events are on record or have been counted; on record are the
survivors, in their order, and every report is that of a log in which only they were recorded, with
no bucket left of the others; and two cleanups in a row are the one with the later reading, if that
is no earlier on a clock without leap seconds either. -/
theorem retention_exact (retention : Span) (calls : List Call) :
    let a := (fresh retention).run calls
    let survived := (fresh retention).run ((survivors retention calls).map .record)
    (∀ now, a.DropsExpired now) ∧
    a.log.size + (fresh retention).droppedBy calls = (recorded calls).length ∧
    (survivors retention calls).Sublist (recorded calls) ∧
    a.log = survived.log ∧
    BucketLog.run retention calls = ((fresh retention).droppedBy calls, .ofLog survived.log) ∧
    ReportsOf (BucketLog.run retention calls).2 survived.log ∧
    ∀ earlier later : Instant, earlier ≤ later → earlier.count ≤ later.count →
      later.told? = some later →
      (a.cleanup earlier).cleanup later = a.cleanup later ∧
      (a.cleanup later).cleanup earlier = a.cleanup later ∧
      a.expired earlier + (a.cleanup earlier).expired later = a.expired later ∧
      a.expired later + (a.cleanup later).expired earlier = a.expired later := by
  intro a survived
  have hlog : a.log = survived.log := (log_run_survivors retention calls).symm
  have hbuckets : BucketLog.run retention calls =
      ((fresh retention).droppedBy calls, .ofLog survived.log) :=
    (BucketLog.run_eq retention calls).trans (by rw [← hlog])
  refine ⟨a.dropsExpired, ?_, survivors_sublist retention calls, hlog, hbuckets, ?_, ?_⟩
  · exact (size_run_add_droppedBy _ calls).trans (Nat.zero_add _)
  · rw [hbuckets]
    exact reportsOf_ofLog survived.log
  · intro earlier later hle hcount told
    have precedes : a.Precedes earlier later := precedes_of_le hle hcount told
    obtain ⟨hthen, hback⟩ := precedes.cleanup_cleanup
    obtain ⟨hexpired, hexpired'⟩ := precedes.expired_add_expired
    exact ⟨hthen, hback, hexpired, hexpired'⟩

/-! ### Around the end of 2023

An event in the last second of the year, retained for one second. -/

/-- The exposure of somebody 300 milliseconds into the last second. -/
def lastVisit : List Call :=
  [.record (.exposure
    { user := "ann", experiment := "colours", variant := "green"
      time := ⟨1704067199, 300000000, by decide⟩ })]

/-- 400 milliseconds into the last second. -/
def beforeMidnight : Instant := ⟨1704067199, 400000000, by decide⟩

/-- Half a second into a leap second at the end of the year. -/
def withinLeapSecond : Instant := ⟨1704067199, 1500000000, by decide⟩

/-- 200 milliseconds into the next year. -/
def afterMidnight : Instant := ⟨1704067200, 200000000, by decide⟩

/-- 350 milliseconds into the next year. -/
def wellAfterMidnight : Instant := ⟨1704067200, 350000000, by decide⟩

theorem retention_exact_midnight :
    beforeMidnight ≤ wellAfterMidnight ∧ beforeMidnight.count ≤ wellAfterMidnight.count ∧
      wellAfterMidnight.told? = some wellAfterMidnight ∧
      ((fresh (.ofSeconds 1)).run lastVisit).expired beforeMidnight = 0 ∧
      (((fresh (.ofSeconds 1)).run lastVisit).cleanup beforeMidnight).expired wellAfterMidnight =
        1 := by
  have hle : beforeMidnight ≤ wellAfterMidnight := by decide
  have hcount : beforeMidnight.count ≤ wellAfterMidnight.count :=
    Instant.count_le_count hle (by decide)
  have told : wellAfterMidnight.told? = some wellAfterMidnight := by decide
  have hnone : ((fresh (.ofSeconds 1)).run lastVisit).expired beforeMidnight = 0 := by decide
  have hone : ((fresh (.ofSeconds 1)).run lastVisit).expired wellAfterMidnight = 1 := by decide
  obtain ⟨-, -, -, -, -, -, htwice⟩ := retention_exact (.ofSeconds 1) lastVisit
  obtain ⟨-, -, hsum, -⟩ := htwice _ _ hle hcount told
  rw [hnone, hone, Nat.zero_add] at hsum
  exact ⟨hle, hcount, told, hnone, hsum⟩

/-- A reading within a leap second has a later cutoff than one that follows at once, so two cleanups
may drop an event that the later one alone leaves. -/
theorem leap_second_cutoff :
    ¬ ∀ (retention : Span) (calls : List Call) (earlier later : Instant), earlier ≤ later →
      later.told? = some later →
      ((fresh retention).run calls).expired earlier +
          (((fresh retention).run calls).cleanup earlier).expired later =
        ((fresh retention).run calls).expired later := by
  intro twice
  have hle : withinLeapSecond ≤ afterMidnight := by decide
  have told : afterMidnight.told? = some afterMidnight := by decide
  have hsum := twice (.ofSeconds 1) lastVisit _ _ hle told
  have hdropped : ((fresh (.ofSeconds 1)).run lastVisit).expired withinLeapSecond = 1 := by decide
  have hleft : ((fresh (.ofSeconds 1)).run lastVisit).expired afterMidnight = 0 := by decide
  omega

end Analytics

end FeatureTrials
