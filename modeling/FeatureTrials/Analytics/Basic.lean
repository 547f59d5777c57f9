import FeatureTrials.Analytics.Report
import FeatureTrials.Notice

/-!
# Analytics

The event log of an engine, how long events are retained, and the totals as they were last taken.
-/

namespace FeatureTrials

/-- The recorded events and the totals that were last taken of them. -/
structure Analytics where
  retention : Span
  log : EventLog := .empty
  totals : Totals := .initial

namespace Analytics

/-- Records an exposure. -/
def expose (a : Analytics) (e : Exposure) : Analytics := { a with log := a.log.addExposure e }

/-- Records a conversion. -/
def convert (a : Analytics) (c : Conversion) : Analytics :=
  { a with log := a.log.addConversion c }

/-- Records an evaluation. -/
def evaluated (a : Analytics) (e : Evaluation) : Analytics :=
  { a with log := a.log.addEvaluation e }

/-- Takes the totals of the events that are in the log now. -/
def process (a : Analytics) (now : Instant) : Analytics :=
  { a with totals := a.log.totals now }

/-- What taking the totals tells operators. -/
def processNotices (a : Analytics) (now : Instant) : List Notice :=
  let totals := (a.process now).totals
  [.analyticsProcessed totals.exposures totals.conversions totals.evaluations]

/-- The instant up to which events have outlived the retention. -/
def cutoff? (a : Analytics) (now : Instant) : Option Instant := now.sub? a.retention

/-- Drops the events that have outlived the retention. -/
def cleanup (a : Analytics) (now : Instant) : Analytics :=
  match a.cutoff? now with
  | some cutoff => { a with log := a.log.after cutoff }
  | none => a

/-- The number of events a cleanup drops. -/
def expired (a : Analytics) (now : Instant) : Nat := a.log.size - (a.cleanup now).log.size

/-- What a cleanup tells operators. -/
def cleanupNotices (a : Analytics) (now : Instant) : List Notice :=
  match a.cutoff? now with
  | some cutoff => [.analyticsCleaned (a.expired now) cutoff]
  | none => []

end Analytics

end FeatureTrials
