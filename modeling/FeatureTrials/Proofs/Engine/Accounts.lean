import FeatureTrials.Proofs.Analytics.Cleanup
import FeatureTrials.Proofs.Analytics.Reports
import FeatureTrials.Proofs.Experiment.Mirror

/-!
# The calls, the analytics and the metrics agree

An engine keeps three accounts of what it is asked: the answers it gives, the events it puts on
record, and what it reports to the metrics of the service. An evaluation and a conversion enter all
three, each exactly once, and nothing else does. What is reported to the metrics does not depend on
the analytics.

* `Made` — an operation and the engine that it meets; `Engine.made` are those of a run.
* `Made.exposure?`, `Made.evaluation?`, `Made.conversion?` — the events of an operation.
* `Made.signals_eq`, `Made.adds_step` — what an operation reports and what it puts on record are
  its events.
* `MetersAgree`, `RecordsAgree` — the reports of a run, and what it has put on record, against its
  operations.
-/

namespace FeatureTrials

/-- An operation and the engine that it meets. -/
structure Made where
  engine : Engine
  now : Instant
  operation : Operation

/-- The operations of a run, each with the engine that the ones before it have left. -/
def Engine.made (engine : Engine) : List (Instant × Operation) → List Made
  | [] => []
  | (now, operation) :: rest => ⟨engine, now, operation⟩ :: (engine.step now operation).made rest

theorem Engine.made_append (engine : Engine) (first second : List (Instant × Operation)) :
    engine.made (first ++ second) = engine.made first ++ (engine.run first).made second := by
  induction first generalizing engine with
  | nil => rfl
  | cons head rest ih =>
    rw [List.cons_append, made, made, ih, List.cons_append]
    rfl

namespace Made

theorem mem_of_mem_made {engine : Engine} {operations : List (Instant × Operation)} {m : Made}
    (hm : m ∈ engine.made operations) : (m.now, m.operation) ∈ operations := by
  induction operations generalizing engine with
  | nil => cases hm
  | cons head rest ih =>
    rcases List.mem_cons.mp hm with rfl | hm
    · exact List.mem_cons_self
    · exact List.mem_cons_of_mem _ (ih hm)

/-- What the operation reports to the metrics. -/
def signals (m : Made) : List Signal :=
  match m.engine.perform m.now m.operation with
  | .ok outcome => outcome.signals
  | .error _ => []

/-- The operation is an evaluation of a flag, and the reason in its answer has a label. -/
def answers (m : Made) (flagKey label : String) : Bool :=
  match m.operation, m.engine.perform m.now m.operation with
  | .evaluate key _ _, .ok { answer := .detail detail, .. } =>
    key == flagKey && detail.reason.label == label
  | _, _ => false

/-- The operation is an evaluation for a user whom an experiment assigns a variant. -/
def assigns (m : Made) (experimentId variantId : String) : Bool :=
  match m.operation with
  | .evaluate flagKey user _ =>
    (m.engine.assignment? flagKey user).any fun assignment =>
      assignment.experimentId == experimentId && assignment.variantId == variantId
  | _ => false

/-- The conversion that the operation records, unless it is refused. -/
def conversion? (m : Made) : Option Conversion :=
  match m.operation, m.engine.perform m.now m.operation with
  | .recordConversion experimentId variantId user kind value, .ok _ =>
    some ⟨user, experimentId, variantId, kind, value, m.now⟩
  | _, _ => none

/-- The operation is a conversion of a variant that is not refused. -/
def converts (m : Made) (experimentId variantId : String) : Bool :=
  m.conversion?.any fun c => c.experiment == experimentId && c.variant == variantId

/-- The exposure of a user whom the operation assigns a variant. -/
def exposure? (m : Made) : Option Exposure :=
  match m.operation with
  | .evaluate flagKey user _ =>
    (m.engine.assignment? flagKey user).map (Engine.exposureOf · user m.now)
  | _ => none

/-- The evaluation of a flag. -/
def evaluation? (m : Made) : Option Evaluation :=
  match m.operation with
  | .evaluate flagKey user default =>
    let detail := m.engine.detail flagKey user default m.now
    some ⟨user.id, flagKey, detail.value, default, detail.reason.label, m.now⟩
  | _ => none

end Made

/-! ## Operations that enter no account -/

/-- Evaluations and conversions enter the accounts. -/
def Operation.IsCounted : Operation → Prop
  | .evaluate .. => True
  | .recordConversion .. => True
  | _ => False

namespace ExperimentSweep

variable {now : Instant} {soFar : Outcome ExperimentSweep}

theorem signals_startDue (silent : soFar.signals = []) (id : String) :
    (startDue now soFar id).signals = [] := by
  rw [startDue]
  split
  · rfl
  · exact silent

theorem signals_complete (silent : soFar.signals = []) (id : String) (move : Move) :
    (complete now soFar id move).signals = [] := by
  rw [complete]
  split
  · rfl
  · exact silent

theorem signals_review (silent : soFar.signals = []) (e : Experiment) :
    (review now soFar e).signals = [] := by
  rw [review]
  split
  · exact signals_complete silent _ _
  · split
    · dsimp only
      split
      · refine signals_complete ?_ _ _
        exact silent
      · exact silent
    · exact silent

end ExperimentSweep

namespace Engine

variable {engine : Engine} {now : Instant} {operation : Operation}

/-- What every step of a pass keeps the pass keeps. -/
theorem foldl_keeps {α β : Type} {P : β → Prop} {pass : β → α → β}
    (keeps : ∀ b a, P b → P (pass b a)) (items : List α) {b : β} (holds : P b) :
    P (items.foldl pass b) := by
  induction items generalizing b with
  | nil => exact holds
  | cons a rest ih => exact ih (keeps b a holds)

theorem signals_monitorExperiments (engine : Engine) (now : Instant) :
    (engine.monitorExperiments now).signals = [] := by
  have hstarted : ((engine.dueIds now).foldl (ExperimentSweep.startDue now)
      { engine, answer := {} }).signals = [] :=
    foldl_keeps (P := fun soFar : Outcome ExperimentSweep => soFar.signals = [])
      (fun _ id silent => ExperimentSweep.signals_startDue silent id) _ rfl
  rw [monitorExperiments]
  split
  · exact foldl_keeps (P := fun soFar : Outcome ExperimentSweep => soFar.signals = [])
      (fun _ e silent => ExperimentSweep.signals_review silent e) _ hstarted
  · rfl

theorem analytics_monitorExperiments (keyed : engine.Keyed) (now : Instant) :
    (engine.monitorExperiments now).engine.analytics = engine.analytics := by
  cases enabled : engine.config.experimentationEnabled with
  | true =>
    rw [engine_monitorExperiments keyed enabled]
    rfl
  | false => rw [engine_monitorExperiments_of_disabled enabled]

/-- When it succeeds, it reports nothing and leaves the analytics as they are. -/
def Quiet {α : Type} (engine : Engine) (attempt : Except Failure (Outcome α)) : Prop :=
  ∀ outcome, attempt = .ok outcome →
    outcome.signals = [] ∧ outcome.engine.analytics = engine.analytics

namespace Quiet

variable {α β : Type}

theorem ok {outcome : Outcome α} (signals : outcome.signals = [])
    (analytics : outcome.engine.analytics = engine.analytics) : Quiet engine (.ok outcome) := by
  intro _ h
  cases h
  exact ⟨signals, analytics⟩

theorem error (failure : Failure) : @Quiet α engine (.error failure) :=
  fun _ h => nomatch h

/-- A check or a look at a registry does not make any noise. -/
theorem bind {x : Except Failure β} {f : β → Except Failure (Outcome α)}
    (h : ∀ b, Quiet engine (f b)) : Quiet engine (x >>= f) := by
  intro outcome hbind
  obtain ⟨b, -, hf⟩ := bind_eq_ok.mp hbind
  exact h b outcome hf

theorem map {x : Except Failure (Outcome α)} (h : Quiet engine x) (f : α → β) :
    Quiet engine (x.map (·.map f)) := by
  intro outcome hmap
  obtain ⟨inner, hinner, rfl⟩ := map_eq_ok.mp hmap
  exact h inner hinner

theorem moveExperiment (id : String) (move : Move) :
    Quiet engine (engine.moveExperiment id move now) := by
  refine bind fun e => ?_
  split
  · exact ok rfl rfl
  · exact error _

theorem advanceRollout (id : String) : Quiet engine (engine.advanceRollout id now) := by
  refine bind fun rollout => ?_
  dsimp only
  split
  · exact ok rfl rfl
  · exact error _

end Quiet

/-- An operation that enters no account reports nothing, and leaves the analytics as they are, but
that totals are taken and old events are dropped. -/
theorem perform_of_not_isCounted (keyed : engine.Keyed) (uncounted : ¬ operation.IsCounted)
    {outcome : Outcome Answer} (h : engine.perform now operation = .ok outcome) :
    outcome.signals = [] ∧
      (outcome.engine.analytics = engine.analytics ∨
        operation = .processAnalytics ∧
          outcome.engine.analytics = engine.analytics.process now ∨
        operation = .cleanupAnalytics ∧
          outcome.engine.analytics = engine.analytics.cleanup now) := by
  have hquiet (quiet : Quiet engine (engine.perform now operation)) :
      outcome.signals = [] ∧
        (outcome.engine.analytics = engine.analytics ∨
          operation = .processAnalytics ∧
            outcome.engine.analytics = engine.analytics.process now ∨
          operation = .cleanupAnalytics ∧
            outcome.engine.analytics = engine.analytics.cleanup now) :=
    (quiet outcome h).imp_right .inl
  cases operation with
  | upsertFlag flag =>
    refine hquiet (.map (.bind fun _ => ?_) _)
    exact .ok rfl rfl
  | deleteFlag key =>
    refine hquiet (.map (.bind fun _ => ?_) _)
    exact .ok rfl rfl
  | createSegment segment =>
    refine hquiet (.map (.bind fun _ => .bind fun _ => ?_) _)
    exact .ok rfl rfl
  | deleteSegment id =>
    refine hquiet (.map (.bind fun _ => ?_) _)
    exact .ok rfl rfl
  | createExperiment e =>
    refine hquiet (.map (.bind fun _ => .bind fun _ => .bind fun _ => ?_) _)
    exact .ok rfl rfl
  | updateExperiment update =>
    refine hquiet (.map (.bind fun _ => .bind fun _ => ?_) _)
    exact .ok rfl rfl
  | scheduleExperiment id startTime => exact hquiet (.map (.moveExperiment id _) _)
  | startExperiment id => exact hquiet (.map (.moveExperiment id _) _)
  | pauseExperiment id => exact hquiet (.map (.moveExperiment id _) _)
  | resumeExperiment id => exact hquiet (.map (.moveExperiment id _) _)
  | stopExperiment id => exact hquiet (.map (.moveExperiment id _) _)
  | archiveExperiment id => exact hquiet (.map (.moveExperiment id _) _)
  | registerStrategy strategy =>
    refine hquiet (.map (.bind fun _ => ?_) _)
    exact .ok rfl rfl
  | advanceRollout id => exact hquiet (.map (.advanceRollout id) _)
  | pauseRollout id =>
    refine hquiet (.map (.bind fun _ => ?_) _)
    exact .ok rfl rfl
  | resumeRollout id =>
    refine hquiet (.map (.bind fun _ => ?_) _)
    exact .ok rfl rfl
  | rollBack id =>
    refine hquiet (.map (.bind fun _ => ?_) _)
    exact .ok rfl rfl
  | evaluate flagKey user default => exact absurd trivial uncounted
  | recordConversion experimentId variantId user kind value => exact absurd trivial uncounted
  | monitorExperiments =>
    have hanalytics := analytics_monitorExperiments keyed now
    exact hquiet (.ok (signals_monitorExperiments engine now) hanalytics)
  | monitorRollouts metrics => exact hquiet (.ok rfl rfl)
  | processAnalytics =>
    cases h
    exact ⟨rfl, .inr (.inl ⟨rfl, rfl⟩)⟩
  | cleanupAnalytics =>
    cases h
    exact ⟨rfl, .inr (.inr ⟨rfl, rfl⟩)⟩

/-- A conversion is recorded when the experiment has the variant. -/
theorem recordConversion_eq_ok {experimentId variantId user kind : String} {value : Float}
    {outcome : Outcome Unit}
    (h : engine.recordConversion experimentId variantId user kind value now = .ok outcome) :
    outcome.engine =
        engine.addConversion ⟨user, experimentId, variantId, kind, value, now⟩ ∧
      outcome.signals =
        .conversion experimentId variantId kind ::
          if value > 0.0 then [.conversionValue experimentId variantId kind value] else [] := by
  obtain ⟨experiment, -, hinner⟩ := bind_eq_ok.mp h
  dsimp only at hinner
  split at hinner
  · cases hinner
  · cases hinner
    exact ⟨rfl, rfl⟩

end Engine

namespace EventLog

/-- A log has some more events at its end. -/
structure Adds (before after : EventLog) (exposures : List Exposure)
    (evaluations : List Evaluation) (conversions : List Conversion) : Prop where
  exposures : after.exposures.toList = before.exposures.toList ++ exposures
  evaluations : after.evaluations.toList = before.evaluations.toList ++ evaluations
  conversions : after.conversions.toList = before.conversions.toList ++ conversions

theorem Adds.refl (log : EventLog) : log.Adds log [] [] [] :=
  ⟨(List.append_nil _).symm, (List.append_nil _).symm, (List.append_nil _).symm⟩

theorem Adds.trans {first second third : EventLog} {exposures exposures' : List Exposure}
    {evaluations evaluations' : List Evaluation} {conversions conversions' : List Conversion}
    (h : first.Adds second exposures evaluations conversions)
    (h' : second.Adds third exposures' evaluations' conversions') :
    first.Adds third (exposures ++ exposures') (evaluations ++ evaluations')
      (conversions ++ conversions') where
  exposures := by rw [h'.exposures, h.exposures, List.append_assoc]
  evaluations := by rw [h'.evaluations, h.evaluations, List.append_assoc]
  conversions := by rw [h'.conversions, h.conversions, List.append_assoc]

theorem Adds.exposure (log : EventLog) (x : Exposure) : log.Adds (log.addExposure x) [x] [] [] :=
  ⟨exposures_addExposure log x, (List.append_nil _).symm, (List.append_nil _).symm⟩

theorem Adds.evaluation (log : EventLog) (e : Evaluation) :
    log.Adds (log.addEvaluation e) [] [e] [] :=
  ⟨(List.append_nil _).symm, evaluations_addEvaluation log e, (List.append_nil _).symm⟩

theorem Adds.conversion (log : EventLog) (c : Conversion) :
    log.Adds (log.addConversion c) [] [] [c] :=
  ⟨(List.append_nil _).symm, (List.append_nil _).symm, conversions_addConversion log c⟩

end EventLog

namespace Analytics

/-- Nothing has ever been on record. -/
structure Unrecorded (a : Analytics) : Prop where
  log : a.log = .empty
  totals : ∃ time, a.totals = { lastUpdated := time }

theorem Unrecorded.process {a : Analytics} (unrecorded : a.Unrecorded) (now : Instant) :
    (a.process now).Unrecorded where
  log := unrecorded.log
  totals := ⟨some now, congrArg (EventLog.totals · now) unrecorded.log⟩

theorem Unrecorded.cleanup {a : Analytics} (unrecorded : a.Unrecorded) (now : Instant) :
    (a.cleanup now).Unrecorded := by
  rw [Analytics.cleanup]
  split
  · next cutoff _ =>
    have hafter : EventLog.empty.after cutoff = .empty := EventLog.ext_toList _ rfl rfl rfl
    exact ⟨(congrArg (EventLog.after · cutoff) unrecorded.log).trans hafter, unrecorded.totals⟩
  · exact unrecorded

end Analytics

/-! ## One operation -/

/-- What is reported of an exposure. -/
def Exposure.signals (x : Exposure) : List Signal := [.exposure x.experiment x.variant]

/-- What is reported of an evaluation. -/
def Evaluation.signals (e : Evaluation) : List Signal :=
  [.evaluation e.flag e.reason, .evaluationTime e.flag 0.0]

/-- What is reported of a conversion. -/
def Conversion.signals (c : Conversion) : List Signal :=
  .conversion c.experiment c.variant c.kind ::
    if c.value > 0.0 then [.conversionValue c.experiment c.variant c.kind c.value] else []

namespace Made

variable {m : Made} {flagKey label experimentId variantId : String}

/-- An operation that enters no account has no events. -/
theorem events_of_not_isCounted (quiet : ¬ m.operation.IsCounted) :
    m.exposure? = none ∧ m.evaluation? = none ∧ m.conversion? = none := by
  obtain ⟨engine, now, operation⟩ := m
  cases operation <;> first | exact ⟨rfl, rfl, rfl⟩ | exact absurd trivial quiet

/-- What an operation reports are its events. -/
theorem signals_eq (keyed : m.engine.Keyed) :
    m.signals =
      m.exposure?.toList.flatMap Exposure.signals ++
        (m.evaluation?.toList.flatMap Evaluation.signals ++
          m.conversion?.toList.flatMap Conversion.signals) := by
  by_cases counted : m.operation.IsCounted
  · obtain ⟨engine, now, operation⟩ := m
    cases operation with
    | evaluate flagKey user default =>
      have hconversion : (Made.mk engine now (.evaluate flagKey user default)).conversion? = none :=
        rfl
      rw [hconversion, signals, exposure?, evaluation?]
      dsimp only [Engine.perform, Engine.evaluate, Outcome.map, Engine.detail]
      cases engine.assignment? flagKey user <;> rfl
    | recordConversion experimentId variantId user kind value =>
      rw [signals, conversion?]
      dsimp only [exposure?, evaluation?]
      cases hperform : engine.perform now
          (.recordConversion experimentId variantId user kind value) with
      | error failure => rfl
      | ok outcome =>
        obtain ⟨inner, hinner, rfl⟩ := map_eq_ok.mp hperform
        obtain ⟨-, hsignals⟩ := Engine.recordConversion_eq_ok hinner
        simp only [Option.toList_none, List.flatMap_nil, List.nil_append, Option.toList_some,
          List.flatMap_singleton]
        exact hsignals
    | _ => cases counted
  · obtain ⟨hexposure, hevaluation, hconversion⟩ := events_of_not_isCounted counted
    rw [hexposure, hevaluation, hconversion, signals]
    split
    · next outcome hperform =>
      exact (Engine.perform_of_not_isCounted keyed counted hperform).1
    · rfl

/-- With analytics on, an operation puts its events on record, unless it is a cleanup. -/
theorem adds_step (keyed : m.engine.Keyed) (enabled : m.engine.config.analyticsEnabled = true)
    (kept : m.operation ≠ .cleanupAnalytics) :
    m.engine.analytics.log.Adds (m.engine.step m.now m.operation).analytics.log
      m.exposure?.toList m.evaluation?.toList m.conversion?.toList := by
  by_cases counted : m.operation.IsCounted
  · obtain ⟨engine, now, operation⟩ := m
    dsimp only at enabled
    cases operation with
    | evaluate flagKey user default =>
      have hstep : engine.step now (.evaluate flagKey user default) =
          (engine.evaluate flagKey user default now).engine := rfl
      rw [hstep, exposure?, evaluation?, conversion?]
      dsimp only [Engine.evaluate, Engine.detail]
      cases engine.assignment? flagKey user with
      | none =>
        simp only [Engine.recordEvaluation, enabled, if_true]
        exact .evaluation _ _
      | some assignment =>
        simp only [Engine.recordEvaluation, Engine.recordExposure, enabled, if_true]
        exact (EventLog.Adds.exposure _ _).trans (.evaluation _ _)
    | recordConversion experimentId variantId user kind value =>
      rw [conversion?, Engine.step]
      dsimp only [exposure?, evaluation?]
      cases hperform : engine.perform now
          (.recordConversion experimentId variantId user kind value) with
      | error failure => exact .refl _
      | ok outcome =>
        obtain ⟨inner, hinner, rfl⟩ := map_eq_ok.mp hperform
        obtain ⟨hengine, -⟩ := Engine.recordConversion_eq_ok hinner
        have hlog : inner.engine.analytics.log = _ :=
          congrArg (fun engine : Engine => engine.analytics.log) hengine
        simp only [Engine.addConversion, enabled, if_true] at hlog
        simp only [Outcome.map, hlog]
        exact .conversion _ _
    | _ => cases counted
  · obtain ⟨hexposure, hevaluation, hconversion⟩ := events_of_not_isCounted counted
    rw [hexposure, hevaluation, hconversion, Engine.step]
    split
    · next outcome hperform =>
      obtain ⟨-, hanalytics⟩ := Engine.perform_of_not_isCounted keyed counted hperform
      rcases hanalytics with hsame | ⟨-, htotals⟩ | ⟨hcleanup, -⟩
      · rw [hsame]
        exact .refl _
      · rw [htotals]
        exact .refl _
      · exact absurd hcleanup kept
    · exact .refl _

/-- With analytics off, nothing is put on record. -/
theorem unrecorded_step (keyed : m.engine.Keyed)
    (disabled : m.engine.config.analyticsEnabled = false)
    (unrecorded : m.engine.analytics.Unrecorded) :
    (m.engine.step m.now m.operation).analytics.Unrecorded := by
  by_cases counted : m.operation.IsCounted
  · obtain ⟨engine, now, operation⟩ := m
    dsimp only at disabled unrecorded
    cases operation with
    | evaluate flagKey user default =>
      have hstep : engine.step now (.evaluate flagKey user default) =
          (engine.evaluate flagKey user default now).engine := rfl
      rw [hstep]
      dsimp only [Engine.evaluate]
      cases engine.assignment? flagKey user <;>
        simpa only [Engine.recordEvaluation, Engine.recordExposure, disabled, Bool.false_eq_true,
          if_false] using unrecorded
    | recordConversion experimentId variantId user kind value =>
      rw [Engine.step]
      cases hperform : engine.perform now
          (.recordConversion experimentId variantId user kind value) with
      | error failure => exact unrecorded
      | ok outcome =>
        obtain ⟨inner, hinner, rfl⟩ := map_eq_ok.mp hperform
        obtain ⟨hengine, -⟩ := Engine.recordConversion_eq_ok hinner
        simp only [Engine.addConversion, disabled, Bool.false_eq_true, if_false] at hengine
        simpa only [Outcome.map, hengine] using unrecorded
    | _ => cases counted
  · rw [Engine.step]
    split
    · next outcome hperform =>
      obtain ⟨-, hanalytics⟩ := Engine.perform_of_not_isCounted keyed counted hperform
      rcases hanalytics with hsame | ⟨-, htotals⟩ | ⟨-, hcleanup⟩
      · rw [hsame]
        exact unrecorded
      · rw [htotals]
        exact unrecorded.process m.now
      · rw [hcleanup]
        exact unrecorded.cleanup m.now
    · exact unrecorded

end Made

/-! ## A run -/

namespace Outcome

/-- A run reports what its operations report, one after the other. -/
theorem signals_andThenAll (soFar : Outcome Unit) (operations : List (Instant × Operation)) :
    (soFar.andThenAll operations).signals =
      soFar.signals ++ (soFar.engine.made operations).flatMap Made.signals := by
  induction operations generalizing soFar with
  | nil => exact (List.append_nil _).symm
  | cons head rest ih =>
    have hstep : (soFar.andThen head.1 head.2).signals =
        soFar.signals ++ (Made.mk soFar.engine head.1 head.2).signals := by
      rw [andThen, Made.signals]
      dsimp only
      cases soFar.engine.perform head.1 head.2 with
      | ok outcome => rfl
      | error failure => exact (List.append_nil _).symm
    rw [andThenAll, List.foldl_cons, ← andThenAll, ih, hstep, engine_andThen, Engine.made,
      List.flatMap_cons, List.append_assoc]

end Outcome

namespace Engine

variable {engine : Engine} {operations : List (Instant × Operation)}

/-- Every operation of a run meets an engine with the same configuration, whose experiments are
registered under their ids. -/
theorem Keyed.made (keyed : engine.Keyed) :
    ∀ m ∈ engine.made operations, m.engine.Keyed ∧ m.engine.config = engine.config := by
  induction operations generalizing engine with
  | nil => exact fun _ hm => nomatch hm
  | cons head rest ih =>
    intro m hm
    rcases List.mem_cons.mp hm with rfl | hm
    · exact ⟨keyed, rfl⟩
    · obtain ⟨hkeyed, hconfig⟩ := ih (keyed.step head.1 head.2) m hm
      exact ⟨hkeyed, hconfig.trans (config_step keyed head.1 head.2)⟩

/-- With analytics on and no cleanup, a run puts the events of its operations on record, in their
order. -/
theorem Keyed.adds_run (keyed : engine.Keyed) (enabled : engine.config.analyticsEnabled = true)
    (kept : ∀ now, (now, Operation.cleanupAnalytics) ∉ operations) :
    engine.analytics.log.Adds (engine.run operations).analytics.log
      ((engine.made operations).filterMap Made.exposure?)
      ((engine.made operations).filterMap Made.evaluation?)
      ((engine.made operations).filterMap Made.conversion?) := by
  induction operations generalizing engine with
  | nil => exact .refl _
  | cons head rest ih =>
    obtain ⟨now, operation⟩ := head
    have hkept : operation ≠ .cleanupAnalytics := fun heq => kept now (heq ▸ List.mem_cons_self)
    have hstep := Made.adds_step (m := ⟨engine, now, operation⟩) keyed enabled hkept
    have henabled : (engine.step now operation).config.analyticsEnabled = true := by
      rw [config_step keyed, enabled]
    have hrest := ih (keyed.step now operation) henabled
      fun later hmem => kept later (List.mem_cons_of_mem _ hmem)
    have hcons : ∀ {α : Type} (event? : Made → Option α),
        ((⟨engine, now, operation⟩ : Made) :: (engine.step now operation).made rest).filterMap
            event? =
          (event? ⟨engine, now, operation⟩).toList ++
            ((engine.step now operation).made rest).filterMap event? := by
      intro α event?
      rw [List.filterMap_cons]
      cases event? ⟨engine, now, operation⟩ <;> rfl
    rw [run_cons, Engine.made, hcons, hcons, hcons]
    exact hstep.trans hrest

/-- With analytics off, a run puts nothing on record. -/
theorem Keyed.unrecorded_run (keyed : engine.Keyed)
    (disabled : engine.config.analyticsEnabled = false)
    (unrecorded : engine.analytics.Unrecorded) :
    (engine.run operations).analytics.Unrecorded := by
  induction operations generalizing engine with
  | nil => exact unrecorded
  | cons head rest ih =>
    have hdisabled : (engine.step head.1 head.2).config.analyticsEnabled = false := by
      rw [config_step keyed, disabled]
    exact ih (keyed.step head.1 head.2) hdisabled
      (Made.unrecorded_step (m := ⟨engine, head.1, head.2⟩) keyed disabled unrecorded)

end Engine

/-! ## Counts -/

namespace Signal

/-- The report is of a conversion of a variant. -/
def isConversionOf (experimentId variantId : String) : Signal → Bool
  | .conversion e v _ => e == experimentId && v == variantId
  | _ => false

/-- The value of a conversion, with its labels. -/
def conversionValue? : Signal → Option (String × String × String × Float)
  | .conversionValue experimentId variantId kind value =>
    some (experimentId, variantId, kind, value)
  | _ => none

end Signal

namespace Made

variable {m : Made} {flagKey label experimentId variantId kind : String}

/-- The value of the conversion that the operation records, with its labels, if it is positive. -/
def positiveValue? (m : Made) : Option (String × String × String × Float) :=
  m.conversion?.bind fun c =>
    if c.value > 0.0 then some (c.experiment, c.variant, c.kind, c.value) else none

theorem answers_eq :
    m.answers flagKey label =
      m.evaluation?.any fun e => e.flag == flagKey && e.reason == label := by
  obtain ⟨engine, now, operation⟩ := m
  cases operation <;> rfl

theorem assigns_eq :
    m.assigns experimentId variantId =
      m.exposure?.any fun x => x.experiment == experimentId && x.variant == variantId := by
  obtain ⟨engine, now, operation⟩ := m
  cases operation with
  | evaluate flagKey user default =>
    rw [assigns, exposure?]
    dsimp only
    cases engine.assignment? flagKey user <;> rfl
  | _ => rfl

/-- How often something is reported of an operation is how often it is of its events. -/
theorem countP_signals (keyed : m.engine.Keyed) (p : Signal → Bool) :
    m.signals.countP p =
      (m.exposure?.map (·.signals.countP p)).getD 0 +
        ((m.evaluation?.map (·.signals.countP p)).getD 0 +
          (m.conversion?.map (·.signals.countP p)).getD 0) := by
  have hoption : ∀ {α : Type} (event? : Option α) (signals : α → List Signal),
      (event?.toList.flatMap signals).countP p =
        (event?.map fun event => (signals event).countP p).getD 0 := by
    intro α event? signals
    cases event? with
    | none => rfl
    | some event =>
      simp only [Option.toList_some, List.flatMap_singleton, Option.map_some, Option.getD_some]
  rw [signals_eq keyed, List.countP_append, List.countP_append, hoption, hoption, hoption]

theorem converts_eq :
    m.converts experimentId variantId =
      m.conversion?.any fun c => c.experiment == experimentId && c.variant == variantId := rfl

theorem getD_map_zero {α : Type} (event? : Option α) : (event?.map fun _ => 0).getD 0 = 0 := by
  cases event? <;> rfl

theorem getD_map_ite {α : Type} (event? : Option α) (p : α → Bool) :
    (event?.map fun event => if p event then 1 else 0).getD 0 = if event?.any p then 1 else 0 := by
  cases event? <;> rfl

/-- The reason of an answer is reported once. -/
theorem countP_evaluation (keyed : m.engine.Keyed) :
    m.signals.countP (· == .evaluation flagKey label) =
      if m.answers flagKey label then 1 else 0 := by
  have hexposure : ∀ x : Exposure, x.signals.countP (· == .evaluation flagKey label) = 0 :=
    fun x => by simp [Exposure.signals]
  have hevaluation : ∀ e : Evaluation, e.signals.countP (· == .evaluation flagKey label) =
      if e.flag == flagKey && e.reason == label then 1 else 0 :=
    fun e => by simp [Evaluation.signals, List.countP_cons]
  have hconversion : ∀ c : Conversion, c.signals.countP (· == .evaluation flagKey label) = 0 :=
    fun c => by rw [Conversion.signals]; split <;> simp
  simp only [countP_signals keyed, hexposure, hevaluation, hconversion, getD_map_zero,
    getD_map_ite, answers_eq, Nat.zero_add, Nat.add_zero]

/-- An assigned variant is reported once. -/
theorem countP_exposure (keyed : m.engine.Keyed) :
    m.signals.countP (· == .exposure experimentId variantId) =
      if m.assigns experimentId variantId then 1 else 0 := by
  have hexposure : ∀ x : Exposure, x.signals.countP (· == .exposure experimentId variantId) =
      if x.experiment == experimentId && x.variant == variantId then 1 else 0 :=
    fun x => by simp [Exposure.signals, List.countP_cons]
  have hevaluation : ∀ e : Evaluation,
      e.signals.countP (· == .exposure experimentId variantId) = 0 :=
    fun e => by simp [Evaluation.signals]
  have hconversion : ∀ c : Conversion,
      c.signals.countP (· == .exposure experimentId variantId) = 0 :=
    fun c => by rw [Conversion.signals]; split <;> simp
  simp only [countP_signals keyed, hexposure, hevaluation, hconversion, getD_map_zero,
    getD_map_ite, assigns_eq, Nat.add_zero]

/-- A conversion that is not refused is reported once, of whatever kind it is. -/
theorem countP_conversion (keyed : m.engine.Keyed) :
    m.signals.countP (·.isConversionOf experimentId variantId) =
      if m.converts experimentId variantId then 1 else 0 := by
  have hexposure : ∀ x : Exposure,
      x.signals.countP (·.isConversionOf experimentId variantId) = 0 := fun _ => rfl
  have hevaluation : ∀ e : Evaluation,
      e.signals.countP (·.isConversionOf experimentId variantId) = 0 := fun _ => rfl
  have hconversion : ∀ c : Conversion,
      c.signals.countP (·.isConversionOf experimentId variantId) =
        if c.experiment == experimentId && c.variant == variantId then 1 else 0 :=
    fun c => by
      rw [Conversion.signals]
      split <;> simp [List.countP_cons, Signal.isConversionOf]
  rw [converts_eq, countP_signals keyed]
  simp only [hexposure, hevaluation, hconversion, getD_map_zero, getD_map_ite, Nat.zero_add]

/-- The value of a conversion is reported when it is positive. -/
theorem filterMap_conversionValue? (keyed : m.engine.Keyed) :
    m.signals.filterMap Signal.conversionValue? = m.positiveValue?.toList := by
  rw [signals_eq keyed, positiveValue?, List.filterMap_append, List.filterMap_append]
  have hexposure : (m.exposure?.toList.flatMap Exposure.signals).filterMap
      Signal.conversionValue? = [] := by
    cases m.exposure? <;> rfl
  have hevaluation : (m.evaluation?.toList.flatMap Evaluation.signals).filterMap
      Signal.conversionValue? = [] := by
    cases m.evaluation? <;> rfl
  rw [hexposure, hevaluation, List.nil_append, List.nil_append]
  cases m.conversion? with
  | none => rfl
  | some c =>
    rw [Option.toList_some, List.flatMap_singleton, Conversion.signals, Option.bind_some]
    split <;> rfl

/-- What is reported once by each of some operations is reported as often as there are such. -/
theorem countP_flatMap_signals {p : Signal → Bool} {q : Made → Bool} {made : List Made}
    (each : ∀ m ∈ made, m.signals.countP p = if q m then 1 else 0) :
    (made.flatMap signals).countP p = made.countP q := by
  induction made with
  | nil => rfl
  | cons m rest ih =>
    rw [List.flatMap_cons, List.countP_append, each m List.mem_cons_self, List.countP_cons,
      ih fun m hm => each m (List.mem_cons_of_mem _ hm), Nat.add_comm]

/-- What is seen in the events of some operations is seen as often as there are such operations. -/
theorem countP_filterMap {α : Type} (event? : Made → Option α) (p : α → Bool) (made : List Made) :
    (made.filterMap event?).countP p = made.countP fun m => (event? m).any p := by
  rw [List.countP_filterMap]
  refine List.countP_congr fun m _ => ?_
  cases event? m <;> rfl

end Made

/-! ## The accounts -/

/-- Reports to the metrics agree with the operations that are made. -/
structure MetersAgree (signals : List Signal) (made : List Made) : Prop where
  evaluations : ∀ flagKey label, signals.count (.evaluation flagKey label) =
    made.countP (·.answers flagKey label)
  exposures : ∀ experimentId variantId, signals.count (.exposure experimentId variantId) =
    made.countP (·.assigns experimentId variantId)
  conversions : ∀ experimentId variantId,
    signals.countP (·.isConversionOf experimentId variantId) =
      made.countP (·.converts experimentId variantId)
  /-- the values come in the order in which the conversions were recorded -/
  values : signals.filterMap Signal.conversionValue? = made.filterMap Made.positiveValue?

/-- What is on record agrees with the operations that are made. -/
structure RecordsAgree (log : EventLog) (made : List Made) : Prop where
  evaluations : ∀ flagKey label, (log.evaluationsOf flagKey).countP (·.reason == label) =
    made.countP (·.answers flagKey label)
  exposures : ∀ experimentId variantId,
    (((log.experimentReport experimentId).variants.get? variantId).map (·.exposures)).getD 0 =
      made.countP (·.assigns experimentId variantId)
  conversions : ∀ experimentId variantId,
    (((log.experimentReport experimentId).variants.get? variantId).map (·.conversions)).getD 0 =
      made.countP (·.converts experimentId variantId)

/-- All reports are empty. -/
structure Analytics.ReportsNothing (a : Analytics) : Prop where
  experiments : ∀ experiment, a.log.experimentReport experiment =
    { experimentId := experiment, totalExposures := 0, totalConversions := 0
      overallConversionRate := 0.0, variants := .empty, timeline := [] }
  flags : ∀ flag, a.log.flagReport flag =
    { flagKey := flag, totalEvaluations := 0, uniqueUsers := 0, defaultEvaluations := 0
      distribution := .empty }
  samples : ∀ experiment, a.log.samples experiment = .empty
  totals : ∃ time, a.totals = { lastUpdated := time }
  process : ∀ now, (a.process now).totals = { lastUpdated := some now }

theorem Analytics.Unrecorded.reportsNothing {a : Analytics} (unrecorded : a.Unrecorded) :
    a.ReportsNothing where
  experiments experiment := congrArg (EventLog.experimentReport · experiment) unrecorded.log
  flags flag := congrArg (EventLog.flagReport · flag) unrecorded.log
  samples experiment := congrArg (EventLog.samples · experiment) unrecorded.log
  totals := unrecorded.totals
  process now := congrArg (EventLog.totals · now) unrecorded.log

namespace Engine

variable {engine : Engine} {operations : List (Instant × Operation)}

theorem Keyed.metersAgree (keyed : engine.Keyed) :
    MetersAgree ((engine.made operations).flatMap Made.signals) (engine.made operations) where
  evaluations _ _ := Made.countP_flatMap_signals fun m hm =>
    Made.countP_evaluation (keyed.made m hm).1
  exposures _ _ := Made.countP_flatMap_signals fun m hm =>
    Made.countP_exposure (keyed.made m hm).1
  conversions _ _ := Made.countP_flatMap_signals fun m hm =>
    Made.countP_conversion (keyed.made m hm).1
  values := by
    rw [List.filterMap_flatMap, List.filterMap_eq_flatMap_toList]
    exact List.flatMap_congr fun m hm => Made.filterMap_conversionValue? (keyed.made m hm).1

theorem Keyed.recordsAgree (keyed : engine.Keyed) (enabled : engine.config.analyticsEnabled = true)
    (unrecorded : engine.analytics.log = .empty)
    (kept : ∀ now, (now, Operation.cleanupAnalytics) ∉ operations) :
    RecordsAgree (engine.run operations).analytics.log (engine.made operations) := by
  obtain ⟨hexposures, hevaluations, hconversions⟩ := keyed.adds_run enabled kept
  rw [unrecorded] at hexposures hevaluations hconversions
  refine ⟨fun flagKey label => ?_, fun e v => ?_, fun e v => ?_⟩
  · rw [EventLog.evaluationsOf, hevaluations, List.countP_filter]
    simp only [Made.answers_eq, ← Made.countP_filterMap, Bool.and_comm]
    rfl
  · rw [EventLog.exposures_variants, EventLog.exposuresOf, hexposures, List.countP_filter]
    simp only [Made.assigns_eq, ← Made.countP_filterMap, Bool.and_comm]
    rfl
  · rw [EventLog.conversions_variants, EventLog.conversionsOf, hconversions, List.countP_filter]
    simp only [Made.converts_eq, ← Made.countP_filterMap, Bool.and_comm]
    rfl

end Engine

end FeatureTrials
