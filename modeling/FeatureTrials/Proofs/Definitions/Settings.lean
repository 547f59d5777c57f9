import FeatureTrials.Config
import FeatureTrials.Proofs.Definitions.Records

/-!
# Reading undoes writing for all definitions

Strategies and settings are reread like the other records; their defaults are ready-made, so these
have to be read back as well (`Strategy.reads_defaults`, `Segment.reads_defaults`).

* `definitions_reread` — what is read as a user, a rule, a segment, a flag, an experiment, a
  strategy or as settings is written as JSON that is read as the same thing, whatever the clock
  says.
-/

namespace FeatureTrials

open Json (Rereads)

/-- The numbers in defaults are written as numbers. -/
theorem ofFloat_of_mem_literals :
    ∀ x ∈ [0.95, 1.0, 5.0, 10.0, 25.0, 75.0, 100.0, 2000.0], Json.ofFloat x = .float x := by
  have finite : [0.95, 1.0, 5.0, 10.0, 25.0, 75.0, 100.0, 2000.0].all Float.isFinite = true := by
    decide +kernel
  intro x hx
  exact if_pos (List.all_eq_true.mp finite x hx)

/-! ## Strategies -/

theorem Stage.rereads : Rereads ofJson? ofJson? toJson := by
  refine .of_null rfl ?_
  intro j stage proper hread
  simp only [ofJson?, ↓Json.do_eq_some_iff] at hread ⊢
  obtain ⟨fields, hfields, id, hid, name, hname, percentage, hpercentage, duration, hduration,
    successCriteria, hsuccessCriteria, failureCriteria, hfailureCriteria, autoAdvance,
    hautoAdvance, heq⟩ := hread
  obtain rfl := Json.fields?_eq_some hfields
  cases heq
  have distinct :
      ["id", "name", "percentage", "duration", "success_criteria", "failure_criteria",
        "auto_advance"].Nodup := by
    decide
  exact ⟨_, rfl,
    _, Rereads.text.required proper.fields distinct hid (by simp),
    _, Rereads.text.orElse proper.fields distinct hname (by simp) rfl,
    _, Rereads.number.required proper.fields distinct hpercentage (by simp),
    _, Span.rereads.orElse proper.fields distinct hduration (by simp) rfl,
    _, Rereads.texts.orElse proper.fields distinct hsuccessCriteria (by simp) rfl,
    _, Rereads.texts.orElse proper.fields distinct hfailureCriteria (by simp) rfl,
    _, Rereads.bool.orElse proper.fields distinct hautoAdvance (by simp) rfl, rfl⟩

theorem SafetyCheck.rereads : Rereads ofJson? ofJson? toJson := by
  refine .of_null rfl ?_
  intro j check proper hread
  simp only [ofJson?, ↓Json.do_eq_some_iff] at hread ⊢
  obtain ⟨fields, hfields, kind, hkind, metric, hmetric, threshold, hthreshold, operator,
    hoperator, window, hwindow, action, haction, heq⟩ := hread
  obtain rfl := Json.fields?_eq_some hfields
  cases heq
  have distinct :
      ["type", "metric", "threshold", "operator", "window", "action"].Nodup := by
    decide
  exact ⟨_, rfl,
    _, Rereads.text.orElse proper.fields distinct hkind (by simp) rfl,
    _, Rereads.text.required proper.fields distinct hmetric (by simp),
    _, Rereads.number.required proper.fields distinct hthreshold (by simp),
    _, (Rereads.word Comparison.ofName?_name).required proper.fields distinct hoperator (by simp),
    _, Span.rereads.orElse proper.fields distinct hwindow (by simp) rfl,
    _, (Rereads.word SafetyAction.ofName?_name).required proper.fields distinct haction
      (by simp), rfl⟩

theorem RollbackPolicy.rereads : Rereads ofJson? ofJson? toJson := by
  refine .of_null rfl ?_
  intro j policy proper hread
  simp only [ofJson?, ↓Json.do_eq_some_iff] at hread ⊢
  obtain ⟨fields, hfields, kind, hkind, automatic, hautomatic, triggers, htriggers, heq⟩ := hread
  obtain rfl := Json.fields?_eq_some hfields
  cases heq
  have distinct : ["type", "automatic", "triggers"].Nodup := by decide
  exact ⟨_, rfl,
    _, Rereads.text.orElse proper.fields distinct hkind (by simp) rfl,
    _, Rereads.bool.orElse proper.fields distinct hautomatic (by simp) rfl,
    _, Rereads.texts.orElse proper.fields distinct htriggers (by simp) rfl, rfl⟩

namespace Strategy

theorem rereads : Rereads ofJson? ofJson? toJson := by
  refine .of_null rfl ?_
  intro j strategy proper hread
  simp only [ofJson?, ↓Json.do_eq_some_iff] at hread ⊢
  obtain ⟨fields, hfields, id, hid, name, hname, kind, hkind, config, hconfig, stages, hstages,
    safetyChecks, hsafetyChecks, rollback, hrollback, heq⟩ := hread
  obtain rfl := Json.fields?_eq_some hfields
  cases heq
  have distinct :
      ["id", "name", "type", "config", "stages", "safety_checks", "rollback_strategy"].Nodup := by
    decide
  exact ⟨_, rfl,
    _, Rereads.text.required proper.fields distinct hid (by simp),
    _, Rereads.text.orElse proper.fields distinct hname (by simp) rfl,
    _, (Rereads.word RolloutKind.ofName?_name).required proper.fields distinct hkind (by simp),
    _, Rereads.canonical.table.orElse proper.fields distinct hconfig (by simp) rfl,
    _, Stage.rereads.list.required proper.fields distinct hstages (by simp),
    _, SafetyCheck.rereads.list.orElse proper.fields distinct hsafetyChecks (by simp) rfl,
    _, RollbackPolicy.rereads.orElse proper.fields distinct hrollback (by simp) rfl, rfl⟩

/-- The ready-made strategies are read as they are written. -/
theorem reads_defaults : Json.list? ofJson? (.ofList toJson defaults) = some defaults := by
  have h1 := ofFloat_of_mem_literals 1.0 (by simp)
  have h5 := ofFloat_of_mem_literals 5.0 (by simp)
  have h25 := ofFloat_of_mem_literals 25.0 (by simp)
  have h75 := ofFloat_of_mem_literals 75.0 (by simp)
  have h100 := ofFloat_of_mem_literals 100.0 (by simp)
  have h2000 := ofFloat_of_mem_literals 2000.0 (by simp)
  simp only [Json.ofList, defaults, gradual, canary, rings, List.map, toJson, SafetyCheck.toJson,
    Stage.toJson, titled, Stage.named, h1, h5, h25, h75, h100, h2000]
  rfl

end Strategy

/-! ## Settings -/

/-- The segments an engine starts with are read as they are written, at any time. -/
theorem Segment.reads_defaults {now : Instant} (told : now.told? = some now) (later : Instant) :
    Json.list? (ofJson? later) (.ofList toJson (defaults now)) = some (defaults now) := by
  -- all fields are written out, so that the clock is not asked again
  have hnow := Instant.ofJson?_toJson told
  refine Json.list?_ofList ?_
  intro segment hsegment
  simp only [ofJson?, ↓Json.do_eq_some_iff]
  simp only [defaults, List.mem_cons, List.not_mem_nil, or_false] at hsegment
  rcases hsegment with rfl | rfl | rfl
  all_goals
    exact ⟨_, rfl, _, rfl, _, rfl, _, rfl, _, rfl, _, rfl, _, hnow, _, hnow, rfl⟩

namespace ExperimentDefaults

theorem reads_trafficPercent : Json.number? (.ofFloat 10.0) = some 10.0 := by
  rw [ofFloat_of_mem_literals 10.0 (by simp), Json.number?]

theorem reads_duration : Span.ofJson? (Span.ofDays 7).toJson = some (.ofDays 7) :=
  Span.ofJson?_ofSeconds (by decide)

theorem reads_standard : ofJson? (toJson {}) = some {} := by
  simp only [ofJson?, ↓Json.do_eq_some_iff]
  exact ⟨_, rfl, _, reads_duration, _, reads_trafficPercent, rfl⟩

theorem rereads : Rereads ofJson? ofJson? toJson := by
  refine .of_null rfl ?_
  intro j defaults proper hread
  simp only [ofJson?, ↓Json.do_eq_some_iff] at hread ⊢
  obtain ⟨fields, hfields, duration, hduration, trafficPercent, htrafficPercent, heq⟩ := hread
  obtain rfl := Json.fields?_eq_some hfields
  cases heq
  have distinct : ["duration", "traffic_percent"].Nodup := by decide
  exact ⟨_, rfl,
    _, Span.rereads.orElse proper.fields distinct hduration (by simp) reads_duration,
    _, Rereads.number.orElse proper.fields distinct htrafficPercent
      (by simp) reads_trafficPercent, rfl⟩

end ExperimentDefaults

namespace Intervals

/-- The standard interval of every job is read as it is written. -/
theorem reads_interval (job : JobName) :
    Span.ofJson? (Span.toJson (Intervals.of {} job)) = some (Intervals.of {} job) := by
  cases job <;> exact Span.ofJson?_ofSeconds (by decide)

theorem reads_standard : ofJson? (toJson {}) = some {} := by
  simp only [ofJson?, ↓Json.do_eq_some_iff]
  exact ⟨_, rfl, _, reads_interval .experimentMonitor, _, reads_interval .analyticsProcessing,
    _, reads_interval .rolloutMonitor, _, reads_interval .dataCleanup, rfl⟩

theorem rereads : Rereads ofJson? ofJson? toJson := by
  refine .of_null rfl ?_
  intro j intervals proper hread
  simp only [ofJson?, ↓Json.do_eq_some_iff] at hread ⊢
  obtain ⟨fields, hfields, experiments, hexperiments, analytics, hanalytics, rollouts, hrollouts,
    cleanup, hcleanup, heq⟩ := hread
  obtain rfl := Json.fields?_eq_some hfields
  cases heq
  have distinct :
      ["experiment_monitor", "analytics_processing", "rollout_monitor", "data_cleanup"].Nodup := by
    decide
  exact ⟨_, rfl,
    _, Span.rereads.orElse proper.fields distinct hexperiments
      (by simp) (reads_interval .experimentMonitor),
    _, Span.rereads.orElse proper.fields distinct hanalytics
      (by simp) (reads_interval .analyticsProcessing),
    _, Span.rereads.orElse proper.fields distinct hrollouts
      (by simp) (reads_interval .rolloutMonitor),
    _, Span.rereads.orElse proper.fields distinct hcleanup
      (by simp) (reads_interval .dataCleanup), rfl⟩

end Intervals

/-- Settings are reread at any time as long as the clock reading their segments may have been
created at can be told. -/
theorem Config.rereads {now : Instant} (told : now.told? = some now) (later : Instant) :
    Rereads (ofJson? now) (ofJson? later) toJson := by
  refine .of_null rfl ?_
  intro j config proper hread
  simp only [ofJson?, ↓Json.do_eq_some_iff] at hread ⊢
  obtain ⟨fields, hfields, experimentation, hexperimentation, segmentation, hsegmentation,
    analytics, hanalytics, significance, hsignificance, minSampleSize, hminSampleSize,
    retention, hretention, experiments, hexperiments, strategy, hstrategy, strategies,
    hstrategies, segments, hsegments, intervals, hintervals, heq⟩ := hread
  obtain rfl := Json.fields?_eq_some hfields
  cases heq
  have distinct :
      ["experimentation_enabled", "segmentation_enabled", "analytics_enabled",
        "statistical_significance", "min_sample_size", "analytics_retention",
        "experiment_defaults", "default_rollout_strategy", "rollout_strategies",
        "default_segments", "intervals"].Nodup := by
    decide
  have hlevel : Json.number? (.ofFloat 0.95) = some 0.95 := by
    rw [ofFloat_of_mem_literals 0.95 (by simp), Json.number?]
  have hsize : Json.nat? (.ofNat 1000) = some 1000 := Json.nat?_ofNat (by decide)
  have hmonth : Span.ofJson? (Span.ofDays 30).toJson = some (.ofDays 30) :=
    Span.ofJson?_ofSeconds (by decide)
  exact ⟨_, rfl,
    _, Rereads.bool.orElse proper.fields distinct hexperimentation (by simp) rfl,
    _, Rereads.bool.orElse proper.fields distinct hsegmentation (by simp) rfl,
    _, Rereads.bool.orElse proper.fields distinct hanalytics (by simp) rfl,
    _, Rereads.number.orElse proper.fields distinct hsignificance (by simp) hlevel,
    _, Rereads.nat.orElse proper.fields distinct hminSampleSize (by simp) hsize,
    _, Span.rereads.orElse proper.fields distinct hretention (by simp) hmonth,
    _, ExperimentDefaults.rereads.orElse proper.fields distinct hexperiments
      (by simp) ExperimentDefaults.reads_standard,
    _, Rereads.text.nullable proper.fields distinct hstrategy (by simp),
    _, Strategy.rereads.list.orElse proper.fields distinct hstrategies
      (by simp) Strategy.reads_defaults,
    _, (Segment.rereads told later).list.orElse proper.fields distinct hsegments
      (by simp) (Segment.reads_defaults told later),
    _, Intervals.rereads.orElse proper.fields distinct hintervals
      (by simp) Intervals.reads_standard, rfl⟩

/-! ## All definitions -/

/-- **Reading undoes writing.** The whole format of definitions is reread: what is read from a JSON
value, at a time that can be told, is written as JSON that is read as exactly the same thing at any
other time. -/
theorem definitions_reread {j : Json} (proper : j.IsProper) {now : Instant}
    (told : now.told? = some now) (later : Instant) :
    (∀ user, User.ofJson? j = some user → User.ofJson? user.toJson = some user) ∧
    (∀ rule, Rule.ofJson? j = some rule → Rule.ofJson? rule.toJson = some rule) ∧
    (∀ segment, Segment.ofJson? now j = some segment →
      Segment.ofJson? later segment.toJson = some segment) ∧
    (∀ flag, Flag.ofJson? j = some flag → Flag.ofJson? flag.toJson = some flag) ∧
    (∀ experiment, Experiment.ofJson? j = some experiment →
      Experiment.ofJson? experiment.toJson = some experiment) ∧
    (∀ strategy, Strategy.ofJson? j = some strategy →
      Strategy.ofJson? strategy.toJson = some strategy) ∧
    (∀ config, Config.ofJson? now j = some config →
      Config.ofJson? later config.toJson = some config) :=
  ⟨fun _ => User.rereads.reread proper, fun _ => Rule.rereads.reread proper,
    fun _ => (Segment.rereads told later).reread proper, fun _ => Flag.rereads.reread proper,
    fun _ => Experiment.rereads.reread proper, fun _ => Strategy.rereads.reread proper,
    fun _ => (Config.rereads told later).reread proper⟩

/-- A segment as somebody may write it: signs and names of operators, fields in any order, a field
nobody asks for, a leap second in a time that is not UTC, and no time of the last change. -/
def earlyBirds : Json :=
  .obj [("id", .str "early_birds"),
    ("name", .str "Early birds"),
    ("rules", .arr
      [.obj [("attribute", .str "plan"), ("operator", .str "in"),
        ("value", .arr [.int 1, .arr [.str "pro", .null]]), ("type", .null)],
      .obj [("operator", .str ">="), ("attribute", .str "age"), ("value", .int 18),
        ("type", .obj [("number", .null)])]]),
    ("priority", .float 0.5),
    ("created_at", .str "2017-01-01T01:59:60.25+02:00")]

theorem definitions_reread_earlyBirds :
    ∃ segment, Segment.ofJson? (.ofNanos 0) earlyBirds = some segment ∧
      Segment.ofJson? (.ofNanos 5) segment.toJson = some segment := by
  have proper : earlyBirds.IsProper := by
    have hhalf : Json.IsProper (.float 0.5) := .float (by decide +kernel)
    simp [earlyBirds, hhalf, Json.IsSigned]
  have told : (Instant.ofNanos 0).told? = some (Instant.ofNanos 0) := by decide
  have hread : (Segment.ofJson? (.ofNanos 0) earlyBirds).isSome = true := by decide +kernel
  obtain ⟨segment, hsegment⟩ := Option.isSome_iff_exists.mp hread
  have hreread := (definitions_reread proper told (.ofNanos 5)).2.2.1 segment hsegment
  exact ⟨segment, hsegment, hreread⟩

end FeatureTrials
