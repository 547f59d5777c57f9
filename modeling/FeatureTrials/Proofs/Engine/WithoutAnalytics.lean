import FeatureTrials.Proofs.Engine.Accounts
import FeatureTrials.Proofs.Engine.ExperimentSweep

/-!
# Two engines, one without analytics

Engines that differ in their analytics and in the results of their experiments alone (`Twins`)
report the same to the metrics, refuse the same operations, and an operation leaves such engines
again. There is one exception: a sweep stops an experiment whose results are clear, and results are
made from the analytics. So a run reports the same with and without analytics as long as no sweep
finds clear results (`Twins.signals_made`).

Together with the accounts of a single run this is `Engine.accounts_agree`.
-/

namespace FeatureTrials

namespace Experiment

/-- The experiment without its results. -/
def withoutResults (e : Experiment) : Experiment := { e with results := none }

theorem exists_results_of_withoutResults {e e' : Experiment}
    (h : e'.withoutResults = e.withoutResults) : ∃ results, e' = { e with results } := by
  obtain ⟨⟩ := e
  obtain ⟨⟩ := e'
  simp only [withoutResults, mk.injEq, and_true] at h
  obtain ⟨rfl, rfl, rfl, rfl, rfl, rfl, rfl, rfl, rfl, rfl, rfl, rfl, rfl, rfl, rfl, rfl, rfl,
    rfl⟩ := h
  exact ⟨_, rfl⟩

theorem withoutResults_with (e : Experiment) (results : Option Results) :
    { e with results }.withoutResults = e.withoutResults := rfl

/-- A move makes the same of an experiment but for the results. -/
theorem withoutResults_moved (e : Experiment) (results : Option Results) (move : Move)
    (compare compare' : Experiment → Results) (now : Instant) :
    ({ e with results }.moved move compare' now).withoutResults =
      (e.moved move compare now).withoutResults := by
  cases move <;> rfl

/-- A change of the definition makes the same of an experiment but for the results. -/
theorem withoutResults_updated (e : Experiment) (results : Option Results) (update : Experiment) :
    ({ e with results }.updated update).map withoutResults =
      (e.updated update).map withoutResults := by
  have hfrozen : frozenDifference? { e with results } update = frozenDifference? e update := rfl
  rw [updated, updated, hfrozen]
  cases hstatus : e.status
  case running | paused => cases e.frozenDifference? update <;> rfl
  all_goals rfl

/-- Without users nothing is significant. -/
theorem significant_compare_empty (e : Experiment) (level : Float) (minSampleSize : Nat)
    (now : Instant) : (e.compare .empty level minSampleSize now).significant = false := by
  have hsample : ∀ v : Variant, sampleOf .empty v = {} := fun _ => rfl
  have htest : Significance.twoProportionTest (· + ·) {} {} = none := rfl
  rw [compare, compareBy]
  dsimp only
  split
  · rfl
  · split
    · rfl
    · rw [hsample, hsample, htest, judge]
      dsimp only
      split <;> rfl

end Experiment

open Experiment (withoutResults exists_results_of_withoutResults)

/-- Engines that differ in their analytics and in the results of experiments alone. -/
structure Twins (a b : Engine) : Prop where
  config : ∃ enabled, b.config = { a.config with analyticsEnabled := enabled }
  flags : b.flags = a.flags
  segments : b.segments = a.segments
  rollouts : b.rollouts = a.rollouts
  experiments : b.experiments.map (fun _ => withoutResults) =
    a.experiments.map fun _ => withoutResults

/-- What becomes of an operation on twins: both are refused, or twins are left and the same is
reported. -/
inductive BecomesTwins {α : Type} :
    Except Failure (Outcome α) → Except Failure (Outcome α) → Prop
  | refused (failure failure' : Failure) : BecomesTwins (.error failure) (.error failure')
  | done {outcome outcome' : Outcome α} (signals : outcome'.signals = outcome.signals)
      (twins : Twins outcome.engine outcome'.engine) : BecomesTwins (.ok outcome) (.ok outcome')

theorem BecomesTwins.map {α β : Type} {r r' : Except Failure (Outcome α)} (f : α → β)
    (h : BecomesTwins r r') : BecomesTwins (r.map (·.map f)) (r'.map (·.map f)) := by
  cases h with
  | refused failure failure' => exact .refused failure failure'
  | done signals twins => exact .done signals twins

/-- What is checked first, without a look at experiments, is checked alike. -/
theorem BecomesTwins.bind {α β : Type} (checked : Except Failure β)
    {r r' : β → Except Failure (Outcome α)} (h : ∀ b, BecomesTwins (r b) (r' b)) :
    BecomesTwins (checked >>= r) (checked >>= r') := by
  cases checked with
  | error failure => exact .refused failure failure
  | ok b => exact h b

namespace Twins

variable {a b : Engine}

theorem refl (a : Engine) : Twins a a := ⟨⟨a.config.analyticsEnabled, rfl⟩, rfl, rfl, rfl, rfl⟩

theorem get? (twins : Twins a b) (id : String) :
    (b.experiments.get? id).map withoutResults = (a.experiments.get? id).map withoutResults := by
  rw [← Table.get?_map (fun _ => withoutResults), twins.experiments, Table.get?_map]

/-- Twins have the same experiments but for the results. -/
theorem cases_get? (twins : Twins a b) (id : String) :
    a.experiments.get? id = none ∧ b.experiments.get? id = none ∨
      ∃ e results, a.experiments.get? id = some e ∧
        b.experiments.get? id = some { e with results } := by
  have h := twins.get? id
  cases hb : b.experiments.get? id with
  | none =>
    rw [hb, Option.map_none, eq_comm, Option.map_eq_none_iff] at h
    exact .inl ⟨h, rfl⟩
  | some e' =>
    rw [hb, Option.map_some, eq_comm, Option.map_eq_some_iff] at h
    obtain ⟨e, he, hsame⟩ := h
    obtain ⟨results, rfl⟩ := exists_results_of_withoutResults hsame.symm
    exact .inr ⟨e, results, he, rfl⟩

/-- Twins stay twins when both are given the same experiment but for the results. -/
theorem insert (twins : Twins a b) (id : String) {e e' : Experiment}
    (h : e'.withoutResults = e.withoutResults) :
    Twins { a with experiments := a.experiments.insert id e }
      { b with experiments := b.experiments.insert id e' } := by
  refine { twins with experiments := Table.ext_get? fun other => ?_ }
  rw [Table.get?_map, Table.get?_map, Table.get?_insert, Table.get?_insert]
  split
  · exact congrArg some h
  · exact twins.get? other

/-- The running experiment bound to a flag is the same but for the results. -/
theorem experimentFor? (twins : Twins a b) (flagKey : String) :
    (b.experimentFor? flagKey).map withoutResults =
      (a.experimentFor? flagKey).map withoutResults := by
  have hvalues : ∀ engine : Engine, (engine.experimentFor? flagKey).map withoutResults =
      ((engine.experiments.map fun _ => withoutResults).values.find?
        fun e => e.isRunning && e.affectsFlag flagKey) := by
    intro engine
    rw [Table.values_map, List.find?_map]
    rfl
  rw [hvalues, hvalues, twins.experiments]

theorem assignment? (twins : Twins a b) (flagKey : String) (user : User) :
    b.assignment? flagKey user = a.assignment? flagKey user := by
  obtain ⟨enabled, hconfig⟩ := twins.config
  rw [Engine.assignment?, Engine.assignment?, hconfig, twins.segments]
  dsimp only
  split
  · have h := twins.experimentFor? flagKey
    cases hb : b.experimentFor? flagKey with
    | none =>
      rw [hb, Option.map_none, eq_comm, Option.map_eq_none_iff] at h
      rw [h]
    | some e' =>
      rw [hb, Option.map_some, eq_comm, Option.map_eq_some_iff] at h
      obtain ⟨e, he, hsame⟩ := h
      obtain ⟨results, rfl⟩ := exists_results_of_withoutResults hsame.symm
      rw [he]
      rfl
  · rfl

theorem detailOf (twins : Twins a b) (assignment : Option Assignment) (flagKey : String)
    (user : User) (default : FlagValue) (now : Instant) :
    b.detailOf assignment flagKey user default now =
      a.detailOf assignment flagKey user default now := by
  obtain ⟨enabled, hconfig⟩ := twins.config
  have hgate : ∀ flag, b.gate flag user now = a.gate flag user now := by
    intro flag
    rw [Engine.gate, Engine.gate, hconfig, twins.rollouts]
  have hbase : b.baseDetail flagKey user default now = a.baseDetail flagKey user default now := by
    simp only [Engine.baseDetail, twins.flags, hgate]
  simp only [Engine.detailOf, hbase]

/-! ## Operations -/

/-- What is put on record plays no part. -/
theorem recordExposure (twins : Twins a b) (assignment : Assignment) (user : User)
    (now : Instant) :
    Twins (a.recordExposure assignment user now) (b.recordExposure assignment user now) := by
  rw [Engine.recordExposure, Engine.recordExposure]
  split <;> split <;> exact { twins with }

theorem recordEvaluation (twins : Twins a b) (flagKey : String) (user : User)
    (detail : Detail FlagValue) (default : FlagValue) (now : Instant) :
    Twins (a.recordEvaluation flagKey user detail default now)
      (b.recordEvaluation flagKey user detail default now) := by
  rw [Engine.recordEvaluation, Engine.recordEvaluation]
  split <;> split <;> exact { twins with }

theorem addConversion (twins : Twins a b) (conversion : Conversion) :
    Twins (a.addConversion conversion) (b.addConversion conversion) := by
  rw [Engine.addConversion, Engine.addConversion]
  split <;> split <;> exact { twins with }

theorem evaluate (twins : Twins a b) (flagKey : String) (user : User) (default : FlagValue)
    (now : Instant) :
    BecomesTwins (.ok (a.evaluate flagKey user default now))
      (.ok (b.evaluate flagKey user default now)) := by
  refine .done ?_ ?_
  · rw [Engine.evaluate, Engine.evaluate, twins.assignment?, twins.detailOf]
  · rw [Engine.evaluate, Engine.evaluate, twins.assignment?, twins.detailOf]
    dsimp only
    split
    · exact (twins.recordExposure _ user now).recordEvaluation ..
    · exact twins.recordEvaluation ..

theorem recordConversion (twins : Twins a b) (experimentId variantId user kind : String)
    (value : Float) (now : Instant) :
    BecomesTwins (a.recordConversion experimentId variantId user kind value now)
      (b.recordConversion experimentId variantId user kind value now) := by
  rw [Engine.recordConversion, Engine.recordConversion, Engine.find, Engine.find]
  rcases twins.cases_get? experimentId with ⟨ha, hb⟩ | ⟨e, results, ha, hb⟩
  · rw [ha, hb]
    exact .refused _ _
  · have hvariant : { e with results }.variant? variantId = e.variant? variantId := rfl
    rw [ha, hb, ok_bind, ok_bind, hvariant]
    cases e.variant? variantId with
    | none => exact .refused _ _
    | some _ => exact .done rfl (twins.addConversion _)

theorem moveExperiment (twins : Twins a b) (id : String) (move : Move) (now : Instant) :
    BecomesTwins (a.moveExperiment id move now) (b.moveExperiment id move now) := by
  rw [Engine.moveExperiment, Engine.moveExperiment, Engine.experiment, Engine.experiment,
    Engine.find, Engine.find]
  rcases twins.cases_get? id with ⟨ha, hb⟩ | ⟨e, results, ha, hb⟩
  · rw [ha, hb]
    exact .refused _ _
  · rw [ha, hb, ok_bind, ok_bind]
    dsimp only
    split
    · exact .done rfl (twins.insert id (e.withoutResults_moved results move _ _ now))
    · exact .refused _ _

theorem createExperiment (twins : Twins a b) (e : Experiment) :
    BecomesTwins (a.createExperiment e) (b.createExperiment e) := by
  have hfree : Engine.requireFree b.experiments .experiment e.id =
      Engine.requireFree a.experiments .experiment e.id := by
    rw [Engine.requireFree, Engine.requireFree, Table.contains, Table.contains]
    rcases twins.cases_get? e.id with ⟨ha, hb⟩ | ⟨_, _, ha, hb⟩
    · rw [ha, hb]
    · rw [ha, hb, Option.isSome_some, Option.isSome_some]
  rw [Engine.createExperiment, Engine.createExperiment, hfree]
  exact .bind _ fun _ => .bind _ fun _ => .bind _ fun _ => .done rfl (twins.insert _ rfl)

theorem updateExperiment (twins : Twins a b) (update : Experiment) :
    BecomesTwins (a.updateExperiment update) (b.updateExperiment update) := by
  rw [Engine.updateExperiment, Engine.updateExperiment, Engine.experiment, Engine.experiment,
    Engine.find, Engine.find]
  rcases twins.cases_get? update.id with ⟨ha, hb⟩ | ⟨e, results, ha, hb⟩
  · rw [ha, hb]
    exact .refused _ _
  · rw [ha, hb, ok_bind, ok_bind]
    have h := Experiment.withoutResults_updated e results update
    cases hupdated : e.updated update with
    | error failure =>
      rw [hupdated, Except.map, map_eq_error] at h
      rw [h]
      exact .refused _ _
    | ok changed =>
      rw [hupdated, Except.map, map_eq_ok] at h
      obtain ⟨changed', hchanged, hsame⟩ := h
      rw [hchanged]
      exact .done rfl (twins.insert _ hsame)

/-- A sweep treats an experiment the same but for the results, unless these are clear. -/
theorem withoutResults_swept (a b : Engine) (now : Instant) (e : Experiment)
    (results : Option Results) (unclear : ¬ a.Conclusive now e)
    (unclear' : ¬ b.Conclusive now { e with results }) :
    (b.swept now { e with results }).withoutResults = (a.swept now e).withoutResults := by
  have hstartable : Engine.isStartable now { e with results } = Engine.isStartable now e := rfl
  have hlive : { e with results }.isLive = e.isLive := rfl
  have hreviewed : (b.reviewed now { e with results }).withoutResults =
      (a.reviewed now e).withoutResults := by
    have hexpired : { e with results }.isExpired now = e.isExpired now := rfl
    have hrunning : { e with results }.isRunning = e.isRunning := rfl
    rw [Engine.conclusive_iff] at unclear unclear'
    rw [Engine.reviewed, Engine.reviewed, hexpired, hrunning]
    cases expired : e.isExpired now with
    | true =>
      rw [if_pos rfl, if_pos rfl]
      exact e.withoutResults_moved results .expire _ _ now
    | false =>
      by_cases running : e.status = .running
      · have hunclear := Bool.eq_false_iff.mpr fun h => unclear ⟨running, expired, h⟩
        have hunclear' := Bool.eq_false_iff.mpr fun h => unclear' ⟨running, expired, h⟩
        rw [hunclear, hunclear']
        simp only [Bool.false_eq_true, if_false]
        split
        · exact (e.withoutResults_with (some _)).trans (e.withoutResults_with (some _)).symm
        · exact e.withoutResults_with results
      · simp only [Experiment.isRunning, running, Bool.false_eq_true, if_false, decide_false]
        rfl
  rw [Engine.swept, Engine.swept, hstartable, hlive]
  split
  · exact e.withoutResults_moved results .start _ _ now
  · split
    · exact hreviewed
    · rfl

theorem withExperiments (twins : Twins a b) {experiments experiments' : Table Experiment}
    (h : experiments'.map (fun _ => withoutResults) = experiments.map fun _ => withoutResults) :
    Twins (a.withExperiments experiments) (b.withExperiments experiments') :=
  { twins with experiments := h }

theorem sweep (twins : Twins a b) (now : Instant)
    (unclear : ∀ id e, a.experiments.get? id = some e → ¬ a.Conclusive now e)
    (unclear' : ∀ id e, b.experiments.get? id = some e → ¬ b.Conclusive now e) :
    Twins (a.withExperiments (a.experiments.map fun _ e => a.swept now e))
      (b.withExperiments (b.experiments.map fun _ e => b.swept now e)) := by
  refine twins.withExperiments (Table.ext_get? fun id => ?_)
  rw [Table.get?_map, Table.get?_map, Table.get?_map, Table.get?_map]
  rcases twins.cases_get? id with ⟨ha, hb⟩ | ⟨e, results, ha, hb⟩
  · simp only [ha, hb, Option.map_none]
  · have hswept := withoutResults_swept a b now e results (unclear id e ha) (unclear' id _ hb)
    rw [ha, hb, Option.map_some, Option.map_some, Option.map_some, Option.map_some, hswept]

theorem monitorExperiments (twins : Twins a b) (keyed : a.Keyed) (keyed' : b.Keyed)
    (now : Instant)
    (unclear : ∀ id e, a.experiments.get? id = some e → ¬ a.Conclusive now e)
    (unclear' : ∀ id e, b.experiments.get? id = some e → ¬ b.Conclusive now e) :
    BecomesTwins (.ok (a.monitorExperiments now)) (.ok (b.monitorExperiments now)) := by
  refine .done ?_ ?_
  · rw [Engine.signals_monitorExperiments, Engine.signals_monitorExperiments]
  · obtain ⟨_, hconfig⟩ := twins.config
    have hsame : b.config.experimentationEnabled = a.config.experimentationEnabled := by
      rw [hconfig]
    cases enabled : a.config.experimentationEnabled with
    | false =>
      rw [Engine.engine_monitorExperiments_of_disabled enabled,
        Engine.engine_monitorExperiments_of_disabled (hsame.trans enabled)]
      exact twins
    | true =>
      rw [Engine.engine_monitorExperiments keyed enabled,
        Engine.engine_monitorExperiments keyed' (hsame.trans enabled)]
      exact twins.sweep now unclear unclear'

/-- An operation makes twins of twins, unless it is a sweep that finds clear results. -/
theorem perform (twins : Twins a b) (keyed : a.Keyed) (keyed' : b.Keyed) (now : Instant)
    (operation : Operation)
    (unclear : operation = .monitorExperiments →
      ∀ id e, a.experiments.get? id = some e → ¬ a.Conclusive now e)
    (unclear' : operation = .monitorExperiments →
      ∀ id e, b.experiments.get? id = some e → ¬ b.Conclusive now e) :
    BecomesTwins (a.perform now operation) (b.perform now operation) := by
  have hrollouts : ∀ (id : String) (rollout : Rollout) (progress : Progress),
      Twins (a.withProgress id rollout progress) (b.withProgress id rollout progress) :=
    fun id rollout progress =>
      { twins with rollouts := congrArg (Table.insert · id _) twins.rollouts }
  cases operation with
  | upsertFlag flag =>
    refine .map _ (.bind _ fun _ => .done rfl ?_)
    exact { twins with flags := congrArg (Table.insert · _ _) twins.flags }
  | deleteFlag key =>
    refine .map _ ?_
    rw [Engine.deleteFlag, Engine.deleteFlag, twins.flags]
    refine .bind _ fun _ => .done rfl ?_
    exact { twins with flags := rfl }
  | createSegment segment =>
    refine .map _ ?_
    rw [Engine.createSegment, Engine.createSegment, twins.segments]
    refine .bind _ fun _ => .bind _ fun _ => .done rfl ?_
    exact { twins with segments := rfl }
  | deleteSegment id =>
    refine .map _ ?_
    rw [Engine.deleteSegment, Engine.deleteSegment, Engine.segment, Engine.segment,
      twins.segments]
    refine .bind _ fun _ => .done rfl ?_
    exact { twins with segments := rfl }
  | createExperiment e => exact (twins.createExperiment e).map _
  | updateExperiment update => exact (twins.updateExperiment update).map _
  | scheduleExperiment id startTime => exact (twins.moveExperiment id _ now).map _
  | startExperiment id => exact (twins.moveExperiment id .start now).map _
  | pauseExperiment id => exact (twins.moveExperiment id .pause now).map _
  | resumeExperiment id => exact (twins.moveExperiment id .resume now).map _
  | stopExperiment id => exact (twins.moveExperiment id .stop now).map _
  | archiveExperiment id => exact (twins.moveExperiment id .archive now).map _
  | registerStrategy strategy =>
    refine .map _ (.bind _ fun _ => .done rfl ?_)
    exact { twins with rollouts := congrArg (Table.insert · _ _) twins.rollouts }
  | advanceRollout id =>
    refine .map _ ?_
    rw [Engine.advanceRollout, Engine.advanceRollout, Engine.rollout, Engine.rollout,
      twins.rollouts]
    refine .bind _ fun rollout => ?_
    dsimp only
    split
    · exact .done rfl (hrollouts id rollout _)
    · exact .refused _ _
  | pauseRollout id =>
    refine .map _ ?_
    rw [Engine.pauseRollout, Engine.pauseRollout, Engine.rollout, Engine.rollout, twins.rollouts]
    exact .bind _ fun rollout => .done rfl (hrollouts id rollout _)
  | resumeRollout id =>
    refine .map _ ?_
    rw [Engine.resumeRollout, Engine.resumeRollout, Engine.rollout, Engine.rollout,
      twins.rollouts]
    exact .bind _ fun rollout => .done rfl (hrollouts id rollout _)
  | rollBack id =>
    refine .map _ ?_
    rw [Engine.rollBack, Engine.rollBack, Engine.rollout, Engine.rollout, twins.rollouts]
    exact .bind _ fun rollout => .done rfl (hrollouts id rollout _)
  | evaluate flagKey user default => exact (twins.evaluate flagKey user default now).map _
  | recordConversion experimentId variantId user kind value =>
    exact (twins.recordConversion experimentId variantId user kind value now).map _
  | monitorExperiments =>
    exact (twins.monitorExperiments keyed keyed' now (unclear rfl) (unclear' rfl)).map _
  | monitorRollouts metrics =>
    refine .done rfl { twins with rollouts := ?_ }
    simp only [Outcome.map, Engine.monitorRollouts, twins.rollouts]
  | processAnalytics => exact .done rfl { twins with }
  | cleanupAnalytics => exact .done rfl { twins with }

end Twins

/-! ## Runs -/

/-- No sweep among the operations finds clear results. -/
def Undecided (made : List Made) : Prop :=
  ∀ m ∈ made, m.operation = .monitorExperiments →
    ∀ id e, m.engine.experiments.get? id = some e → ¬ m.engine.Conclusive m.now e

/-- With nothing on record no results are clear. -/
theorem Analytics.Unrecorded.not_conclusive {engine : Engine}
    (unrecorded : engine.analytics.Unrecorded) (now : Instant) (e : Experiment) :
    ¬ engine.Conclusive now e := by
  rintro ⟨-, -, significant, -⟩
  have hsamples : engine.analytics.log.samples e.id = .empty :=
    unrecorded.reportsNothing.samples e.id
  rw [Engine.compare, hsamples, Experiment.significant_compare_empty] at significant
  cases significant

/-- Of two twins the one without analytics reports the same as the other one, as long as no sweep
of that one finds clear results. -/
theorem Twins.signals_made {a b : Engine} (twins : Twins a b) (keyed : a.Keyed) (keyed' : b.Keyed)
    (disabled : b.config.analyticsEnabled = false) (unrecorded : b.analytics.Unrecorded)
    {operations : List (Instant × Operation)} (undecided : Undecided (a.made operations)) :
    (b.made operations).flatMap Made.signals = (a.made operations).flatMap Made.signals := by
  induction operations generalizing a b with
  | nil => rfl
  | cons head rest ih =>
    obtain ⟨now, operation⟩ := head
    have hbecomes := twins.perform keyed keyed' now operation
      (undecided _ List.mem_cons_self) fun _ _ e _ => unrecorded.not_conclusive now e
    have hsignals : (Made.mk b now operation).signals = (Made.mk a now operation).signals := by
      rw [Made.signals, Made.signals]
      dsimp only
      generalize a.perform now operation = r, b.perform now operation = r' at hbecomes
      cases hbecomes with
      | refused _ _ => rfl
      | done signals _ => exact signals
    have hstep : Twins (a.step now operation) (b.step now operation) := by
      rw [Engine.step, Engine.step]
      generalize a.perform now operation = r, b.perform now operation = r' at hbecomes
      cases hbecomes with
      | refused _ _ => exact twins
      | done _ twins => exact twins
    have hdisabled : (b.step now operation).config.analyticsEnabled = false := by
      rw [Engine.config_step keyed', disabled]
    have hrest := ih hstep (keyed.step now operation) (keyed'.step now operation) hdisabled
      (Made.unrecorded_step (m := ⟨b, now, operation⟩) keyed' disabled unrecorded)
      fun m hm => undecided m (List.mem_cons_of_mem _ hm)
    rw [Engine.made, Engine.made, List.flatMap_cons, List.flatMap_cons, hsignals, hrest]

namespace Engine

theorem keyed_seeded (config : Config) (start : Instant) : (seeded config start).engine.Keyed :=
  fun _ _ h => nomatch h

theorem unrecorded_seeded (config : Config) (start : Instant) :
    (seeded config start).engine.analytics.Unrecorded :=
  ⟨rfl, none, rfl⟩

theorem signals_seeded (config : Config) (start : Instant)
    (operations : List (Instant × Operation)) :
    ((seeded config start).andThenAll operations).signals =
      ((seeded config start).engine.made operations).flatMap Made.signals := by
  rw [Outcome.signals_andThenAll]
  rfl

/-- **The three accounts agree.** Whether or not analytics are on, what a run reports to the metrics
agrees with its calls: how they are answered, which variants are assigned, which conversions are
accepted and which of their values are positive. With analytics on and without a cleanup, the
recorded events agree with the calls too; with analytics off every report is empty. Analytics decide
what is reported in one way alone, by the clear results for which a sweep stops an experiment. -/
theorem accounts_agree (config : Config) (start : Instant)
    (operations : List (Instant × Operation)) :
    let engine := (seeded config start).engine
    let outcome := (seeded config start).andThenAll operations
    let silent := (seeded { config with analyticsEnabled := false } start).andThenAll operations
    MetersAgree outcome.signals (engine.made operations) ∧
      (config.analyticsEnabled = true → (∀ now, (now, Operation.cleanupAnalytics) ∉ operations) →
        RecordsAgree outcome.engine.analytics.log (engine.made operations)) ∧
      (config.analyticsEnabled = false → outcome.engine.analytics.ReportsNothing) ∧
      (Undecided (engine.made operations) → silent.signals = outcome.signals) := by
  intro engine outcome silent
  have keyed : engine.Keyed := keyed_seeded config start
  have hengine : outcome.engine = engine.run operations := Outcome.engine_andThenAll _ _
  refine ⟨?_, fun enabled kept => ?_, fun disabled => ?_, fun undecided => ?_⟩
  · rw [signals_seeded]
    exact keyed.metersAgree
  · rw [hengine]
    exact keyed.recordsAgree enabled rfl kept
  · rw [hengine]
    exact (keyed.unrecorded_run disabled (unrecorded_seeded config start)).reportsNothing
  · have twins : Twins engine (seeded { config with analyticsEnabled := false } start).engine :=
      ⟨⟨false, rfl⟩, rfl, rfl, rfl, rfl⟩
    rw [signals_seeded, signals_seeded]
    exact twins.signals_made keyed (keyed_seeded _ _) rfl (unrecorded_seeded _ _) undecided

/-! ### A comparison that a sweep meets before it is visited

The variants have no values, so nobody is answered by the experiment, and still everybody counts as
exposed. -/

/-- The sweep, the visits and a conversion. -/
def sweptVisits : List (Instant × Operation) :=
  [(.ofNanos 3, .monitorExperiments), (.ofNanos 4, visit "ann"), (.ofNanos 5, visit "kim"),
    (.ofNanos 6, .recordConversion "colours" "green" "ann" "purchase" 20.0)]

/-- The comparison is started, swept and visited. -/
def sweptRun : List (Instant × Operation) := coloursRun.take 2 ++ sweptVisits

/-- The sweep comes before anything is on record. -/
theorem undecided_sweptRun :
    Undecided ((seeded (.standard (.ofNanos 0)) (.ofNanos 0)).engine.made sweptRun) := by
  have unrecorded : ((seeded (.standard (.ofNanos 0)) (.ofNanos 0)).engine.run
      (coloursRun.take 2)).analytics.Unrecorded := ⟨rfl, none, rfl⟩
  intro m hm sweeps id e _
  rw [sweptRun, made_append, List.mem_append] at hm
  rcases hm with hm | hm
  · have hmem := Made.mem_of_mem_made hm
    simp [coloursRun, sweeps] at hmem
  rcases List.mem_cons.mp hm with rfl | hm
  · exact unrecorded.not_conclusive _ e
  · have hmem := Made.mem_of_mem_made hm
    simp [visit, sweeps] at hmem

theorem accounts_agree_colours :
    let engine := (seeded (.standard (.ofNanos 0)) (.ofNanos 0)).engine
    let outcome := (seeded (.standard (.ofNanos 0)) (.ofNanos 0)).andThenAll sweptRun
    let off : Config := { Config.standard (.ofNanos 0) with analyticsEnabled := false }
    engine.config.analyticsEnabled = true ∧
      (∀ now, (now, Operation.cleanupAnalytics) ∉ sweptRun) ∧
      Undecided (engine.made sweptRun) ∧
      outcome.signals.count (.exposure "colours" "green") = 1 ∧
      outcome.signals.count (.evaluation "colour" "error") = 2 ∧
      RecordsAgree outcome.engine.analytics.log (engine.made sweptRun) ∧
      ((seeded off (.ofNanos 0)).andThenAll sweptRun).engine.analytics.ReportsNothing ∧
      ((seeded off (.ofNanos 0)).andThenAll sweptRun).signals = outcome.signals := by
  have kept : ∀ now, (now, Operation.cleanupAnalytics) ∉ sweptRun := by
    simp [sweptRun, sweptVisits, coloursRun, visit]
  obtain ⟨hmeters, hrecords, -, hsilent⟩ :=
    accounts_agree (.standard (.ofNanos 0)) (.ofNanos 0) sweptRun
  obtain ⟨-, -, hnothing, -⟩ :=
    accounts_agree { Config.standard (.ofNanos 0) with analyticsEnabled := false } (.ofNanos 0)
      sweptRun
  have hcalls :
      ((seeded (.standard (.ofNanos 0)) (.ofNanos 0)).engine.made sweptRun).countP
          (·.assigns "colours" "green") = 1 ∧
        ((seeded (.standard (.ofNanos 0)) (.ofNanos 0)).engine.made sweptRun).countP
          (·.answers "colour" "error") = 2 := by
    decide +kernel
  have hexposures := (hmeters.exposures "colours" "green").trans hcalls.1
  have hevaluations := (hmeters.evaluations "colour" "error").trans hcalls.2
  exact ⟨rfl, kept, undecided_sweptRun, hexposures, hevaluations, hrecords rfl kept, hnothing rfl,
    hsilent undecided_sweptRun⟩

/-! ### A comparison that a sweep decides

Two visits and a conversion give clear results, so that a sweep stops the comparison. Who comes back
after that is not exposed any more. With analytics off nothing is clear, and the visit counts. -/

/-- A configuration for which few users are enough. -/
def hasty (analyticsEnabled : Bool) : Config :=
  { Config.standard (.ofNanos 0) with analyticsEnabled, significance := 0.8, minSampleSize := 2 }

/-- What is done before the sweep. -/
def boughtRun : List (Instant × Operation) :=
  coloursRun.take 2 ++ [(.ofNanos 3, visit "ann"), (.ofNanos 4, visit "kim"),
    (.ofNanos 5, .recordConversion "colours" "green" "ann" "purchase" 20.0)]

/-- The sweep, and a visit after it. -/
def returnVisit : List (Instant × Operation) :=
  [(.ofNanos 6, .monitorExperiments), (.ofNanos 7, visit "ann")]

/-- The comparison is the only experiment, and runs. -/
theorem values_boughtRun (config : Config) (start : Instant) :
    ((seeded config start).engine.run boughtRun).experiments.values = [runningColours] := by
  have visited (engine : Engine) (now : Instant) (user : String) :
      (engine.step now (visit user)).experiments = engine.experiments := experiments_evaluate ..
  have converted (engine : Engine) (now : Instant) (variantId user kind : String) (value : Float) :
      (engine.step now (.recordConversion "colours" variantId user kind value)).experiments =
        engine.experiments := by
    have heffect := effect_step engine now (.recordConversion "colours" variantId user kind value)
    generalize engine.step now _ = after at heffect ⊢
    cases heffect with
    | refused _ => rfl
    | converted => exact experiments_addConversion ..
    | stepped _ control => cases control
    | moved move => cases move
  rw [boughtRun, run_append, run, List.foldl_cons, List.foldl_cons, List.foldl_cons,
    List.foldl_nil, converted, visited, visited]
  rfl

/-- The two visits are enough. -/
theorem conclusive_boughtRun :
    ((seeded (hasty true) (.ofNanos 0)).engine.run boughtRun).Conclusive (.ofNanos 6)
      runningColours := by
  have hsamples : (((seeded (hasty true) (.ofNanos 0)).engine.run boughtRun).analytics.log.samples
      "colours").entries = [("blue", ⟨1, 0⟩), ("green", ⟨1, 1⟩)] := by
    rw [EventLog.samples, funext (EventLog.sampleOf_eq_card _ _)]
    decide +kernel
  have hcompare : ∀ samples : Table Sample,
      samples.entries = [("blue", ⟨1, 0⟩), ("green", ⟨1, 1⟩)] →
        (runningColours.compare samples 0.8 2 (.ofNanos 6)).significant = true ∧
          (runningColours.compare samples 0.8 2 (.ofNanos 6)).confidence ≥ 0.8 := by
    rintro ⟨_, increasing⟩ rfl
    decide +kernel +revert
  have hconfig : ((seeded (hasty true) (.ofNanos 0)).engine.run boughtRun).config =
      (seeded (hasty true) (.ofNanos 0)).engine.config := (keyed_seeded ..).config_run _
  have hid : runningColours.id = "colours" := rfl
  refine ⟨rfl, by rw [ended_iff]; decide, ?_⟩
  rw [compare, hid, hconfig]
  exact hcompare _ hsamples

/-- A sweep leaves the only experiment as what it makes of it. -/
theorem experimentFor?_swept {engine : Engine} {now : Instant} {e : Experiment}
    (keyed : engine.Keyed) (enabled : engine.config.experimentationEnabled = true)
    (only : engine.experiments.values = [e]) (flagKey : String) :
    (engine.step now .monitorExperiments).experimentFor? flagKey =
      [engine.swept now e].find? fun e => e.isRunning && e.affectsFlag flagKey := by
  have hswept : engine.step now .monitorExperiments =
      engine.withExperiments (engine.experiments.map fun _ e => engine.swept now e) :=
    engine_monitorExperiments keyed enabled
  rw [hswept, experimentFor?, withExperiments]
  dsimp only
  rw [Table.values_map, only, List.map_singleton]

/-- A visitor of the running comparison sees green, whatever segments are registered. -/
theorem assign_ann (registered : Table Segment) (enabled : Bool) (results : Option Results) :
    (Experiment.assign { runningColours with results } registered enabled { id := "ann" }).any
      (·.id == "green") = true := by
  have hassign :
      Experiment.assign { runningColours with results } registered enabled { id := "ann" } =
        runningColours.assign .empty true { id := "ann" } := by
    cases enabled <;> rfl
  rw [hassign]
  decide +kernel

/-- The visit after the sweep is assigned green unless the sweep has found clear results. -/
theorem countP_returnVisit {engine : Engine} (keyed : engine.Keyed)
    (enabled : engine.config.experimentationEnabled = true)
    (only : engine.experiments.values = [runningColours]) :
    (engine.made returnVisit).countP (·.assigns "colours" "green") =
      if engine.isConclusive (engine.compare runningColours (.ofNanos 6)) then 0 else 1 := by
  let after := engine.step (.ofNanos 6) .monitorExperiments
  have hmade : engine.made returnVisit =
      [⟨engine, .ofNanos 6, .monitorExperiments⟩, ⟨after, .ofNanos 7, visit "ann"⟩] := rfl
  have hended : ¬ runningColours.Ended (.ofNanos 6) := by
    rw [ended_iff]
    decide
  have hassigned : after.assignment? "colour" { id := "ann" } =
      ([engine.swept (.ofNanos 6) runningColours].find? fun e =>
        e.isRunning && e.affectsFlag "colour").bind fun e =>
          (e.assign after.segments after.config.segmentationEnabled { id := "ann" }).map fun v =>
            ⟨e.id, v.id, v.value?⟩ := by
    rw [assignment?, experimentFor?_swept keyed enabled only, if_pos]
    rw [config_step keyed, enabled]
  rw [hmade, List.countP_cons_of_neg Bool.false_ne_true]
  by_cases hclear : engine.isConclusive (engine.compare runningColours (.ofNanos 6)) = true
  · have hconclusive :=
      conclusive_iff.mpr ⟨rfl, isExpired_of_not_ended rfl hended, hclear⟩
    rw [if_pos hclear, List.countP_cons_of_neg, List.countP_nil]
    rw [Made.assigns, visit]
    dsimp only
    rw [hassigned, swept_of_conclusive hconclusive]
    exact Bool.false_ne_true
  · have hconclusive := mt (fun h => (conclusive_iff.mp h).2.2) hclear
    rw [if_neg hclear, List.countP_cons_of_pos, List.countP_nil]
    rw [Made.assigns, visit]
    dsimp only
    rw [hassigned, swept_of_running rfl hended hconclusive, List.find?_cons_of_pos (by rfl),
      Option.bind_some, Option.any_map]
    exact assign_ann ..

/-- The visit after the sweep adds to the exposures that are reported before. -/
theorem count_returnVisit {config : Config} (enabled : config.experimentationEnabled = true) :
    let bought := (seeded config (.ofNanos 0)).engine.run boughtRun
    ((seeded config (.ofNanos 0)).andThenAll (boughtRun ++ returnVisit)).signals.count
        (.exposure "colours" "green") =
      (((seeded config (.ofNanos 0)).engine.made boughtRun).flatMap Made.signals).count
          (.exposure "colours" "green") +
        if bought.isConclusive (bought.compare runningColours (.ofNanos 6)) then 0 else 1 := by
  intro bought
  have keyed : bought.Keyed := (keyed_seeded config _).run boughtRun
  have henabled : bought.config.experimentationEnabled = true := by
    rw [(keyed_seeded config _).config_run]
    exact enabled
  rw [signals_seeded, made_append, List.flatMap_append, List.count_append,
    keyed.metersAgree.exposures, countP_returnVisit keyed henabled (values_boughtRun ..)]

/-- Clear results set the accounts apart: without analytics one more exposure is reported. -/
theorem clear_results_apart :
    Engine.new (hasty true) (.ofNanos 0) = .ok (seeded (hasty true) (.ofNanos 0)) ∧
      hasty false = { hasty true with analyticsEnabled := false } ∧
      (∀ now, (now, Operation.cleanupAnalytics) ∉ boughtRun ++ returnVisit) ∧
      ((seeded (hasty false) (.ofNanos 0)).andThenAll (boughtRun ++ returnVisit)).signals.count
          (.exposure "colours" "green") =
        ((seeded (hasty true) (.ofNanos 0)).andThenAll (boughtRun ++ returnVisit)).signals.count
          (.exposure "colours" "green") + 1 := by
  have hnew : Engine.new (hasty true) (.ofNanos 0) = .ok (seeded (hasty true) (.ofNanos 0)) := by
    have hvalid : (hasty true).failure? = none := by decide +kernel
    rw [Engine.new, hvalid]
  have hkept : ∀ now, (now, Operation.cleanupAnalytics) ∉ boughtRun ++ returnVisit := by
    simp [boughtRun, returnVisit, coloursRun, visit]
  -- up to the sweep both engines report the same
  have undecided : Undecided ((seeded (hasty true) (.ofNanos 0)).engine.made boughtRun) := by
    intro m hm sweeps
    have hmem := Made.mem_of_mem_made hm
    simp [boughtRun, coloursRun, visit, sweeps] at hmem
  have twins : Twins (seeded (hasty true) (.ofNanos 0)).engine
      (seeded (hasty false) (.ofNanos 0)).engine := ⟨⟨false, rfl⟩, rfl, rfl, rfl, rfl⟩
  have hbefore := twins.signals_made (keyed_seeded ..) (keyed_seeded ..) rfl
    (unrecorded_seeded ..) undecided
  have hclear := (conclusive_iff.mp conclusive_boughtRun).2.2
  have unrecorded := @Keyed.unrecorded_run _ boughtRun (keyed_seeded (hasty false) (.ofNanos 0)) rfl
    (unrecorded_seeded ..)
  have hunclear := mt (fun h => conclusive_iff.mpr ⟨rfl, rfl, h⟩)
    (unrecorded.not_conclusive (.ofNanos 6) runningColours)
  refine ⟨hnew, rfl, hkept, ?_⟩
  have hsilent := @count_returnVisit (hasty false) rfl
  have hcount := @count_returnVisit (hasty true) rfl
  dsimp only at hsilent hcount
  rw [if_neg hunclear, hbefore] at hsilent
  rw [if_pos hclear, Nat.add_zero] at hcount
  rw [hsilent, hcount]

end Engine

end FeatureTrials
