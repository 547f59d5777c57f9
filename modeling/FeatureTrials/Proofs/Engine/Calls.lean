import FeatureTrials.Proofs.Analytics.Reordering
import FeatureTrials.Proofs.Engine.Accounts

/-!
# Evaluations and conversions in any order

Calls that evaluate flags and record conversions, all at one reading of the clock, can be made in
any order. None of them looks at the events on record, and they change nothing else, so that each
gets the reply it would get alone; and since the events they add are the same, so are all reports.

* `Engine.replies` — the calls, each with what it gives back.
* `Engine.called` — the engine after the calls, which is the engine before them but for its log
  (`Engine.exists_called_eq_withLog`).
* `Engine.EqualButForOrder` — two engines that differ in the order of their events alone.
-/

namespace FeatureTrials

namespace Engine

variable {engine : Engine} {now : Instant} {call : Operation} {calls : List Operation}

/-! ## Calls and what they give back -/

/-- What an operation gives back, the answer and what operators and the metrics are told, or why it
is refused. -/
def reply (engine : Engine) (now : Instant) (call : Operation) :
    Except Failure (Answer × List Notice × List Signal) :=
  (engine.perform now call).map fun outcome => (outcome.answer, outcome.notices, outcome.signals)

/-- Calls made one after the other at one reading of the clock, each with its reply. -/
def replies (engine : Engine) (now : Instant) :
    List Operation → List (Operation × Except Failure (Answer × List Notice × List Signal))
  | [] => []
  | call :: rest => (call, engine.reply now call) :: (engine.step now call).replies now rest

/-- The engine after calls made one after the other at one reading of the clock. -/
def called (engine : Engine) (now : Instant) (calls : List Operation) : Engine :=
  engine.run (calls.map (now, ·))

/-! ## Nothing but the log changes -/

/-- The engine with another log of events. -/
def withLog (engine : Engine) (log : EventLog) : Engine :=
  { engine with analytics := { engine.analytics with log } }

@[simp] theorem withLog_withLog (engine : Engine) (first second : EventLog) :
    (engine.withLog first).withLog second = engine.withLog second := rfl

/-- Evaluations and conversions change nothing but the log. -/
theorem exists_step_eq_withLog (engine : Engine) (now : Instant) (counted : call.IsCounted) :
    ∃ log, engine.step now call = engine.withLog log := by
  have hexposure (engine : Engine) (assignment : Assignment) (user : User) :
      ∃ log, engine.recordExposure assignment user now = engine.withLog log := by
    rw [recordExposure]
    split
    · exact ⟨_, rfl⟩
    · exact ⟨engine.analytics.log, rfl⟩
  have hevaluation (engine : Engine) (flagKey : String) (user : User) (detail : Detail FlagValue)
      (default : FlagValue) :
      ∃ log, engine.recordEvaluation flagKey user detail default now = engine.withLog log := by
    rw [recordEvaluation]
    split
    · exact ⟨_, rfl⟩
    · exact ⟨engine.analytics.log, rfl⟩
  cases call with
  | evaluate flagKey user default =>
    rw [step, perform]
    dsimp only [evaluate, Outcome.map]
    cases engine.assignment? flagKey user with
    | none => exact hevaluation ..
    | some assignment =>
      obtain ⟨log, hexposed⟩ := hexposure engine assignment user
      obtain ⟨log', hevaluated⟩ := hevaluation (engine.withLog log) flagKey user
        (engine.detailOf (some assignment) flagKey user default now) default
      refine ⟨log', ?_⟩
      dsimp only
      rw [hexposed, hevaluated, withLog_withLog]
  | recordConversion experimentId variantId user kind value =>
    rw [step]
    split
    · next outcome hperform =>
      obtain ⟨inner, hinner, rfl⟩ := map_eq_ok.mp hperform
      obtain ⟨hengine, -⟩ := recordConversion_eq_ok hinner
      rw [Outcome.map, hengine, addConversion]
      split
      · exact ⟨_, rfl⟩
      · exact ⟨engine.analytics.log, rfl⟩
    · exact ⟨engine.analytics.log, rfl⟩
  | _ => cases counted

/-- With analytics off, evaluations and conversions change nothing at all. -/
theorem step_of_disabled (disabled : engine.config.analyticsEnabled = false)
    (counted : call.IsCounted) : engine.step now call = engine := by
  cases call with
  | evaluate flagKey user default =>
    rw [step, perform]
    dsimp only [evaluate, Outcome.map]
    cases engine.assignment? flagKey user <;>
      simp only [recordExposure, recordEvaluation, disabled, Bool.false_eq_true, if_false]
  | recordConversion experimentId variantId user kind value =>
    rw [step]
    split
    · next outcome hperform =>
      obtain ⟨inner, hinner, rfl⟩ := map_eq_ok.mp hperform
      obtain ⟨hengine, -⟩ := recordConversion_eq_ok hinner
      rw [Outcome.map, hengine, addConversion, if_neg (by rw [disabled]; exact Bool.false_ne_true)]
    · rfl
  | _ => cases counted

theorem exists_called_eq_withLog (engine : Engine) (now : Instant)
    (counted : ∀ call ∈ calls, call.IsCounted) :
    ∃ log, engine.called now calls = engine.withLog log := by
  induction calls generalizing engine with
  | nil => exact ⟨engine.analytics.log, rfl⟩
  | cons call rest ih =>
    obtain ⟨hcall, hrest⟩ := List.forall_mem_cons.mp counted
    obtain ⟨log, hstep⟩ := exists_step_eq_withLog engine now hcall
    obtain ⟨log', hcalled⟩ := ih (engine.step now call) hrest
    refine ⟨log', hcalled.trans ?_⟩
    rw [hstep, withLog_withLog]

theorem called_of_disabled (disabled : engine.config.analyticsEnabled = false)
    (counted : ∀ call ∈ calls, call.IsCounted) : engine.called now calls = engine := by
  induction calls with
  | nil => rfl
  | cons call rest ih =>
    obtain ⟨hcall, hrest⟩ := List.forall_mem_cons.mp counted
    rw [called, List.map_cons, run_cons, step_of_disabled disabled hcall]
    exact ih hrest

/-! ## Nobody looks at the log -/

/-- Looking for the conversion of a variant is all that can keep a conversion from being made. -/
theorem recordConversion_withLog (engine : Engine) (log : EventLog)
    (experimentId variantId user kind : String) (value : Float) (now : Instant) :
    (engine.withLog log).recordConversion experimentId variantId user kind value now =
      (engine.recordConversion experimentId variantId user kind value now).map fun outcome =>
        { outcome with
          engine := (engine.withLog log).addConversion
            ⟨user, experimentId, variantId, kind, value, now⟩ } := by
  have hfind : find (engine.withLog log).experiments .experiment experimentId =
      find engine.experiments .experiment experimentId := rfl
  rw [recordConversion, recordConversion, hfind]
  cases find engine.experiments .experiment experimentId with
  | error failure => rfl
  | ok e =>
    rw [ok_bind, ok_bind]
    cases (e.variant? variantId).isNone <;> rfl

/-- The reply to an evaluation or a conversion does not depend on the log. -/
theorem reply_withLog (log : EventLog) (counted : call.IsCounted) :
    (engine.withLog log).reply now call = engine.reply now call := by
  cases call with
  | evaluate flagKey user default => rfl
  | recordConversion experimentId variantId user kind value =>
    rw [reply, reply, perform, perform, recordConversion_withLog]
    cases engine.recordConversion experimentId variantId user kind value now <;> rfl
  | _ => cases counted

/-- Each call gets the reply that it would get alone. -/
theorem replies_eq (counted : ∀ call ∈ calls, call.IsCounted) :
    engine.replies now calls = calls.map fun call => (call, engine.reply now call) := by
  induction calls generalizing engine with
  | nil => rfl
  | cons call rest ih =>
    obtain ⟨hcall, hrest⟩ := List.forall_mem_cons.mp counted
    obtain ⟨log, hstep⟩ := exists_step_eq_withLog engine now hcall
    rw [replies, ih hrest, hstep, List.map_cons]
    congr 1
    refine List.map_congr_left fun later hlater => ?_
    rw [reply_withLog log (hrest later hlater)]

/-! ## The events of calls -/

/-- A kind of event that operations cause regardless of the events on record. -/
def LogFree {α : Type} (event? : Made → Option α) : Prop :=
  ∀ engine log now call, event? ⟨withLog engine log, now, call⟩ = event? ⟨engine, now, call⟩

theorem logFree_exposure? : LogFree Made.exposure? := by
  intro engine log now call
  cases call <;> rfl

theorem logFree_evaluation? : LogFree Made.evaluation? := by
  intro engine log now call
  cases call <;> rfl

theorem logFree_conversion? : LogFree Made.conversion? := by
  intro engine log now call
  cases call with
  | recordConversion experimentId variantId user kind value =>
    rw [Made.conversion?, Made.conversion?]
    dsimp only [perform]
    rw [recordConversion_withLog]
    cases engine.recordConversion experimentId variantId user kind value now <;> rfl
  | _ => rfl

/-- The events of calls are those that they would cause alone. -/
theorem LogFree.filterMap_made {α : Type} {event? : Made → Option α} (free : LogFree event?)
    (counted : ∀ call ∈ calls, call.IsCounted) :
    (engine.made (calls.map (now, ·))).filterMap event? =
      calls.filterMap fun call => event? ⟨engine, now, call⟩ := by
  induction calls generalizing engine with
  | nil => rfl
  | cons call rest ih =>
    obtain ⟨hcall, hrest⟩ := List.forall_mem_cons.mp counted
    obtain ⟨log, hstep⟩ := exists_step_eq_withLog engine now hcall
    rw [List.map_cons, made, List.filterMap_cons, List.filterMap_cons, ih hrest, hstep]
    simp only [free engine log]

/-- Calls in another order put the same events on record. -/
theorem Keyed.reorders_called (keyed : engine.Keyed) (now : Instant) {reordered : List Operation}
    (perm : calls.Perm reordered) (counted : ∀ call ∈ calls, call.IsCounted) :
    (engine.called now calls).analytics.log.Reorders
      (engine.called now reordered).analytics.log := by
  have hcounted : ∀ call ∈ reordered, call.IsCounted :=
    fun call hcall => counted call (perm.mem_iff.mpr hcall)
  cases enabled : engine.config.analyticsEnabled with
  | false =>
    rw [called_of_disabled enabled counted, called_of_disabled enabled hcounted]
    exact ⟨.refl _, .refl _, .refl _⟩
  | true =>
    have hkept : ∀ {calls : List Operation}, (∀ call ∈ calls, call.IsCounted) →
        ∀ time, (time, Operation.cleanupAnalytics) ∉ calls.map (now, ·) := by
      intro calls counted time hmem
      obtain ⟨call, hcall, heq⟩ := List.mem_map.mp hmem
      cases heq
      exact counted _ hcall
    have hadds := keyed.adds_run enabled (hkept counted)
    have hadds' := keyed.adds_run enabled (hkept hcounted)
    have hevents {α : Type} {event? : Made → Option α} (free : LogFree event?)
        (before : List α) :
        (before ++ (engine.made (calls.map (now, ·))).filterMap event?).Perm
          (before ++ (engine.made (reordered.map (now, ·))).filterMap event?) := by
      rw [free.filterMap_made counted, free.filterMap_made hcounted]
      exact (perm.filterMap _).append_left _
    refine ⟨?_, ?_, ?_⟩
    · rw [called, called, hadds.exposures, hadds'.exposures]
      exact hevents logFree_exposure? _
    · rw [called, called, hadds.conversions, hadds'.conversions]
      exact hevents logFree_conversion? _
    · rw [called, called, hadds.evaluations, hadds'.evaluations]
      exact hevents logFree_evaluation? _

/-! ## Any order -/

/-- Two engines that nothing tells apart but the order of their events. -/
structure EqualButForOrder (engine other : Engine) : Prop where
  config : engine.config = other.config
  experiments : engine.experiments = other.experiments
  segments : engine.segments = other.segments
  rollouts : engine.rollouts = other.rollouts
  flags : engine.flags = other.flags
  retention : engine.analytics.retention = other.analytics.retention
  totals : engine.analytics.totals = other.analytics.totals
  reportsLike : engine.analytics.log.ReportsLike other.analytics.log
  experimentResults : ∀ id later,
    engine.experimentResults id later = other.experimentResults id later

/-- Engines that differ in their logs, which have the same reports. -/
theorem EqualButForOrder.withLog {log other : EventLog} (like : log.ReportsLike other) :
    EqualButForOrder (engine.withLog log) (engine.withLog other) where
  config := rfl
  experiments := rfl
  segments := rfl
  rollouts := rfl
  flags := rfl
  retention := rfl
  totals := rfl
  reportsLike := like
  experimentResults id later := by
    have hcompare (e : Experiment) :
        (engine.withLog log).compare e later = (engine.withLog other).compare e later :=
      congrArg (e.compare · engine.config.significance engine.config.minSampleSize later)
        (like.samples e.id)
    simp only [Engine.experimentResults, hcompare]
    rfl

/-- **Calls commute.** Evaluations and conversions at one reading of the clock can be made in any
order: each of them gets the same reply, the one it would get alone, and the engines afterwards have
the same registries, reports and results. So a conversion counts the same before and after the
exposure of its user. -/
theorem calls_commute (reachable : Reachable engine) (now : Instant)
    {calls reordered : List Operation} (perm : calls.Perm reordered)
    (counted : ∀ call ∈ calls, call.IsCounted) :
    (∀ given ∈ engine.replies now calls, given.2 = engine.reply now given.1) ∧
      (engine.replies now calls).Perm (engine.replies now reordered) ∧
      (engine.called now calls).EqualButForOrder (engine.called now reordered) := by
  have hcounted : ∀ call ∈ reordered, call.IsCounted :=
    fun call hcall => counted call (perm.mem_iff.mpr hcall)
  refine ⟨fun given hgiven => ?_, ?_, ?_⟩
  · rw [replies_eq counted] at hgiven
    obtain ⟨call, -, rfl⟩ := List.mem_map.mp hgiven
    rfl
  · rw [replies_eq counted, replies_eq hcounted]
    exact perm.map _
  · have like := (reachable.keyed.reorders_called now perm counted).reportsLike
    obtain ⟨log, hcalled⟩ := exists_called_eq_withLog engine now counted
    obtain ⟨other, hreordered⟩ := exists_called_eq_withLog engine now hcounted
    rw [hcalled, hreordered] at like ⊢
    exact .withLog like

/-! ### A conversion before its exposure

One user converts before the flag is evaluated for them, and one who is never served converts
too. -/

/-- Three calls at one reading of the clock. -/
def coloursCalls : List Operation :=
  [visit "ann", .recordConversion "colours" "green" "ann" "purchase" 2.0,
    .recordConversion "colours" "blue" "bob" "purchase" 1.0]

/-- The engine with the comparison of colours running. -/
def coloursEngine : Engine := (Engine.standard (.ofNanos 0)).engine.run (coloursRun.take 2)

theorem calls_commute_colours :
    Reachable coloursEngine ∧
      coloursCalls.Perm coloursCalls.reverse ∧
      (∀ call ∈ coloursCalls, call.IsCounted) ∧
      ((coloursEngine.called (.ofNanos 3) coloursCalls.reverse).analytics.log.conversions.toList.map
        (·.user)) = ["bob", "ann"] ∧
      (coloursEngine.replies (.ofNanos 3) coloursCalls).Perm
        (coloursEngine.replies (.ofNanos 3) coloursCalls.reverse) ∧
      (coloursEngine.called (.ofNanos 3) coloursCalls).EqualButForOrder
        (coloursEngine.called (.ofNanos 3) coloursCalls.reverse) := by
  have reachable : Reachable coloursEngine := (Reachable.constructed (.standard _)).run _
  have perm : coloursCalls.Perm coloursCalls.reverse := (List.reverse_perm _).symm
  have counted : ∀ call ∈ coloursCalls, call.IsCounted := by
    simp [coloursCalls, visit, Operation.IsCounted]
  have converted :
      ((coloursEngine.called (.ofNanos 3) coloursCalls.reverse).analytics.log.conversions.toList.map
        (·.user)) = ["bob", "ann"] := by
    decide +kernel
  obtain ⟨-, replies, equal⟩ := calls_commute reachable (.ofNanos 3) perm counted
  exact ⟨reachable, perm, counted, converted, replies, equal⟩

end Engine

end FeatureTrials
